/-! # The program

Its name, its version and its description.
-/

namespace ContainerBuild.Program

/-- The name of the program. -/
def name : String := "imagescript"

/-- The version of the program. -/
def version : String := "0.3.0"

/-- What the program is for and how it is used. -/
def help : String :=
  "Synthesizes multi-stage container build files and runs the build tool\n\n" ++
  "Usage: imagescript [OPTIONS] <COMMAND>\n\n" ++
  "Commands:\n" ++
  "  render  Print the build file an image would be built from\n" ++
  "  build   Write the build file and run the build tool\n" ++
  "  config  Show the effective configuration\n" ++
  "  help    Print this message or the help of the given subcommand(s)\n"

end ContainerBuild.Program
