/-! # Commands

What is run, and how: a program with arguments or a line for the shell, and the options of one run.
-/

namespace ContainerBuild

/-- A program with its arguments, or a line for the shell. -/
structure Command where
  /-- The program, or the start of the shell's line. -/
  program : String
  /-- The arguments, which are part of the line when the shell runs it. -/
  args : List String := []
  /-- Whether the shell runs the command. -/
  viaShell : Bool := false
  deriving DecidableEq, Repr, Inhabited

namespace Command

/-- The command with further arguments. -/
def withArgs (c : Command) (args : List String) : Command := { c with args := c.args ++ args }

/-- The command with an option and its value as further arguments. -/
def withFlag (c : Command) (key value : String) : Command := c.withArgs [key, value]

/-- The program and the arguments with spaces between them. -/
def display (c : Command) : String := " ".intercalate (c.program :: c.args)

end Command

end ContainerBuild
