import ContainerBuild.Arguments.Reading

/-! # Arguments

What a command line asks for: one task with its own options, and how much is logged. What is not
given keeps its default, or is left to the settings.
-/

namespace ContainerBuild

/-- The description of an image on the command line. -/
structure ImageArguments where
  /-- The name. -/
  name : String
  /-- The platform. -/
  os : String
  /-- The image to build on. -/
  source : String
  /-- The installers to run, in order. -/
  installers : List Installer
  /-- The image that installers run on. -/
  installersImage : Option String
  /-- The directory of the staging directories, in place of that of the settings. -/
  contextsRoot : Option Path
  deriving DecidableEq, Repr, Inhabited

/-- What is to be done. -/
inductive Task where
  /-- Show the manifest. -/
  | render (image : ImageArguments) (format : Format)
  /-- Build the image, with a tool in place of that of the settings if one is given. -/
  | build (image : ImageArguments) (buildTool : Option String)
  /-- Show the settings. -/
  | config (format : Format)
  deriving DecidableEq, Repr, Inhabited

/-- What a command line asks for. -/
structure Arguments where
  /-- What is to be done. -/
  task : Task
  /-- The level of the log. -/
  logLevel : Option String
  /-- Whether faults are looked for. -/
  isVerbose : Bool
  /-- Whether only errors are logged. -/
  isQuiet : Bool
  deriving DecidableEq, Repr, Inhabited

namespace Arguments

namespace Reading

/-- The text of an argument. -/
def text? (r : Reading) (key : Key) : Option String :=
  r.taken.findSome? fun
    | (k, .text s) => if k == key then some s else none
    | _ => none

/-- The path of an argument. -/
def path? (r : Reading) (key : Key) : Option Path :=
  r.taken.findSome? fun
    | (k, .path p) => if k == key then some p else none
    | _ => none

/-- The format that is asked for. -/
def format? (r : Reading) : Option Format :=
  r.taken.findSome? fun
    | (_, .format f) => some f
    | _ => none

/-- The installers that are asked for. -/
def installers (r : Reading) : List Installer :=
  r.taken.filterMap fun
    | (_, .installer i) => some i
    | _ => none

/-- The description of the image. The platform is Linux if none is given. -/
def imageArguments (r : Reading) : ImageArguments where
  name := (r.text? .name).getD ""
  os := (r.text? .os).getD "linux"
  source := (r.text? .source).getD ""
  installers := r.installers
  installersImage := r.text? .installersImage
  contextsRoot := r.path? .contextsRoot

/-- What a command with its arguments asks for. -/
def task (r : Reading) : Verb → Task
  | .render => .render r.imageArguments (r.format?.getD .dockerfile)
  | .build => .build r.imageArguments (r.text? .buildTool)
  | .config => .config (r.format?.getD .human)

end Reading

/-- Reads a command line, without the name of the program. An option for the log counts on both
sides of the command, and the one behind it overrides the one before. -/
def ofList (args : List Bytes) : Except Refusal Arguments := do
  let (outer, verb, inner) ← Reading.readProgram {} args
  .ok {
    task := inner.task verb
    logLevel := (inner.text? .logLevel).or (outer.text? .logLevel)
    isVerbose := outer.has .verbose || inner.has .verbose
    isQuiet := outer.has .quiet || inner.has .quiet }

end Arguments

end ContainerBuild
