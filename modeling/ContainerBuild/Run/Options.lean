import ContainerBuild.Path

/-! # Options of a run

Where a command runs, which variables are set for it, whether its output is captured, and whether a
failure counts. A variable that is set again keeps only the last value.
-/

namespace ContainerBuild

/-- Where the output of a run goes. -/
inductive Streams where
  /-- To the streams of the caller. -/
  | inherited
  /-- Into the answer. -/
  | captured
  deriving DecidableEq, Repr, Inhabited

/-- The options of one run. -/
structure RunOptions where
  /-- The working directory, if it is not that of the caller. -/
  cwd : Option Path := none
  /-- Variables that are set for the run, sorted by name. -/
  env : List (String × String) := []
  /-- Whether a failure is only reported. -/
  ignoresFailure : Bool := false
  /-- Where the output goes. -/
  streams : Streams := .inherited
  deriving DecidableEq, Repr, Inhabited

namespace RunOptions

/-- The options of a run whose output is captured. -/
def captured : RunOptions := { streams := .captured }

/-- Puts a variable at its place in a list that is sorted by name. A variable of that name is
replaced. -/
def insertVariable (name value : String) : List (String × String) → List (String × String)
  | [] => [(name, value)]
  | entry :: rest =>
    if name < entry.1 then (name, value) :: entry :: rest
    else if name = entry.1 then (name, value) :: rest
    else entry :: insertVariable name value rest

/-- The options with a variable. -/
def withVariable (o : RunOptions) (name value : String) : RunOptions :=
  { o with env := insertVariable name value o.env }

end RunOptions

end ContainerBuild
