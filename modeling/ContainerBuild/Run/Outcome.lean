import ContainerBuild.Run.Command
import ContainerBuild.Run.Options
import ContainerBuild.Text.Lines

/-! # Outcomes of a run

The output of a finished process, the two ways to fail, and what the options of a run make of a
failure. The message of a failure holds its whole cause, every line behind a bar.
-/

namespace ContainerBuild

/-- The result of a process. -/
structure Output where
  /-- The exit code, unless the process never ran or a signal ended it. -/
  status : Option Int := none
  /-- What it wrote to its standard output. -/
  stdout : String := ""
  /-- What it wrote to its standard error. -/
  stderr : String := ""
  deriving DecidableEq, Repr, Inhabited

/-- Whether the process ended with exit code zero. -/
def Output.isSuccess (o : Output) : Bool := o.status == some 0

/-- The failure of a run. -/
inductive RunError where
  /-- The program could not be started. -/
  | notStarted (command cause : String)
  /-- The program ran and did not succeed. -/
  | failed (command : String) (status : Option Int) (stderr : String)
  deriving DecidableEq, Repr, Inhabited

namespace RunError

/-- What stands in front of every line of a cause. -/
def bar : String := "    | "

/-- The exit code of the program, if it ran to its end. -/
def exitCode : RunError → Option Int
  | notStarted _ _ => none
  | failed _ status _ => status

/-- How the program ended, on one line. -/
def statusLine : Option Int → String
  | some code => "Status " ++ toString code
  | none => "Terminated by signal"

/-- How the program ended, and what it wrote to its standard error. -/
def report (status : Option Int) (stderr : String) : String :=
  let trimmed := Text.trimEnd stderr
  if trimmed.isEmpty then statusLine status else statusLine status ++ "\n" ++ trimmed

/-- The command and, indented, the cause. -/
def message : RunError → String
  | notStarted command cause =>
    "Command '" ++ command ++ "' has failed:\n" ++ Text.indent bar cause
  | failed command status stderr =>
    "Command '" ++ command ++ "' has failed:\n" ++ Text.indent bar (report status stderr)

/-- The messages of the failure and of what caused it. -/
def chain : RunError → List String
  | notStarted command cause => [message (notStarted command cause), cause]
  | failed command status stderr => [message (failed command status stderr)]

end RunError

/-- A run that is over: its output, and its failure if it did not succeed. -/
structure Finished where
  /-- The output. -/
  output : Output
  /-- The failure, if there is one. -/
  error? : Option RunError := none
  deriving DecidableEq, Repr, Inhabited

namespace Finished

/-- The run of a command whose process ended by itself. Any end but exit code zero is a failure. -/
def ended (c : Command) (output : Output) : Finished where
  output := output
  error? :=
    if output.isSuccess then none else some (.failed c.display output.status output.stderr)

/-- The run of a command whose program could not be started. -/
def notStarted (c : Command) (cause : String) : Finished where
  output := {}
  error? := some (.notStarted c.display cause)

/-- What the run answers. If failures do not count, it answers the output of a failed run too. -/
def answer (f : Finished) (o : RunOptions) : Except RunError Output :=
  match f.error? with
  | none => .ok f.output
  | some error => if o.ignoresFailure then .ok f.output else .error error

end Finished

end ContainerBuild
