import ContainerBuild.Run.Outcome

/-! # Runs of child processes

What a system reports about a child process, and what a run answers for it. The bytes of a captured
stream are read as text; inherited streams leave the answer empty.
-/

namespace ContainerBuild

/-- What a system reports about a child process. -/
inductive ChildReport where
  /-- The program could not be started. -/
  | refused (cause : String)
  /-- The process ended, with an exit code unless a signal ended it. -/
  | ended (status : Option Int) (stdout stderr : Bytes)
  deriving DecidableEq, Repr, Inhabited

/-- The output that a run answers for a process that ended. -/
def RunOptions.output (o : RunOptions) (status : Option Int) (stdout stderr : Bytes) : Output :=
  match o.streams with
  | .inherited => { status }
  | .captured => ⟨status, Utf8.decodeLossy stdout, Utf8.decodeLossy stderr⟩

/-- The run of a command with the child process that was reported. -/
def ChildReport.finish (r : ChildReport) (c : Command) (o : RunOptions) : Finished :=
  match r with
  | refused cause => .notStarted c cause
  | ended status stdout stderr => .ended c (o.output status stdout stderr)

end ContainerBuild
