import ContainerBuild.Run.Outcome

/-! # Scripted runs

A script stands in for the programs of a system: each run takes the oldest outcome that is still
pending, and succeeds when none is left. Every run is recorded.
-/

namespace ContainerBuild

/-- What one run is to do. -/
inductive Scripted where
  /-- The program ends with an exit code and writes its output. -/
  | exits (status : Int) (stdout stderr : String)
  /-- The program cannot be started. -/
  | refuses (cause : String)
  deriving DecidableEq, Repr, Inhabited

/-- The outcome of a program that does nothing and succeeds. -/
def Scripted.succeeds : Scripted := exits 0 "" ""

/-- The run of a command for which the outcome is scripted. -/
def Scripted.finish (s : Scripted) (c : Command) : Finished :=
  match s with
  | exits status stdout stderr => .ended c ⟨some status, stdout, stderr⟩
  | refuses cause => .notStarted c cause

/-- A run that took place. -/
structure Invocation where
  /-- What was run. -/
  command : Command
  /-- How it was run. -/
  options : RunOptions
  deriving DecidableEq, Repr, Inhabited

/-- Outcomes to come and runs that took place. -/
structure Script where
  /-- The outcomes to come, the next one first. -/
  pending : List Scripted := []
  /-- The runs that took place, the first one first. -/
  invocations : List Invocation := []
  deriving DecidableEq, Repr, Inhabited

namespace Script

/-- The script with a further outcome at its end. -/
def push (s : Script) (outcome : Scripted) : Script := { s with pending := s.pending ++ [outcome] }

/-- The outcome of the next run. -/
def next (s : Script) : Scripted := s.pending.head?.getD .succeeds

/-- The script after one more run. -/
def advance (s : Script) (c : Command) (o : RunOptions) : Script :=
  ⟨s.pending.tail, s.invocations ++ [⟨c, o⟩]⟩

/-- Runs a command. -/
def run (s : Script) (c : Command) (o : RunOptions) : Except RunError Output × Script :=
  ((s.next.finish c).answer o, s.advance c o)

end Script

end ContainerBuild
