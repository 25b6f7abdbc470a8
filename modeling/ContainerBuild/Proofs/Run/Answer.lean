import ContainerBuild.Host
import ContainerBuild.Proofs.Run.Message
import ContainerBuild.Proofs.Text.Lossy
import ContainerBuild.Rehearsal

/-!
# Answers of scripted and real runs

A script stands in for the programs of a system. A run in a rehearsal answers what is scripted,
wherever the streams go. A system reads what the program wrote only if the streams are captured, and
answers nothing of it otherwise. So both answer alike if the streams are captured, and with inherited
streams only if the answer shows nothing that was written.

* `AnswerAlike` — two answers with the same output, or with failures that read the same.
* `Scripted.Shows` — the answer of a run shows something that the program wrote.
* `run_alike_iff` — when a rehearsal and a system answer alike.
-/

namespace ContainerBuild

/-! ### Answers of the same run -/

/-- Whether the program ran. -/
def RunError.hasRun : RunError → Bool
  | notStarted _ _ => false
  | failed _ _ _ => true

/-- Two runs answer alike: both their output, which is the same, or both a failure of the same
kind, with the same exit code and the same message. -/
def AnswerAlike : Except RunError Output → Except RunError Output → Prop
  | .ok output, .ok output' => output = output'
  | .error error, .error error' =>
    error.hasRun = error'.hasRun ∧ error.exitCode = error'.exitCode ∧
      error.message = error'.message
  | _, _ => False

theorem AnswerAlike.refl (answer : Except RunError Output) : AnswerAlike answer answer := by
  cases answer with
  | ok output => exact rfl
  | error error => exact ⟨rfl, rfl, rfl⟩

namespace Scripted

/-- What a system reports about a child process that does what is scripted. -/
def report : Scripted → ChildReport
  | exits status stdout stderr => .ended (some status) (Utf8.encode stdout) (Utf8.encode stderr)
  | refuses cause => .refused cause

/-- The same outcome without anything written. -/
def silent : Scripted → Scripted
  | exits status _ _ => exits status "" ""
  | refuses cause => refuses cause

/-- Whether the answer of a run shows something that the program wrote. An output shows all of it.
A failure shows what was written to the standard error, without the white space at its end. -/
def Shows (o : RunOptions) : Scripted → Prop
  | exits status stdout stderr =>
    if status = 0 ∨ o.ignoresFailure = true then stdout ≠ "" ∨ stderr ≠ ""
    else Text.trimEnd stderr ≠ ""
  | refuses _ => False

/-- What a run answers when the program ends. -/
theorem answer_exits (status : Int) (stdout stderr : String) (c : Command) (o : RunOptions) :
    ((exits status stdout stderr).finish c).answer o =
      if status = 0 ∨ o.ignoresFailure = true then .ok ⟨some status, stdout, stderr⟩
      else .error (.failed c.display (some status) stderr) := by
  by_cases hzero : status = 0 <;>
    simp [finish, Finished.ended, Finished.answer, Output.isSuccess, hzero]

/-- A child process does what is scripted. If its streams are captured, its run ends like the
scripted one, and otherwise like one in which nothing is written. -/
theorem finish_report (outcome : Scripted) (c : Command) (o : RunOptions) :
    outcome.report.finish c o =
      match o.streams with
      | .captured => outcome.finish c
      | .inherited => outcome.silent.finish c := by
  cases outcome with
  | refuses cause => cases o.streams <;> rfl
  | exits status stdout stderr =>
    simp only [report, ChildReport.finish, RunOptions.output]
    cases o.streams with
    | inherited => rfl
    | captured => simp only [Utf8.decodeLossy_encode]; rfl

/-- An outcome and the same without anything written answer alike exactly if the answer shows
nothing that was written. -/
theorem alike_silent_iff (outcome : Scripted) (c : Command) (o : RunOptions) :
    AnswerAlike ((outcome.finish c).answer o) ((outcome.silent.finish c).answer o) ↔
      ¬outcome.Shows o := by
  cases outcome with
  | refuses cause => exact iff_of_true (.refl _) id
  | exits status stdout stderr =>
    rw [silent, answer_exits, answer_exits, Shows]
    split
    · simp [AnswerAlike]
    · -- the two failures differ in their messages at most
      have hblank : Text.trimEnd "" = "" := by rfl
      have hmessage : RunError.message (.failed c.display (some status) stderr) =
          RunError.message (.failed c.display (some status) "") ↔
            Text.trimEnd stderr = Text.trimEnd "" := by
        rw [RunError.message_failed_inj, and_iff_right rfl]
      simpa [AnswerAlike, RunError.hasRun, RunError.exitCode, hblank] using hmessage

end Scripted

/-- A run that answers an output answers that of its process. -/
theorem Finished.answer_eq_ok {f : Finished} {o : RunOptions} {output : Output}
    (h : f.answer o = .ok output) : output = f.output := by
  unfold answer at h
  split at h
  · cases h
    rfl
  · split at h
    · cases h
      rfl
    · cases h

/-- A system answers a run as its child process ended, whatever was reported before. -/
theorem Host.run_answer (h : Host) (c : Command) (o : RunOptions) :
    (Workspace.run c o h).1 = ((h.spawn c o).1.finish c o).answer o := rfl

/-- A run in a rehearsal answers like a run in a system in which the child process does what is
scripted, exactly if the streams are captured or the answer shows nothing that was written. With
captured streams the answers are the same. With inherited streams the output of a system is empty,
while a rehearsal answers what is scripted. -/
theorem run_alike_iff (r : Rehearsal) (c : Command) (o : RunOptions) :
    let rehearsed := (Workspace.run c o r).1
    let real := (r.script.next.report.finish c o).answer o
    (AnswerAlike rehearsed real ↔ (o.streams = .inherited → ¬r.script.next.Shows o)) ∧
    (o.streams = .captured → rehearsed = real) ∧
    (o.streams = .inherited → ∀ output, real = .ok output →
      output.stdout = "" ∧ output.stderr = "") ∧
    ∀ h : Host, (h.spawn c o).1 = r.script.next.report → (Workspace.run c o h).1 = real := by
  intro rehearsed real
  have hrehearsed : rehearsed = (r.script.next.finish c).answer o := rfl
  -- what a system answers is scripted too, without what was written if the streams are inherited
  have hreal : real = match o.streams with
      | .captured => (r.script.next.finish c).answer o
      | .inherited => (r.script.next.silent.finish c).answer o := by
    show (r.script.next.report.finish c o).answer o = _
    rw [Scripted.finish_report]
    split <;> rfl
  refine ⟨?_, ?_, ?_, ?_⟩
  · rw [hrehearsed, hreal]
    cases o.streams with
    | captured => exact iff_of_true (.refl _) nofun
    | inherited => simpa using r.script.next.alike_silent_iff c o
  · intro hcaptured
    rw [hrehearsed, hreal, hcaptured]
  · intro hinherited output houtput
    rw [hreal, hinherited] at houtput
    rw [Finished.answer_eq_ok houtput]
    cases r.script.next <;> exact ⟨rfl, rfl⟩
  · intro h hspawn
    rw [h.run_answer, hspawn]

/-- The command that writes `x`. -/
def Command.echo : Command := { program := "echo", args := ["x"] }

/-- A rehearsal in which the next program writes `x`. -/
def Rehearsal.echoing : Rehearsal := { script := { pending := [.exits 0 "x\n" ""] } }

/-- The command does on a host what is scripted for it, and with captured streams both runs answer
the same. -/
theorem run_alike_iff_captured :
    let r := Rehearsal.echoing
    let h := Host.create {}
    (h.spawn .echo .captured).1 = r.script.next.report ∧
      (Workspace.run .echo .captured r).1 = (Workspace.run .echo .captured h).1 := by
  intro r h
  have hspawn : (h.spawn .echo .captured).1 = r.script.next.report := by decide +kernel
  obtain ⟨-, hcaptured, -, hhost⟩ := run_alike_iff r .echo .captured
  exact ⟨hspawn, by rw [hcaptured rfl, hhost h hspawn]⟩

/-- With inherited streams, the same run on a host answers an empty output, and the rehearsal
answers what the program wrote to the streams of the caller. -/
theorem run_inherited_unlike :
    let r := Rehearsal.echoing
    let h := Host.create {}
    (h.spawn .echo {}).1 = r.script.next.report ∧
      (Workspace.run .echo {} r).1 = .ok ⟨some 0, "x\n", ""⟩ ∧
      (Workspace.run .echo {} h).1 = .ok ⟨some 0, "", ""⟩ ∧
      ¬AnswerAlike (Workspace.run .echo {} r).1 (Workspace.run .echo {} h).1 := by
  intro r h
  have hspawn : (h.spawn .echo {}).1 = r.script.next.report := by decide +kernel
  have hrehearsed : (Workspace.run .echo {} r).1 = .ok ⟨some 0, "x\n", ""⟩ := rfl
  have hreal : (Workspace.run .echo {} h).1 = .ok ⟨some 0, "", ""⟩ := by
    rw [Host.run_answer, hspawn]
    rfl
  refine ⟨hspawn, hrehearsed, hreal, ?_⟩
  rw [hrehearsed, hreal]
  -- both are outputs, so to be alike they would have to be the same
  show ¬(⟨some 0, "x\n", ""⟩ : Output) = ⟨some 0, "", ""⟩
  decide

end ContainerBuild
