import ContainerBuild.Draft
import ContainerBuild.Proofs.Text.Splitting
import Mathlib.Tactic.SplitIfs

/-!
# Messages of failed runs

The message of a program that did not succeed names the command and then, every line behind a bar,
how the program ended and what it wrote to its standard error. Whatever that was, lines that look
like a bar or like a status among it, the message can be read back.

* `RunError.splitLines_report` — the status has a line of its own, before what was written.
* `RunError.message_failed_inj` — what the message tells about the program.
* `RunError.cause_of_message` — both, and the same for the error of a build.
-/

namespace ContainerBuild

namespace RunError

/-! ### The line about the status -/

/-- A natural number is written with digits. -/
theorem isDigit_of_mem_repr {n : Nat} {c : Char} (h : c ∈ n.repr.toList) : c.isDigit = true := by
  rw [Nat.toList_repr] at h
  exact Nat.isDigit_of_mem_toDigits (by decide) (by decide) h

/-- The digits of a natural number tell the number. -/
theorem natRepr_injective : Function.Injective Nat.repr := by
  intro m n h
  rw [← Nat.ofDigitChars_ten_toDigits (n := m), ← Nat.toList_repr, h, Nat.toList_repr,
    Nat.ofDigitChars_ten_toDigits]

/-- The digits of a number, with the sign in front of them if there is one, tell the number. -/
theorem intRepr_injective : Function.Injective Int.repr := by
  intro i j h
  -- a sign is no digit, so of two numbers that are written alike both or none are negative
  have hsign (m n : Nat) : m.repr ≠ "-" ++ n.repr := by
    intro heq
    have hdigit : '-'.isDigit = true := isDigit_of_mem_repr (n := m) (by rw [heq]; simp)
    exact absurd hdigit (by decide)
  rw [Int.repr_eq_if, Int.repr_eq_if] at h
  split at h <;> split at h
  · have hdigits := natRepr_injective h
    omega
  · exact absurd h (hsign _ _)
  · exact absurd h.symm (hsign _ _)
  · have hdigits := natRepr_injective ((String.append_right_inj "-").1 h)
    omega

theorem newline_notMem_statusLine (status : Option Int) : '\n' ∉ (statusLine status).toList := by
  cases status with
  | none => decide
  | some code =>
    -- a number is written with digits and perhaps a sign
    have hdigits (n : Nat) : '\n' ∉ n.repr.toList := fun hmem =>
      absurd (isDigit_of_mem_repr hmem) (by decide)
    have hstart : '\n' ∉ "Status ".toList := by decide
    rw [statusLine, Int.toString_eq_repr, Int.repr_eq_if, String.toList_append, List.mem_append,
      not_or]
    refine ⟨hstart, ?_⟩
    split
    · exact hdigits _
    · rw [String.toList_append, List.mem_append, not_or]
      exact ⟨by decide, hdigits _⟩

/-- The line about the status tells the status. -/
theorem statusLine_injective : Function.Injective statusLine := by
  have hfirst (code : Int) : (statusLine (some code)).toList.head? = some 'S' := by
    simp [statusLine]
  rintro (_ | code) (_ | code') h
  · rfl
  -- without an exit code the line starts with another letter
  · have hhead := hfirst code'
    rw [← h] at hhead
    exact absurd hhead (by decide)
  · have hhead := hfirst code
    rw [h] at hhead
    exact absurd hhead (by decide)
  · rw [statusLine, statusLine, String.append_right_inj, Int.toString_eq_repr,
      Int.toString_eq_repr] at h
    rw [intRepr_injective h]

/-! ### Reports -/

/-- The lines that tell what was written, of which there are none if it is empty. -/
def writtenLines (written : String) : List String :=
  if written = "" then [] else Text.splitLines written

theorem writtenLines_injective : Function.Injective writtenLines := by
  intro s t h
  have hne (s : String) : Text.splitLines s ≠ [] := by
    simp [Text.splitLines]
  unfold writtenLines at h
  split_ifs at h with hs ht ht
  · rw [hs, ht]
  · exact absurd h.symm (hne t)
  · exact absurd h (hne s)
  · rw [← Text.joinLines_splitLines s, h, Text.joinLines_splitLines]

/-- A report has the line about the status, and then the lines of what was written without the white
space at its end. -/
theorem splitLines_report (status : Option Int) (stderr : String) :
    Text.splitLines (report status stderr) =
      statusLine status :: writtenLines (Text.trimEnd stderr) := by
  have hone := Text.splitLines_of_notMem (newline_notMem_statusLine status)
  simp only [report, writtenLines, String.isEmpty_iff]
  split
  · exact hone
  · rw [Text.splitLines_append_newline, hone, List.singleton_append]

/-- A report tells the status, and what was written but for the white space at its end. -/
theorem report_inj {status status' : Option Int} {stderr stderr' : String} :
    report status stderr = report status' stderr' ↔
      status = status' ∧ Text.trimEnd stderr = Text.trimEnd stderr' := by
  constructor
  · intro h
    have hlines := congrArg Text.splitLines h
    rw [splitLines_report, splitLines_report, List.cons.injEq] at hlines
    exact ⟨statusLine_injective hlines.1, writtenLines_injective hlines.2⟩
  · rintro ⟨rfl, hsame⟩
    simp only [report, hsame]

/-! ### Messages -/

theorem newline_notMem_bar : '\n' ∉ bar.toList := by decide

/-- Two failures of one command have the same message exactly if they have the same exit code and
what was written to the standard error differs in white space at the end only. -/
theorem message_failed_inj {command : String} {status status' : Option Int}
    {stderr stderr' : String} :
    message (failed command status stderr) = message (failed command status' stderr') ↔
      status = status' ∧ Text.trimEnd stderr = Text.trimEnd stderr' := by
  rw [← report_inj, message, message, String.append_right_inj]
  exact ⟨Text.indent_injective newline_notMem_bar, congrArg (Text.indent bar)⟩

/-- The message of a failed command is a line about the command and, behind it, lines that all start
with a bar. Without the bars they are the line about the status and the lines of what was written to
the standard error, up to the white space at its end. So for one command, failures with the same
message ended in the same way and wrote the same but for white space at the end, and the same holds
for builds that failed because of them. -/
theorem cause_of_message (command : String) (status : Option Int) (stderr : String) :
    (∃ body kept blanks,
      message (failed command status stderr) =
        "Command '" ++ command ++ "' has failed:\n" ++ body ∧
      stderr = kept ++ blanks ∧ Text.isAllBlank blanks = true ∧
      (∀ c, kept.toList.getLast? = some c → Text.isBlank c = false) ∧
      Text.linesBehind? "    | " body =
        some (statusLine status :: if kept = "" then [] else Text.splitLines kept)) ∧
    ∀ status' stderr',
      let error := failed command status stderr
      let error' := failed command status' stderr'
      let sameCause := status = status' ∧ ∃ kept blanks blanks', stderr = kept ++ blanks ∧
        stderr' = kept ++ blanks' ∧ Text.isAllBlank blanks = true ∧ Text.isAllBlank blanks' = true
      (message error = message error' ↔ sameCause) ∧
      ((BuildError.toolFailed error).message = (BuildError.toolFailed error').message ↔
        sameCause) := by
  constructor
  · obtain ⟨blanks, hstderr, hblanks, hlast⟩ := Text.exists_append_trimEnd stderr
    have hlines : Text.linesBehind? bar (Text.indent bar (report status stderr)) =
        some (statusLine status :: writtenLines (Text.trimEnd stderr)) := by
      rw [Text.linesBehind?_indent newline_notMem_bar, splitLines_report]
    exact ⟨Text.indent bar (report status stderr), Text.trimEnd stderr, blanks, by rw [message],
      hstderr, hblanks, hlast, hlines⟩
  · intro status' stderr' error error' sameCause
    have hmessage : message error = message error' ↔ sameCause := by
      rw [message_failed_inj, Text.trimEnd_eq_iff]
    refine ⟨hmessage, ?_⟩
    -- the error of the build puts the same words in front of both messages
    have hbuild (cause : RunError) : (BuildError.toolFailed cause).message =
        "External build tool failed: " ++ message cause := rfl
    rw [hbuild, hbuild, String.append_right_inj]
    exact hmessage

/-- What looks like a bar or a status stands behind a bar of its own. -/
example : message (failed "tool" (some 2) "\n    | Status 3\r\n\n ") =
    "Command 'tool' has failed:\n    | Status 2\n    | \n    |     | Status 3" := by decide +kernel

end RunError

end ContainerBuild
