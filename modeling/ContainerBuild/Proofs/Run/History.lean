import ContainerBuild.Proofs.Run.Answer
import Mathlib.Data.List.Induction
import Mathlib.Order.Bounds.Basic

/-!
# Histories of scripted runs

A script is used from outside in two ways: an outcome is pushed, or a command is run. After any
history of both, each run took the oldest outcome that had been pushed before it and that no earlier
run had taken, or succeeded because there was none. Which run took which outcome is told by
positions, so that equal outcomes stay apart.

* `Script.after` — the script that a history leaves.
* `Script.TakesOldest` — which outcome each run of a history has to take.
* `Script.TakesOldest.unique` — no two answers to that are right.
* `Script.waiting` — the positions of the outcomes that are pending after a history.
* `Script.fifo_of_history` — every history takes its outcomes, and answers, as it has to.
-/

namespace ContainerBuild

/-! ### What a run answers by its outcome -/

namespace Scripted

/-- Whether the program does not succeed. -/
def Fails : Scripted → Prop
  | exits status _ _ => status ≠ 0
  | refuses _ => True

/-- The exit code, unless the program cannot be started. -/
def status? : Scripted → Option Int
  | exits status _ _ => some status
  | refuses _ => none

/-- The output, which is empty and has no exit code if the program cannot be started. -/
def output : Scripted → Output
  | exits status stdout stderr => ⟨some status, stdout, stderr⟩
  | refuses _ => {}

/-- A run fails exactly if its outcome does and failures count. Then the failure has the exit code
of the outcome, and otherwise the run answers the output of the outcome. -/
theorem answer_cases (outcome : Scripted) (c : Command) (o : RunOptions) :
    (outcome.Fails ∧ o.ignoresFailure = false ∧ ∃ error : RunError,
        (outcome.finish c).answer o = .error error ∧ error.exitCode = outcome.status?) ∨
      ¬(outcome.Fails ∧ o.ignoresFailure = false) ∧
        (outcome.finish c).answer o = .ok outcome.output := by
  cases outcome with
  | exits status stdout stderr =>
    rw [answer_exits]
    by_cases hok : status = 0 ∨ o.ignoresFailure = true
    · right
      rw [if_pos hok]
      refine ⟨?_, rfl⟩
      rintro ⟨hfails, hcounts⟩
      rcases hok with hzero | hignored
      · exact hfails hzero
      · simp [hcounts] at hignored
    · left
      rw [if_neg hok]
      obtain ⟨hfails, hcounts⟩ := not_or.1 hok
      exact ⟨hfails, by simpa using hcounts, _, rfl, rfl⟩
  | refuses cause =>
    cases hignored : o.ignoresFailure with
    | false =>
      left
      refine ⟨trivial, rfl, .notStarted c.display cause, ?_, rfl⟩
      simp [finish, Finished.notStarted, Finished.answer, hignored]
    | true =>
      right
      refine ⟨by simp, ?_⟩
      simp [finish, Finished.notStarted, Finished.answer, hignored, output]

end Scripted

namespace Script

/-! ### Histories -/

/-- One use of a script. -/
inductive Operation where
  /-- An outcome is put behind those that are pending. -/
  | push (outcome : Scripted)
  /-- A command is run. -/
  | run (command : Command) (options : RunOptions)
  deriving DecidableEq, Repr

/-- The outcome that is pushed, if one is. -/
def Operation.outcome? : Operation → Option Scripted
  | push outcome => some outcome
  | run _ _ => none

/-- The run that takes place, if one does. -/
def Operation.invocation? : Operation → Option Invocation
  | push _ => none
  | run c o => some ⟨c, o⟩

/-- The script after one use. -/
def perform (s : Script) : Operation → Script
  | .push outcome => s.push outcome
  | .run c o => (s.run c o).2

/-- The script after a history, which starts with nothing pending and no runs. -/
def after (history : List Operation) : Script := history.foldl perform {}

@[simp] theorem after_concat (history : List Operation) (op : Operation) :
    after (history ++ [op]) = (after history).perform op := by
  simp [after]

/-- The runs of a history are recorded in order, whatever comes of them. -/
theorem invocations_after (history : List Operation) :
    (after history).invocations = history.filterMap Operation.invocation? := by
  induction history using List.reverseRecOn with
  | nil => rfl
  | append_singleton history op ih =>
    rw [after_concat, List.filterMap_append, ← ih]
    cases op with
    | push outcome => simp [perform, push, Operation.invocation?]
    | run c o => simp [perform, run, advance, Operation.invocation?]

/-! ### Which run takes which outcome -/

/-- The outcome that a history pushes at a position, if it pushes one there. -/
def pushedAt? (history : List Operation) (j : Nat) : Option Scripted :=
  history[j]?.bind Operation.outcome?

/-- The outcome that was pushed at position `j` waits for the operation at position `i`: it was
pushed before, and no run in between took it. The run at position `k` took the one of `source k`. -/
def Waits (history : List Operation) (source : Nat → Option Nat) (i j : Nat) : Prop :=
  j < i ∧ (pushedAt? history j).isSome ∧ ∀ k < i, source k ≠ some j

/-- Each run takes the oldest of the outcomes that wait for it, and none if there are none. -/
structure TakesOldest (history : List Operation) (source : Nat → Option Nat) : Prop where
  /-- Only runs take outcomes. -/
  isRun : ∀ {i j}, source i = some j → ∃ c o, history[i]? = some (.run c o)
  /-- What is taken is the oldest that waits. -/
  isLeast : ∀ {i j}, source i = some j → IsLeast {k | Waits history source i k} j
  /-- A run takes nothing only if nothing waits. -/
  none_waits : ∀ {i c o}, history[i]? = some (.run c o) → source i = none →
    ∀ j, ¬Waits history source i j

/-- One operation later, an outcome waits if it waited before or was pushed by that operation, and
the operation did not take it. -/
theorem waits_succ_iff {history : List Operation} {source : Nat → Option Nat} {i j : Nat} :
    Waits history source (i + 1) j ↔
      (Waits history source i j ∨
        j = i ∧ (pushedAt? history i).isSome ∧ ∀ k < i, source k ≠ some i) ∧
      source i ≠ some j := by
  simp only [Waits, Nat.lt_succ_iff_lt_or_eq]
  constructor
  · rintro ⟨hlt | rfl, hpushed, huntaken⟩
    · exact ⟨.inl ⟨hlt, hpushed, fun k hk => huntaken k (.inl hk)⟩, huntaken i (.inr rfl)⟩
    · exact ⟨.inr ⟨rfl, hpushed, fun k hk => huntaken k (.inl hk)⟩, huntaken j (.inr rfl)⟩
  · rintro ⟨⟨hlt, hpushed, huntaken⟩ | ⟨rfl, hpushed, huntaken⟩, hlast⟩
    · exact ⟨.inl hlt, hpushed, fun k hk => hk.elim (huntaken k) fun heq => heq ▸ hlast⟩
    · exact ⟨.inr rfl, hpushed, fun k hk => hk.elim (huntaken k) fun heq => heq ▸ hlast⟩

theorem Waits.congr {history : List Operation} {source source' : Nat → Option Nat} {i j : Nat}
    (hsame : ∀ k < i, source k = source' k) (h : Waits history source i j) :
    Waits history source' i j := by
  obtain ⟨hbefore, hpushed, huntaken⟩ := h
  refine ⟨hbefore, hpushed, fun k hk => ?_⟩
  rw [← hsame k hk]
  exact huntaken k hk

namespace TakesOldest

variable {history : List Operation} {source source' : Nat → Option Nat}

/-- No outcome is taken twice, and a later run takes a later outcome. -/
theorem lt_of_lt (h : TakesOldest history source) {i i' j j' : Nat} (hlt : i < i')
    (hj : source i = some j) (hj' : source i' = some j') : j < j' := by
  obtain ⟨⟨hbefore', hpushed', huntaken'⟩, -⟩ := h.isLeast hj'
  have hne : j ≠ j' := by
    rintro rfl
    exact huntaken' i hlt hj
  by_contra hnot
  -- otherwise the later run's outcome was waiting for the earlier one too, and is older
  obtain ⟨⟨hbefore, -, -⟩, hleast⟩ := h.isLeast hj
  have hwaits : Waits history source i j' :=
    ⟨by omega, hpushed', fun k hk => huntaken' k (by omega)⟩
  have hle : j ≤ j' := hleast hwaits
  omega

/-- No outcome is skipped: those that were pushed before the one that is taken have been taken. -/
theorem taken_of_lt (h : TakesOldest history source) {i j j' : Nat} (hj : source i = some j)
    (hlt : j' < j) (hpushed : (pushedAt? history j').isSome) : ∃ k < i, source k = some j' := by
  obtain ⟨⟨hbefore, -, -⟩, hleast⟩ := h.isLeast hj
  by_contra huntaken
  have hle : j ≤ j' := hleast ⟨by omega, hpushed, fun k hk htaken => huntaken ⟨k, hk, htaken⟩⟩
  omega

/-- There is only one way for the runs of a history to take the oldest outcomes. -/
theorem unique (h : TakesOldest history source) (h' : TakesOldest history source') :
    source' = source := by
  funext i
  -- by induction on the position: what waits depends on the runs before
  induction i using Nat.strong_induction_on with
  | _ i ih =>
    have hwaits (j : Nat) : Waits history source' i j ↔ Waits history source i j :=
      ⟨.congr ih, .congr fun k hk => (ih k hk).symm⟩
    cases hi : source i with
    | none =>
      cases hi' : source' i with
      | none => rfl
      | some j =>
        obtain ⟨c, o, hrun⟩ := h'.isRun hi'
        exact absurd ((hwaits j).1 (h'.isLeast hi').1) (h.none_waits hrun hi j)
    | some j =>
      cases hi' : source' i with
      | none =>
        obtain ⟨c, o, hrun⟩ := h.isRun hi
        exact absurd ((hwaits j).2 (h.isLeast hi).1) (h'.none_waits hrun hi' j)
      | some j' =>
        have hleast := h'.isLeast hi'
        simp only [hwaits] at hleast
        rw [hleast.unique (h.isLeast hi)]

end TakesOldest

/-! ### The positions of pending outcomes -/

/-- The positions of the outcomes that are pending after a history, which begins at position `i`
when those at the positions `queue` are pending. -/
def waitingFrom (i : Nat) (queue : List Nat) : List Operation → List Nat
  | [] => queue
  | .push _ :: rest => waitingFrom (i + 1) (queue ++ [i]) rest
  | .run _ _ :: rest => waitingFrom (i + 1) queue.tail rest

/-- The positions of the outcomes that are pending after a history. -/
def waiting (history : List Operation) : List Nat := waitingFrom 0 [] history

/-- The position of the outcome that the run at a position takes, if it takes one. -/
def source (history : List Operation) (i : Nat) : Option Nat :=
  match history[i]? with
  | some (.run _ _) => (waiting (history.take i)).head?
  | _ => none

theorem waitingFrom_concat (i : Nat) (queue : List Nat) (history : List Operation)
    (op : Operation) :
    waitingFrom i queue (history ++ [op]) =
      match op with
      | .push _ => waitingFrom i queue history ++ [i + history.length]
      | .run _ _ => (waitingFrom i queue history).tail := by
  induction history generalizing i queue with
  | nil => cases op <;> simp [waitingFrom]
  | cons first rest ih =>
    cases first <;> cases op <;> simp [waitingFrom, ih, Nat.add_assoc, Nat.add_comm 1]

@[simp] theorem waiting_push (history : List Operation) (outcome : Scripted) :
    waiting (history ++ [.push outcome]) = waiting history ++ [history.length] := by
  simp [waiting, waitingFrom_concat]

@[simp] theorem waiting_run (history : List Operation) (c : Command) (o : RunOptions) :
    waiting (history ++ [.run c o]) = (waiting history).tail := by
  simp [waiting, waitingFrom_concat]

/-- Pending outcomes come from positions of the history. -/
theorem lt_of_mem_waiting {history : List Operation} {j : Nat} (h : j ∈ waiting history) :
    j < history.length := by
  induction history using List.reverseRecOn with
  | nil => cases h
  | append_singleton history op ih =>
    rw [List.length_append, List.length_singleton]
    cases op with
    | push outcome =>
      rw [waiting_push, List.mem_append, List.mem_singleton] at h
      rcases h with hold | rfl
      · exact Nat.lt_succ_of_lt (ih hold)
      · exact Nat.lt_succ_self _
    | run c o =>
      rw [waiting_run] at h
      exact Nat.lt_succ_of_lt (ih (List.mem_of_mem_tail h))

/-- Older outcomes are pending before younger ones. -/
theorem waiting_pairwise (history : List Operation) : (waiting history).Pairwise (· < ·) := by
  induction history using List.reverseRecOn with
  | nil => exact .nil
  | append_singleton history op ih =>
    cases op with
    | push outcome =>
      rw [waiting_push, List.pairwise_append]
      refine ⟨ih, List.pairwise_singleton _ _, fun j hj k hk => ?_⟩
      rw [List.mem_singleton.1 hk]
      exact lt_of_mem_waiting hj
    | run c o =>
      rw [waiting_run]
      exact ih.tail

/-- The first of the positions is the least of them. -/
theorem isLeast_of_head? {history : List Operation} {j : Nat}
    (h : (waiting history).head? = some j) : IsLeast {k | k ∈ waiting history} j := by
  have hsorted := waiting_pairwise history
  cases hqueue : waiting history with
  | nil => simp [hqueue] at h
  | cons first rest =>
    rw [hqueue] at h hsorted
    obtain rfl : first = j := by simpa using h
    refine ⟨List.mem_cons_self, fun k hk => ?_⟩
    rcases List.mem_cons.1 hk with rfl | hrest
    · exact le_rfl
    · exact ((List.pairwise_cons.1 hsorted).1 k hrest).le

/-- A run takes the first position away and no other. -/
theorem mem_tail_waiting_iff (history : List Operation) (j : Nat) :
    j ∈ (waiting history).tail ↔ j ∈ waiting history ∧ (waiting history).head? ≠ some j := by
  have hsorted := waiting_pairwise history
  cases hqueue : waiting history with
  | nil => simp
  | cons first rest =>
    rw [hqueue] at hsorted
    have hne : j ∈ rest → first ≠ j := fun hj => ((List.pairwise_cons.1 hsorted).1 j hj).ne
    simp only [List.tail_cons, List.mem_cons, List.head?_cons, ne_eq, Option.some.injEq]
    constructor
    · intro hj
      exact ⟨.inr hj, hne hj⟩
    · rintro ⟨rfl | hj, hfirst⟩
      · exact absurd rfl hfirst
      · exact hj

theorem source_of_run {history : List Operation} {i : Nat} {c : Command} {o : RunOptions}
    (hrun : history[i]? = some (.run c o)) :
    source history i = (waiting (history.take i)).head? := by
  simp only [source, hrun]

/-- Only a run takes an outcome, and then it is the first that is pending. -/
theorem source_eq_some {history : List Operation} {i j : Nat} (h : source history i = some j) :
    (∃ c o, history[i]? = some (.run c o)) ∧ (waiting (history.take i)).head? = some j := by
  simp only [source] at h
  split at h
  next c o hrun => exact ⟨⟨c, o, hrun⟩, h⟩
  next => cases h

/-- A run takes an outcome that was pushed before it. -/
theorem lt_of_source {history : List Operation} {i j : Nat} (h : source history i = some j) :
    j < i := by
  have hmem := List.mem_of_mem_head? (source_eq_some h).2
  have hbound := lt_of_mem_waiting hmem
  rw [List.length_take] at hbound
  omega

/-- The outcomes that wait for an operation are those that are pending before it. -/
theorem mem_waiting_take_iff (history : List Operation) {i : Nat} (hi : i ≤ history.length)
    (j : Nat) : j ∈ waiting (history.take i) ↔ Waits history (source history) i j := by
  -- by induction on the position: an operation changes both sides by what it pushes and takes
  induction i with
  | zero =>
    have hnone : ¬Waits history (source history) 0 j := fun h => Nat.not_lt_zero j h.1
    simpa [waiting, waitingFrom] using hnone
  | succ i ih =>
    have hlt : i < history.length := hi
    have hat : history[i]? = some history[i] := List.getElem?_eq_getElem hlt
    have hstep : history.take (i + 1) = history.take i ++ [history[i]] :=
      (List.take_append_getElem hlt).symm
    have hlength : (history.take i).length = i := List.length_take_of_le hlt.le
    rw [hstep, waits_succ_iff, ← ih hlt.le]
    cases hop : history[i] with
    | push outcome =>
      -- the operation takes nothing, and what it pushes was not there to be taken before
      have hsource : source history i = none := by simp only [source, hat, hop]
      have hpushed : (pushedAt? history i).isSome := by
        simp [pushedAt?, hat, hop, Operation.outcome?]
      have hnew : ∀ k < i, source history k ≠ some i := fun k hk htaken =>
        absurd (lt_of_source htaken) (by omega)
      have hadded : (j = i ∧ (pushedAt? history i).isSome ∧
          ∀ k < i, source history k ≠ some i) ↔ j = i := and_iff_left ⟨hpushed, hnew⟩
      rw [waiting_push, hlength, List.mem_append, List.mem_singleton, hadded, hsource]
      simp
    | run c o =>
      -- the operation pushes nothing, and takes the first position away
      have hpushed : pushedAt? history i = none := by
        simp [pushedAt?, hat, hop, Operation.outcome?]
      rw [waiting_run, mem_tail_waiting_iff, source_of_run (hop ▸ hat)]
      simp [hpushed]

/-- The runs of a history take the oldest outcomes when each takes the first that is pending. -/
theorem takesOldest_source (history : List Operation) :
    TakesOldest history (source history) where
  isRun h := (source_eq_some h).1
  isLeast := by
    intro i j h
    obtain ⟨⟨c, o, hrun⟩, hfirst⟩ := source_eq_some h
    obtain ⟨hi, -⟩ := List.getElem?_eq_some_iff.1 hrun
    have hleast := isLeast_of_head? hfirst
    simp only [mem_waiting_take_iff history hi.le] at hleast
    exact hleast
  none_waits := by
    intro i c o hrun hnone j hwaits
    obtain ⟨hi, -⟩ := List.getElem?_eq_some_iff.1 hrun
    rw [source_of_run hrun, List.head?_eq_none_iff] at hnone
    have hmem := (mem_waiting_take_iff history hi.le j).2 hwaits
    rw [hnone] at hmem
    cases hmem

/-! ### Pending outcomes -/

theorem pushedAt?_append {history : List Operation} {j : Nat} (hj : j < history.length)
    (rest : List Operation) : pushedAt? (history ++ rest) j = pushedAt? history j := by
  simp [pushedAt?, List.getElem?_append_left hj]

/-- The outcomes that are pending after a history are those that were pushed at the positions that
wait. -/
theorem pending_after (history : List Operation) :
    (after history).pending.map some = (waiting history).map (pushedAt? history) := by
  -- by induction from the end, as the script goes: positions and outcomes move together
  induction history using List.reverseRecOn with
  | nil => rfl
  | append_singleton history op ih =>
    have hold : (waiting history).map (pushedAt? (history ++ [op])) =
        (waiting history).map (pushedAt? history) :=
      List.map_congr_left fun j hj => pushedAt?_append (lt_of_mem_waiting hj) [op]
    rw [after_concat]
    cases op with
    | push outcome =>
      have hnew : pushedAt? (history ++ [.push outcome]) history.length = some outcome := by
        simp [pushedAt?, Operation.outcome?]
      rw [waiting_push, List.map_append, hold, ← ih]
      simp [perform, push, hnew]
    | run c o =>
      rw [waiting_run, List.map_tail, hold, ← ih]
      simp [perform, run, advance, List.map_tail]

/-- The run at a position takes the outcome of its source, or succeeds if it has none. -/
theorem next_after {history : List Operation} {i : Nat} {c : Command} {o : RunOptions}
    (hrun : history[i]? = some (.run c o)) :
    (after (history.take i)).next =
      ((source history i).bind (pushedAt? history)).getD .succeeds := by
  have hpending := congrArg List.head? (pending_after (history.take i))
  rw [List.head?_map, List.head?_map] at hpending
  rw [next, source_of_run hrun]
  congr 1
  -- the first pending outcome is the one that was pushed at the first position
  cases hfirst : (waiting (history.take i)).head? with
  | none =>
    rw [hfirst] at hpending
    simpa using hpending
  | some j =>
    have hj : j < (history.take i).length := lt_of_mem_waiting (List.mem_of_mem_head? hfirst)
    have hwhole : pushedAt? history j = pushedAt? (history.take i) j := by
      rw [← pushedAt?_append hj (history.drop i), List.take_append_drop]
    rw [hfirst] at hpending
    rw [Option.bind_some, hwhole]
    cases hpushed : (after (history.take i)).pending.head? with
    | none => simp [hpushed] at hpending
    | some outcome => simpa [hpushed] using hpending

/-! ### Every history -/

/-- After every history of pushes and runs, the runs are recorded in order with their options. There
is one way for the runs to take the oldest outcome that was pushed before and is not taken yet; it
takes no outcome twice, keeps their order and skips none. Each run answers by the outcome that it
takes, or by exit code zero if none waits: it fails exactly if that outcome does and failures count,
with the exit code of the outcome, and otherwise answers the output of the outcome. -/
theorem fifo_of_history (history : List Operation) :
    (after history).invocations = history.filterMap Operation.invocation? ∧
    ∃ source, TakesOldest history source ∧
      (∀ source', TakesOldest history source' → source' = source) ∧
      (∀ i i' j j', i < i' → source i = some j → source i' = some j' → j < j') ∧
      (∀ i j j', source i = some j → j' < j → (pushedAt? history j').isSome →
        ∃ k < i, source k = some j') ∧
      ∀ i c o, history[i]? = some (.run c o) →
        let outcome := ((source i).bind (pushedAt? history)).getD (.exits 0 "" "")
        let answer := ((after (history.take i)).run c o).1
        ((∃ error, answer = .error error) ↔ outcome.Fails ∧ o.ignoresFailure = false) ∧
          (∀ error, answer = .error error → error.exitCode = outcome.status?) ∧
          ∀ output, answer = .ok output → output = outcome.output := by
  have htakes := takesOldest_source history
  refine ⟨invocations_after history, source history, htakes, fun source' => htakes.unique,
    fun i i' j j' => htakes.lt_of_lt, fun i j j' => htakes.taken_of_lt, ?_⟩
  intro i c o hrun outcome answer
  have hanswer : answer = (outcome.finish c).answer o := by
    show ((after (history.take i)).next.finish c).answer o = _
    rw [next_after hrun]
    rfl
  rcases outcome.answer_cases c o with ⟨hfails, hcounts, error, herror, hcode⟩ | ⟨hnot, houtput⟩
  · rw [hanswer, herror]
    refine ⟨iff_of_true ⟨error, rfl⟩ ⟨hfails, hcounts⟩, fun error' h => ?_, nofun⟩
    cases h
    exact hcode
  · rw [hanswer, houtput]
    refine ⟨iff_of_false nofun hnot, nofun, fun output h => ?_⟩
    cases h
    rfl

/-- A history in which a run comes before the first outcome, and a run too many at the end. -/
def interleaved : List Operation :=
  let tool : Command := { program := "tool" }
  [.run tool {}, .push (.exits 2 "" "bad"), .push (.refuses "missing"), .run tool {},
    .run tool { ignoresFailure := true }, .push (.exits 0 "x" ""), .run tool {}, .run tool {}]

/-- The first run takes nothing, though an outcome is pushed later. The second and the third take
the failures in their order, of which the third ignores its own. The fourth takes the success, and
nothing is left for the last one. -/
theorem fifo_of_history_interleaved :
    let tool : Command := { program := "tool" }
    (after interleaved).invocations.length = 5 ∧
    ∃ source, TakesOldest interleaved source ∧
      (List.range 8).map source = [none, none, none, some 1, some 2, none, some 5, none] ∧
      (∃ error, ((after (interleaved.take 3)).run tool {}).1 = .error error ∧
        error.exitCode = some 2) ∧
      ∀ output, ((after (interleaved.take 4)).run tool { ignoresFailure := true }).1 = .ok output →
        output = {} := by
  intro tool
  obtain ⟨hinvocations, source, htakes, hunique, -, -, hanswer⟩ := fifo_of_history interleaved
  have hsource : source = Script.source interleaved :=
    (hunique _ (takesOldest_source interleaved)).symm
  refine ⟨by rw [hinvocations]; rfl, source, htakes, by rw [hsource]; decide, ?_, ?_⟩
  · obtain ⟨hfails, hcode, -⟩ := hanswer 3 tool {} rfl
    rw [hsource] at hfails hcode
    have htwo : (Scripted.exits 2 "" "bad").Fails := by simp [Scripted.Fails]
    obtain ⟨error, herror⟩ := hfails.2 ⟨htwo, rfl⟩
    exact ⟨error, herror, hcode error herror⟩
  · obtain ⟨-, -, houtput⟩ := hanswer 4 tool { ignoresFailure := true } rfl
    rw [hsource] at houtput
    exact houtput

end Script

end ContainerBuild
