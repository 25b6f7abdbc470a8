import ContainerBuild.Proofs.Draft.Course
import ContainerBuild.Proofs.Draft.LifeCycle
import ContainerBuild.Proofs.Recipe.Steps
import Mathlib.Logic.Function.Basic

/-!
# Sessions of several drafts

Drafts that were created under the same settings share one rehearsal, and calls on them come in any
order. The script of the rehearsal is an account of the builds that reached the tool: it grows by
one invocation and loses one pending outcome with each of them, and with nothing else.

* `Session.perform`, `Session.run` — calls on drafts that share a rehearsal, and their answers.
* `Answered.reachedTool` — the call was a build that answers success or a failure of the tool.
* `Session.script_of_perform` — what one call does to the script.
* `Session.Account` — what the answers of a session tell about the script.
* `Session.account_of_run` — the account is right after every session.
-/

namespace ContainerBuild

/-- Under the tool's outcome, a build succeeds exactly if the tool ends with exit code zero. -/
theorem Scripted.toolAnswer_eq_ok_iff (outcome : Scripted) (c : Command) :
    outcome.toolAnswer c = .ok () ↔ ∃ stdout stderr, outcome = .exits 0 stdout stderr := by
  cases outcome with
  | refuses cause => simp [toolAnswer]
  | exits status stdout stderr =>
    by_cases hzero : status = 0 <;> simp [toolAnswer, hzero]

namespace Draft

/-- A build that reaches the tool takes the next outcome of the script and answers by it. Every
other build fails for another reason than the tool and leaves the script. -/
theorem script_of_build (d : Draft) (r : Rehearsal) :
    ((∃ source, d.phase = .sourced source) ∧
        (d.build r).1 = r.script.next.toolAnswer d.buildCommand ∧
        (d.build r).2.2.script = r.script.advance d.buildCommand d.settings.toolOptions) ∨
      (∃ error, (d.build r).1 = .error error ∧ error.kind ≠ .toolFailure) ∧
        (d.build r).2.2.script = r.script := by
  rcases d.build_cases r with ⟨error, d', hkind, hrefused⟩ |
    ⟨source, answer, m', s', requests, hphase, hcourse, hanswer, -, hscript⟩
  · right
    rw [hrefused]
    exact ⟨⟨error, rfl, by simp [hkind]⟩, rfl⟩
  · rw [hanswer, hscript]
    cases hcourse with
    | badTarget _ _ _ => exact .inr ⟨⟨_, rfl, by simp [BuildError.kind]⟩, rfl⟩
    | notPlaced _ _ _ _ => exact .inr ⟨⟨_, rfl, by simp [BuildError.kind]⟩, rfl⟩
    | notWritten _ _ _ => exact .inr ⟨⟨_, rfl, by simp [BuildError.kind]⟩, rfl⟩
    | ran _ _ _ => exact .inl ⟨⟨source, hphase⟩, rfl, rfl⟩

/-- Calls leave the image that is described, its staging directory and the settings. -/
theorem identity_of_perform {ω : Type} [Workspace ω] {d d' : Draft} {w : ω} {call : Call}
    (h : (d.perform w call).2.1 = some d') :
    d'.image = d.image ∧ d'.recipe.basePath = d.recipe.basePath ∧ d'.settings = d.settings := by
  rcases perform_cases h with ⟨source, image, -, -, -, rfl⟩ | ⟨p, -, -, rfl⟩ | ⟨-, rfl⟩ | ⟨-, rfl⟩
  · exact ⟨rfl, rfl, rfl⟩
  · -- a procedure takes steps, none of which moves the staging directory
    exact ⟨rfl, (d.recipe.identity_takeAll (p.steps d.recipe)).2.2, rfl⟩
  · exact ⟨rfl, rfl, rfl⟩
  · exact ⟨rfl, rfl, rfl⟩

/-- A draft that is open after a call was open before it. -/
theorem isOpen_of_perform {ω : Type} [Workspace ω] {d d' : Draft} {w : ω} {call : Call}
    (h : (d.perform w call).2.1 = some d') (hopen : d'.state.isOpen = true) :
    d.state.isOpen = true := by
  by_contra hclosed
  have hfinal : d.state = .finalized := DraftState.isOpen_eq_false_iff.1 (by simpa using hclosed)
  rw [eq_of_perform_finalized hfinal h] at hopen
  exact hclosed hopen

end Draft

/-! ### Drafts that share a rehearsal -/

open Draft (Call)

/-- A call on one of several drafts, and its answer. -/
structure Answered (ι : Type) where
  /-- The draft that was called. -/
  draft : ι
  /-- What was called. -/
  call : Call
  /-- What was answered. -/
  answer : Except BuildError Unit

/-- Whether the call was a build that succeeded or failed because of the tool. -/
def Answered.reachedTool {ι : Type} (a : Answered ι) : Bool :=
  match a.call, a.answer with
  | .build, .ok () => true
  | .build, .error error => error.kind == .toolFailure
  | _, _ => false

/-- What a build answers by the tool's outcome tells that it reached the tool. -/
theorem Answered.reachedTool_toolAnswer {ι : Type} (i : ι) (outcome : Scripted) (c : Command) :
    (⟨i, .build, outcome.toolAnswer c⟩ : Answered ι).reachedTool = true := by
  cases outcome with
  | refuses cause => rfl
  | exits status stdout stderr =>
    by_cases hzero : status = 0 <;>
      simp [Answered.reachedTool, Scripted.toolAnswer, hzero, BuildError.kind]

/-- A call on a draft reaches the tool and advances the script by one run, or does neither. -/
theorem Draft.script_of_call {ι : Type} (d : Draft) (r : Rehearsal) (call : Call) :
    (call = .build ∧ (∃ source, d.phase = .sourced source) ∧
        (d.perform r call).1 = r.script.next.toolAnswer d.buildCommand ∧
        (d.perform r call).2.2.script = r.script.advance d.buildCommand d.settings.toolOptions) ∨
      (∀ i : ι, Answered.reachedTool ⟨i, call, (d.perform r call).1⟩ = false) ∧
        (d.perform r call).2.2.script = r.script := by
  -- only a build reads the script, and the answers of the other calls are never tool runs
  cases call with
  | setSource source =>
    refine .inr ⟨fun i => rfl, ?_⟩
    simp only [perform, setSourceIn]
    cases d.setSource source <;> rfl
  | execute p =>
    refine .inr ⟨fun i => rfl, ?_⟩
    simp only [perform, executeIn]
    cases d.execute p <;> rfl
  | preview => exact .inr ⟨fun i => rfl, rfl⟩
  | build =>
    rcases d.script_of_build r with ⟨hphase, hanswer, hscript⟩ | ⟨⟨error, hanswer, hkind⟩, hscript⟩
    · exact .inl ⟨rfl, hphase, hanswer, hscript⟩
    · refine .inr ⟨fun i => ?_, hscript⟩
      simpa [Answered.reachedTool, perform, hanswer] using hkind

/-- Drafts that share a rehearsal. A draft that was consumed by a failed call is gone. -/
structure Session (ι : Type) where
  /-- The drafts. -/
  drafts : ι → Option Draft
  /-- What they share. -/
  rehearsal : Rehearsal

namespace Session

variable {ι : Type}

/-! ### Accounts of a script -/

/-- The builds among the calls that reached the tool, in order. -/
def toolRuns (answered : List (Answered ι)) : List (Answered ι) :=
  answered.filter Answered.reachedTool

/-- What the tool runs of a session tell about a script, which was `before` when the session started
and is `after` now. -/
structure Account (command : ι → Command) (options : RunOptions) (ran : List (Answered ι))
    (before after : Script) : Prop where
  /-- The invocations are those of the tool runs, in order. -/
  invocations : after.invocations =
    before.invocations ++ ran.map fun a => ⟨command a.draft, options⟩
  /-- Each of them took one pending outcome. -/
  pending : after.pending = before.pending.drop ran.length
  /-- No draft has two of them. -/
  once : (ran.map Answered.draft).Nodup
  /-- The `k`-th of them succeeds exactly if the `k`-th outcome is exit code zero, or there is no
  such outcome any more. -/
  outcome : ∀ (k : Nat) (a : Answered ι), ran[k]? = some a →
    (a.answer = .ok () ↔ ∀ outcome, before.pending[k]? = some outcome →
      ∃ stdout stderr, outcome = .exits 0 stdout stderr)

/-- A session without tool runs leaves the script. -/
theorem Account.nil (command : ι → Command) (options : RunOptions) (script : Script) :
    Account command options [] script script :=
  ⟨by simp, by simp, by simp, by simp⟩

/-- A tool run of a further draft, which comes before the others. -/
theorem Account.cons {command : ι → Command} {options : RunOptions} {a : Answered ι}
    {ran : List (Answered ι)} {before after : Script}
    (hanswer : a.answer = before.next.toolAnswer (command a.draft))
    (hother : ∀ b ∈ ran, b.draft ≠ a.draft)
    (h : Account command options ran (before.advance (command a.draft) options) after) :
    Account command options (a :: ran) before after where
  invocations := by simp [h.invocations, Script.advance]
  pending := by simp [h.pending, Script.advance]
  once := by
    rw [List.map_cons, List.nodup_cons]
    refine ⟨fun hmem => ?_, h.once⟩
    obtain ⟨b, hb, hsame⟩ := List.mem_map.1 hmem
    exact hother b hb hsame
  outcome := by
    intro k b hb
    cases k with
    | zero =>
      obtain rfl : a = b := by simpa using hb
      rw [hanswer, Scripted.toolAnswer_eq_ok_iff, Script.next]
      cases before.pending with
      | nil => simp [Scripted.succeeds]
      | cons outcome others => simp
    | succ k =>
      -- the outcomes that are left are those behind the first one
      have hrest := h.outcome k b (by simpa using hb)
      simpa [Script.advance] using hrest

/-! ### Calls -/

variable [DecidableEq ι]

/-- Calls a draft. There is no answer if the draft is gone. -/
def perform (s : Session ι) (i : ι) (call : Call) : Option (Answered ι) × Session ι :=
  match s.drafts i with
  | none => (none, s)
  | some d =>
    let (answer, left, r) := d.perform s.rehearsal call
    (some ⟨i, call, answer⟩, ⟨Function.update s.drafts i left, r⟩)

/-- Calls drafts, one after the other. -/
def run (s : Session ι) : List (ι × Call) → List (Answered ι) × Session ι
  | [] => ([], s)
  | (i, call) :: rest =>
    let (answered, s) := s.perform i call
    let (others, s) := s.run rest
    (answered.toList ++ others, s)

/-- The draft can be called and can still change. -/
def IsOpen (s : Session ι) (i : ι) : Prop := ∃ d, s.drafts i = some d ∧ d.state.isOpen = true

/-- The drafts that are left build by these commands, under these options. -/
def BuildsBy (s : Session ι) (command : ι → Command) (options : RunOptions) : Prop :=
  ∀ i d, s.drafts i = some d → d.buildCommand = command i ∧ d.settings.toolOptions = options

/-! ### One call -/

/-- A call that reaches the tool is a build of an open draft, which it closes. It advances the
script by one run. Every other call leaves the script. -/
theorem script_of_perform (s : Session ι) (i : ι) (call : Call) :
    (∃ d a, s.drafts i = some d ∧ (s.perform i call).1 = some a ∧ a.draft = i ∧
        a.reachedTool = true ∧ s.IsOpen i ∧ ¬(s.perform i call).2.IsOpen i ∧
        a.answer = s.rehearsal.script.next.toolAnswer d.buildCommand ∧
        (s.perform i call).2.rehearsal.script =
          s.rehearsal.script.advance d.buildCommand d.settings.toolOptions) ∨
      (∀ a, (s.perform i call).1 = some a → a.reachedTool = false) ∧
        (s.perform i call).2.rehearsal.script = s.rehearsal.script := by
  unfold perform
  cases hdraft : s.drafts i with
  | none => exact .inr ⟨by simp, rfl⟩
  | some d =>
    rcases d.script_of_call s.rehearsal call with
      ⟨rfl, ⟨source, hphase⟩, hanswer, hscript⟩ | ⟨hother, hscript⟩
    · obtain ⟨hstate, -⟩ := Draft.phase_eq_sourced_iff.1 hphase
      refine .inl ⟨d, _, rfl, rfl, rfl, ?_, ⟨d, hdraft, by rw [hstate]; rfl⟩, ?_, hanswer, hscript⟩
      · -- the tool's answer is a success or a failure of the tool
        rw [hanswer]
        exact Answered.reachedTool_toolAnswer i _ _
      · -- the draft that is left is finalized
        rintro ⟨d', hd', hstill⟩
        simp only [Draft.perform, Function.update_self, Option.some.injEq] at hd'
        rw [← hd', Draft.build_draft, hstate] at hstill
        cases hstill
    · refine .inr ⟨fun a ha => ?_, hscript⟩
      cases ha
      exact hother i

/-- A draft that is there after a call was there before, or the call left it in place of one. -/
theorem drafts_of_perform {s : Session ι} {i j : ι} {call : Call} {d' : Draft}
    (h : (s.perform i call).2.drafts j = some d') :
    s.drafts j = some d' ∨
      ∃ d, s.drafts j = some d ∧ (d.perform s.rehearsal call).2.1 = some d' := by
  unfold perform at h
  cases hdraft : s.drafts i with
  | none =>
    simp only [hdraft] at h
    exact .inl h
  | some d =>
    simp only [hdraft] at h
    by_cases hij : j = i
    · subst hij
      rw [Function.update_self] at h
      exact .inr ⟨d, hdraft, h⟩
    · rw [Function.update_of_ne hij] at h
      exact .inl h

/-- A call makes no draft open. -/
theorem isOpen_of_perform {s : Session ι} {i j : ι} {call : Call}
    (h : (s.perform i call).2.IsOpen j) : s.IsOpen j := by
  obtain ⟨d', hd', hopen⟩ := h
  rcases drafts_of_perform hd' with hsame | ⟨d, hd, hcall⟩
  · exact ⟨d', hsame, hopen⟩
  · exact ⟨d, hd, Draft.isOpen_of_perform hcall hopen⟩

/-- Calls leave the commands and the options by which the drafts build. -/
theorem BuildsBy.perform {s : Session ι} {command : ι → Command} {options : RunOptions}
    (h : s.BuildsBy command options) (i : ι) (call : Call) :
    (s.perform i call).2.BuildsBy command options := by
  intro j d' hd'
  rcases drafts_of_perform hd' with hsame | ⟨d, hd, hcall⟩
  · exact h j d' hsame
  · obtain ⟨himage, hbase, hsettings⟩ := Draft.identity_of_perform hcall
    rw [Draft.buildCommand, himage, hbase, hsettings]
    exact h j d hd

/-! ### Every session -/

/-- The tool runs of a session are that of the first call, if it is one, and those of the others. -/
theorem toolRuns_run_cons (s : Session ι) (i : ι) (call : Call) (rest : List (ι × Call)) :
    toolRuns (s.run ((i, call) :: rest)).1 =
      toolRuns (s.perform i call).1.toList ++ toolRuns ((s.perform i call).2.run rest).1 :=
  List.filter_append ..

/-- The tool runs of a session all come from drafts that were open when it started. -/
theorem isOpen_of_mem_toolRuns {s : Session ι} {calls : List (ι × Call)} {a : Answered ι}
    (h : a ∈ toolRuns (s.run calls).1) : s.IsOpen a.draft := by
  induction calls generalizing s with
  | nil => cases h
  | cons first rest ih =>
    obtain ⟨i, call⟩ := first
    rw [toolRuns_run_cons, List.mem_append] at h
    rcases h with hfirst | hrest
    · rw [toolRuns, List.mem_filter, Option.mem_toList] at hfirst
      obtain ⟨hanswered, hreached⟩ := hfirst
      rcases s.script_of_perform i call with ⟨d, b, -, hb, hdraft, -, hopen, -⟩ | ⟨hnone, -⟩
      · rw [hanswered, Option.some.injEq] at hb
        rw [hb, hdraft]
        exact hopen
      · rw [hnone a hanswered] at hreached
        cases hreached
    · exact isOpen_of_perform (ih hrest)

/-- The script tells the tool runs of every session. -/
theorem account_of_buildsBy {s : Session ι} {command : ι → Command} {options : RunOptions}
    (h : s.BuildsBy command options) (calls : List (ι × Call)) :
    Account command options (toolRuns (s.run calls).1) s.rehearsal.script
      (s.run calls).2.rehearsal.script := by
  -- by induction on the calls: each adds a tool run in front of the later ones, or nothing
  induction calls generalizing s with
  | nil => exact .nil command options _
  | cons first rest ih =>
    obtain ⟨i, call⟩ := first
    have hrest := ih (h.perform i call)
    rw [toolRuns_run_cons]
    show Account command options _ _ ((s.perform i call).2.run rest).2.rehearsal.script
    rcases s.script_of_perform i call with
      ⟨d, a, hd, ha, rfl, hreached, -, hclosed, hanswer, hscript⟩ | ⟨hnone, hscript⟩
    · obtain ⟨hcommand, hoptions⟩ := h a.draft d hd
      rw [hcommand] at hanswer
      rw [hscript, hcommand, hoptions] at hrest
      -- the draft is closed now, so no later tool run is one of this draft
      have hother : ∀ b ∈ toolRuns ((s.perform a.draft call).2.run rest).1,
          b.draft ≠ a.draft := by
        intro b hb hsame
        have hopen := isOpen_of_mem_toolRuns hb
        rw [hsame] at hopen
        exact hclosed hopen
      simpa [ha, toolRuns, hreached] using hrest.cons hanswer hother
    · have hnone : toolRuns (s.perform i call).1.toList = [] := by
        simpa [toolRuns] using hnone
      rw [hnone, List.nil_append]
      rwa [hscript] at hrest

/-- Drafts that were created under the same settings share a rehearsal, and calls on them come in
any order. Then the invocations that are added are, in order, those of the builds that succeeded or
failed because of the tool, each with the command of its draft and the options of the settings. No
draft has two of them, and the `k`-th succeeds exactly if the `k`-th scripted outcome is exit code
zero or there are no more. A call that is none of them adds no invocation and takes no outcome. -/
theorem account_of_run {settings : Settings} {name os : ι → String} {new : ι → Draft}
    (hcreate : ∀ i, Draft.create settings (name i) (os i) = .ok (new i)) (r : Rehearsal)
    (calls : List (ι × Call)) :
    let start : Session ι := ⟨fun i => some (new i), r⟩
    let s := (start.run calls).2
    Account (fun i => (new i).buildCommand) settings.toolOptions (toolRuns (start.run calls).1)
        r.script s.rehearsal.script ∧
      ∀ i call, (∀ a, (s.perform i call).1 = some a → a.reachedTool = false) →
        (s.perform i call).2.rehearsal.script = s.rehearsal.script := by
  intro start s
  -- a new draft holds the settings that it was created under
  have hstart : start.BuildsBy (fun i => (new i).buildCommand) settings.toolOptions := by
    intro i d hd
    obtain rfl : new i = d := Option.some.inj hd
    obtain ⟨image, -, hnew⟩ := Draft.create_eq_ok (hcreate i)
    refine ⟨rfl, ?_⟩
    rw [hnew]
  refine ⟨account_of_buildsBy hstart calls, fun i call hother => ?_⟩
  rcases s.script_of_perform i call with ⟨-, a, -, ha, -, hreached, -⟩ | ⟨-, hscript⟩
  · rw [hother a ha] at hreached
    cases hreached
  · exact hscript

/-- Calls on two drafts, of which the first is built twice, and the second also before it has a
source image. -/
def twoBuilds : List (Bool × Call) :=
  [(false, .setSource (.named "base")), (false, .build), (true, .build), (false, .build),
    (true, .setSource (.named "base")), (true, .build)]

/-- For two drafts of the same name, the tool runs once for each: it fails as scripted, and then it
succeeds. -/
theorem account_of_run_sameName :
    ∃ new : Bool → Draft, (∀ i, Draft.create {} "app" "linux" = .ok (new i)) ∧
      let r : Rehearsal := { script := { pending := [.exits 2 "" "no"] } }
      let result := run ⟨fun i => some (new i), r⟩ twoBuilds
      (toolRuns result.1).map (fun a => (a.draft, a.answer.isOk)) =
          [(false, false), (true, true)] ∧
        result.2.rehearsal.script =
          ⟨[], [⟨(new false).buildCommand, {}⟩, ⟨(new true).buildCommand, {}⟩]⟩ := by
  obtain ⟨d, hcreate⟩ : ∃ d, Draft.create {} "app" "linux" = .ok d := ⟨_, by rfl⟩
  refine ⟨fun _ => d, fun _ => hcreate, ?_⟩
  intro r result
  have hran : (toolRuns result.1).map (fun a => (a.draft, a.answer.isOk)) =
      [(false, false), (true, true)] := by
    cases hcreate
    decide
  have hdrafts : (toolRuns result.1).map Answered.draft = [false, true] := by
    simpa [Function.comp_def] using congrArg (List.map Prod.fst) hran
  have hlength : (toolRuns result.1).length = 2 := by
    simpa using congrArg List.length hdrafts
  obtain ⟨haccount, -⟩ := account_of_run (fun _ : Bool => hcreate) r twoBuilds
  refine ⟨hran, ?_⟩
  calc result.2.rehearsal.script
      = ⟨result.2.rehearsal.script.pending, result.2.rehearsal.script.invocations⟩ := rfl
    _ = ⟨r.script.pending.drop 2, r.script.invocations ++
          ((toolRuns result.1).map Answered.draft).map fun _ => ⟨d.buildCommand, {}⟩⟩ := by
      rw [haccount.pending, haccount.invocations, hlength, List.map_map]
      rfl
    _ = ⟨[], [⟨d.buildCommand, {}⟩, ⟨d.buildCommand, {}⟩]⟩ := by rw [hdrafts]; rfl

end Session

end ContainerBuild
