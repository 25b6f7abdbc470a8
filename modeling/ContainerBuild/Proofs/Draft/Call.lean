import ContainerBuild.Draft.Build

/-!
# Calls on a draft

A draft is used by calls: `setSource` and `execute` take the draft and give it back only if they
succeed, `preview` and `build` leave it in the hands of the caller. This file gives the calls one
type and one effect, and says once what a call can do to a draft.

* `Draft.Call`, `Draft.perform` — the calls and what each one does in a workspace.
* `Draft.Runs ω d calls d'` — the calls lead from `d` to `d'`, each in a workspace of its own: what
  other programs do to files in between does not matter.
* `Draft.perform_cases` — the four ways in which a call can leave a draft.
-/

namespace ContainerBuild

namespace DraftState

/-- How far a state is on the way of every draft. -/
def rank : DraftState → Nat
  | created => 0
  | sourceSet => 1
  | finalized => 2

/-- The state after a build was called. -/
def attempted : DraftState → DraftState
  | sourceSet => finalized
  | state => state

theorem isOpen_eq_false_iff {state : DraftState} : state.isOpen = false ↔ state = finalized := by
  cases state <;> decide

theorem attempted_eq_created_iff {state : DraftState} :
    state.attempted = created ↔ state = created := by
  cases state <;> decide

/-- An open state is closed by a build only if a source image was set. -/
theorem eq_sourceSet_of_attempted {state : DraftState} (hopen : state.isOpen = true)
    (hclosed : state.attempted.isOpen = false) : state = sourceSet := by
  cases state with
  | created => cases hclosed
  | sourceSet => rfl
  | finalized => cases hopen

end DraftState

namespace Draft

/-- A call on a draft. -/
inductive Call where
  /-- Set the image to build on. -/
  | setSource (source : ImageSource)
  /-- Apply a procedure. -/
  | execute (procedure : Procedure)
  /-- Show the manifest. -/
  | preview
  /-- Build the image. -/
  | build

variable {ω : Type} [Workspace ω]

/-- The answer of a call, the draft that is left unless the call consumed it, and the workspace. -/
def perform (d : Draft) (w : ω) : Call → Except BuildError Unit × Option Draft × ω
  | .setSource source =>
    match d.setSourceIn source w with
    | (.error error, w) => (.error error, none, w)
    | (.ok d, w) => (.ok (), some d, w)
  | .execute p =>
    match d.executeIn p w with
    | (.error error, w) => (.error error, none, w)
    | (.ok d, w) => (.ok (), some d, w)
  | .preview => (d.preview.map fun _ => (), some d, w)
  | .build => ((d.build w).1, some (d.build w).2.1, (d.build w).2.2)

/-- The calls lead from one draft to another. Each call takes place in some workspace and leaves a
draft for the next one. -/
inductive Runs (ω : Type) [Workspace ω] : Draft → List Call → Draft → Prop where
  | nil (d : Draft) : Runs ω d [] d
  | cons {d d₁ d₂ : Draft} {call : Call} {calls : List Call} {w : ω}
      (hcall : (d.perform w call).2.1 = some d₁) (hrest : Runs ω d₁ calls d₂) :
      Runs ω d (call :: calls) d₂

/-- A draft is created for a well-formed name and platform, without a source image, and with an
empty recipe. -/
theorem create_eq_ok {settings : Settings} {name os : String} {d : Draft}
    (h : Draft.create settings name os = .ok d) :
    ∃ image, Image.checked .built name os = .ok image ∧
      d = { image, recipe := .create name os settings.contextsRoot, settings } := by
  simp only [create] at h
  split at h
  next => cases h
  next image hchecked =>
    cases h
    exact ⟨image, hchecked, rfl⟩

/-- An open draft takes every source that stands for an image. -/
theorem setSource_of_isOpen {d : Draft} (hopen : d.state.isOpen = true) (source : ImageSource) :
    d.setSource source =
      match source.resolve d.image.os with
      | .error fault => .error (.badName fault)
      | .ok image => .ok { d with source? := some image, state := .sourceSet } := by
  rw [setSource, ensureOpen, if_pos hopen]
  cases source.resolve d.image.os <;> rfl

/-- An open draft takes every procedure. -/
theorem execute_of_isOpen {d : Draft} (hopen : d.state.isOpen = true) (p : Procedure) :
    d.execute p = .ok { d with recipe := d.recipe.apply p } := by
  rw [execute, ensureOpen, if_pos hopen]
  rfl

/-- A source is set only on an open draft, and only if it stands for an image. -/
theorem setSource_eq_ok {d d' : Draft} {source : ImageSource} (h : d.setSource source = .ok d') :
    d.state.isOpen = true ∧ ∃ image, source.resolve d.image.os = .ok image ∧
      d' = { d with source? := some image, state := .sourceSet } := by
  simp only [setSource, ensureOpen] at h
  split at h
  next hopen =>
    refine ⟨hopen, ?_⟩
    cases hresolve : source.resolve d.image.os with
    | error fault =>
      rw [hresolve] at h
      cases h
    | ok image =>
      rw [hresolve] at h
      cases h
      exact ⟨image, rfl, rfl⟩
  next => cases h

/-- A procedure is applied only to an open draft. -/
theorem execute_eq_ok {d d' : Draft} {p : Procedure} (h : d.execute p = .ok d') :
    d.state.isOpen = true ∧ d' = { d with recipe := d.recipe.apply p } := by
  simp only [execute, ensureOpen] at h
  split at h
  next hopen =>
    cases h
    exact ⟨hopen, rfl⟩
  next => cases h

/-- A build changes the state of a draft and nothing else. -/
theorem build_draft (d : Draft) (w : ω) :
    (d.build w).2.1 = { d with state := d.state.attempted } := by
  obtain ⟨image, source, recipe, state, settings⟩ := d
  cases state <;> rfl

/-- What a call can do to a draft that it leaves. -/
theorem perform_cases {d d' : Draft} {w : ω} {call : Call}
    (h : (d.perform w call).2.1 = some d') :
    (∃ source image, call = .setSource source ∧ d.state.isOpen = true ∧
        source.resolve d.image.os = .ok image ∧
        d' = { d with source? := some image, state := .sourceSet }) ∨
      (∃ p, call = .execute p ∧ d.state.isOpen = true ∧
        d' = { d with recipe := d.recipe.apply p }) ∨
      (call = .preview ∧ d' = d) ∨
      (call = .build ∧ d' = { d with state := d.state.attempted }) := by
  cases call with
  | setSource source =>
    left
    simp only [perform, setSourceIn] at h
    cases hset : d.setSource source with
    | error error => simp [hset] at h
    | ok d₁ =>
      obtain ⟨hopen, image, hresolve, rfl⟩ := setSource_eq_ok hset
      simp only [hset, Option.some.injEq] at h
      exact ⟨source, image, rfl, hopen, hresolve, h.symm⟩
  | execute p =>
    right; left
    simp only [perform, executeIn] at h
    cases hexecute : d.execute p with
    | error error => simp [hexecute] at h
    | ok d₁ =>
      obtain ⟨hopen, rfl⟩ := execute_eq_ok hexecute
      simp only [hexecute, Option.some.injEq] at h
      exact ⟨p, rfl, hopen, h.symm⟩
  | preview =>
    right; right; left
    exact ⟨rfl, (Option.some.inj h).symm⟩
  | build =>
    right; right; right
    refine ⟨rfl, ?_⟩
    rw [← build_draft d w]
    exact (Option.some.inj h).symm

end Draft

end ContainerBuild
