import ContainerBuild.Proofs.Draft.Call
import ContainerBuild.Rehearsal

/-!
# The life cycle of a draft

A draft starts without a source image, gets one, and is finalized by the first build that is
attempted with it. The state never goes back, a finalized draft refuses every change, and what it
tells about itself stays as it was when that build was called, also if the build failed.

State and source image are two fields. No draft that calls can lead to has a state that does not fit
its source image, and this is what makes the manifest available to a build that has finalized its
draft.

* `Draft.Linked d` — the state of `d` fits its source image. It holds of a new draft, every call
  keeps it (`linked_of_perform`), and so it holds after every run (`linked_of_runs`).
* `Draft.SameAnswers d d'` — both drafts answer every question alike.
* `Draft.LifeCycle` — what holds of a draft at every point of its life.
* `lifeCycle_of_runs` — it holds after every run of calls on a draft that was just created.
-/

namespace ContainerBuild.Draft

variable {ω : Type} [Workspace ω]

/-- The draft is in its first state exactly while it has no source image. -/
def Linked (d : Draft) : Prop := d.state = .created ↔ d.source? = none

/-- Both drafts answer every question about their image alike. -/
structure SameAnswers (d d' : Draft) : Prop where
  /-- They are built on the same image. -/
  source : d.source? = d'.source?
  /-- The same goes into them. -/
  recipe : d.recipe = d'.recipe
  /-- They describe the same image. -/
  image : d.image = d'.image
  /-- They show the same manifest, or none. -/
  preview : d.preview = d'.preview
  /-- They write it to the same place. -/
  manifestPath : d.manifestPath = d'.manifestPath
  /-- They run the same command. -/
  buildCommand : d.buildCommand = d'.buildCommand

/-- A refusal that leaves the workspace as it is, because the operation does not fit the state. -/
def Refused {α : Type} (w : ω) (result : Except BuildError α × ω) : Prop :=
  ∃ error : BuildError, error.kind = .invalidState ∧ result = (.error error, w)

/-- What holds of a draft `d` to which `calls` have led from the new draft `d₀`. -/
structure LifeCycle (ω : Type) [Workspace ω] (d₀ : Draft) (calls : List Call) (d : Draft) :
    Prop where
  /-- The draft is in its first state exactly while it has no source image. -/
  created_iff : d.state = .created ↔ d.source? = none
  /-- It has none exactly while none has been set. -/
  source_none_iff : d.source? = none ↔ ∀ source, Call.setSource source ∉ calls
  /-- No further calls take the state back. -/
  forward : ∀ further d', Runs ω d further d' → d.state.rank ≤ d'.state.rank
  /-- In the first state, a build is refused and leaves draft and workspace as they are. -/
  build_created : d.state = .created → ∀ w : ω,
    (d.build w).2.1 = d ∧ Refused w ((d.build w).1, (d.build w).2.2)
  /-- Once finalized, every change and every build is refused, and the draft stays as it is. -/
  refused : d.state = .finalized → ∀ w : ω,
    (∀ source, Refused w (d.setSourceIn source w)) ∧ (∀ p, Refused w (d.executeIn p w)) ∧
      (d.build w).2.1 = d ∧ Refused w ((d.build w).1, (d.build w).2.2)
  /-- A build that is attempted finalizes the draft, and whatever calls follow, it answers every
  question as it did when that build was called. -/
  settled : d.state = .sourceSet → ∀ (w : ω) further d',
    Runs ω (d.build w).2.1 further d' → d'.state = .finalized ∧ d'.SameAnswers d
  /-- A finalized draft was finalized by such a build, which one of the calls was, and answers as it
  did then. -/
  finalized_by : d.state = .finalized →
    ∃ before after b, calls = before ++ Call.build :: after ∧ Runs ω d₀ before b ∧
      b.state = .sourceSet ∧ (∃ w : ω, Runs ω (b.build w).2.1 after d) ∧ d.SameAnswers b
  /-- There is no manifest to show exactly in the first state. -/
  preview_error_iff : (∃ error, d.preview = .error error) ↔ d.state = .created
  /-- A build that is attempted finds a manifest, although the draft is finalized by then, and does
  not fail because of the state. -/
  build_preview : d.state = .sourceSet → ∀ w : ω,
    (d.build w).2.1 = { d with state := .finalized } ∧
      (∃ manifest, (d.build w).2.1.preview = .ok manifest) ∧
        ∀ error, (d.build w).1 = .error error → error.kind ≠ .invalidState

/-! ### State and source image -/

/-- The phase of a draft tells both its state and its source image exactly if they fit together. -/
theorem linked_iff_phase (d : Draft) :
    d.Linked ↔ d.phase.state = d.state ∧ d.phase.source? = d.source? := by
  cases hstate : d.state <;> cases hsource : d.source? <;>
    simp [Linked, phase, Phase.state, Phase.source?, hstate, hsource]

/-- A draft that was just created has no source image and is in the first state. -/
theorem linked_of_create {settings : Settings} {name os : String} {d : Draft}
    (h : Draft.create settings name os = .ok d) : d.Linked := by
  obtain ⟨image, -, rfl⟩ := create_eq_ok h
  simp [Linked]

/-- A call keeps state and source image together, whatever comes of it. -/
theorem linked_of_perform {d d' : Draft} {w : ω} {call : Call} (hlinked : d.Linked)
    (h : (d.perform w call).2.1 = some d') : d'.Linked := by
  rcases perform_cases h with ⟨source, image, -, -, -, rfl⟩ | ⟨p, -, -, rfl⟩ | ⟨-, rfl⟩ |
    ⟨-, rfl⟩
  · -- both fields are set at once
    simp [Linked]
  · exact hlinked
  · exact hlinked
  · -- a build leaves the first state alone and never leads to it
    simpa [Linked, DraftState.attempted_eq_created_iff] using hlinked

/-- Calls keep state and source image together. -/
theorem linked_of_runs {d d' : Draft} {calls : List Call} (hruns : Runs ω d calls d')
    (hlinked : d.Linked) : d'.Linked := by
  induction hruns with
  | nil d => exact hlinked
  | cons hcall _ ih => exact ih (linked_of_perform hlinked hcall)

/-- A draft with a source image that has not been built can find its manifest. -/
theorem Linked.exists_source {d : Draft} (hlinked : d.Linked) (hstate : d.state = .sourceSet) :
    ∃ source, d.source? = some source := by
  refine Option.ne_none_iff_exists'.1 fun hnone => ?_
  rw [hlinked.2 hnone] at hstate
  cases hstate

/-- A draft has a source image after a call iff it had one before or the call set one. -/
theorem source_none_of_perform {d d' : Draft} {w : ω} {call : Call}
    (h : (d.perform w call).2.1 = some d') :
    d'.source? = none ↔ d.source? = none ∧ ∀ source, call ≠ .setSource source := by
  rcases perform_cases h with ⟨source, image, rfl, -, -, rfl⟩ | ⟨p, rfl, -, rfl⟩ | ⟨rfl, rfl⟩ |
    ⟨rfl, rfl⟩
  all_goals simp

/-- A draft has no source image after a run iff it had none before and no call set one. -/
theorem source_none_of_runs {d d' : Draft} {calls : List Call} (hruns : Runs ω d calls d') :
    d'.source? = none ↔ d.source? = none ∧ ∀ source, Call.setSource source ∉ calls := by
  induction hruns with
  | nil d => simp
  | @cons d d₁ d₂ call calls w hcall _ ih =>
    rw [ih, source_none_of_perform hcall, and_assoc, ← forall_and]
    refine and_congr_right fun _ => forall_congr' fun source => ?_
    simp [eq_comm]

/-! ### The way of the state -/

/-- A call does not take the state back. -/
theorem rank_le_of_perform {d d' : Draft} {w : ω} {call : Call}
    (h : (d.perform w call).2.1 = some d') : d.state.rank ≤ d'.state.rank := by
  rcases perform_cases h with ⟨source, image, -, hopen, -, rfl⟩ | ⟨p, -, -, rfl⟩ | ⟨-, rfl⟩ |
    ⟨-, rfl⟩
  · -- only an open draft takes a source image
    cases hstate : d.state with
    | finalized => simp [hstate, DraftState.isOpen] at hopen
    | created => simp [DraftState.rank]
    | sourceSet => simp [DraftState.rank]
  · exact Nat.le_refl _
  · exact Nat.le_refl _
  · cases hstate : d.state <;> simp [DraftState.attempted, DraftState.rank]

/-- Calls do not take the state back. -/
theorem rank_le_of_runs {d d' : Draft} {calls : List Call} (hruns : Runs ω d calls d') :
    d.state.rank ≤ d'.state.rank := by
  induction hruns with
  | nil d => exact Nat.le_refl _
  | cons hcall _ ih => exact Nat.le_trans (rank_le_of_perform hcall) ih

/-! ### Finalized drafts -/

/-- A finalized draft refuses a source image, a procedure and a build, and stays as it is. -/
theorem refused_of_finalized {d : Draft} (hstate : d.state = .finalized) (w : ω) :
    (∀ source, Refused w (d.setSourceIn source w)) ∧ (∀ p, Refused w (d.executeIn p w)) ∧
      (d.build w).2.1 = d ∧ Refused w ((d.build w).1, (d.build w).2.2) := by
  have hensure (operation : String) :
      d.ensureOpen operation = .error (.closed operation d.image.name) := by
    simp [ensureOpen, hstate, DraftState.isOpen]
  refine ⟨fun source => ⟨.closed "from" d.image.name, rfl, ?_⟩,
    fun p => ⟨.closed "execute" d.image.name, rfl, ?_⟩, ?_,
    ⟨.alreadyBuilt d.image.name, rfl, ?_⟩⟩
  · rw [setSourceIn, setSource, hensure]
    rfl
  · rw [executeIn, execute, hensure]
    rfl
  · rw [build, hstate]
  · rw [build, hstate]

/-- A call leaves a finalized draft as it is, if it leaves one. -/
theorem eq_of_perform_finalized {d d' : Draft} {w : ω} {call : Call}
    (hstate : d.state = .finalized) (h : (d.perform w call).2.1 = some d') : d' = d := by
  rcases perform_cases h with ⟨_, _, -, hopen, -, -⟩ | ⟨_, -, hopen, -⟩ | ⟨-, rfl⟩ | ⟨-, rfl⟩
  · simp [hstate, DraftState.isOpen] at hopen
  · simp [hstate, DraftState.isOpen] at hopen
  · rfl
  · obtain ⟨image, source, recipe, state, settings⟩ := d
    cases hstate
    rfl

/-- A finalized draft stays as it is through all calls. -/
theorem eq_of_runs_finalized {d d' : Draft} {calls : List Call} (hruns : Runs ω d calls d')
    (hstate : d.state = .finalized) : d' = d := by
  induction hruns with
  | nil d => rfl
  | @cons d d₁ d₂ call calls w hcall _ ih =>
    -- the rest of the run starts where the run started
    obtain rfl := eq_of_perform_finalized hstate hcall
    exact ih hstate

/-- Finalizing a draft changes no answer. -/
theorem sameAnswers_finalized (d : Draft) : SameAnswers { d with state := .finalized } d where
  source := rfl
  recipe := rfl
  image := rfl
  preview := rfl
  manifestPath := rfl
  buildCommand := rfl

/-- A build that is attempted finalizes the draft and changes nothing else about it. -/
theorem build_draft_of_sourceSet {d : Draft} (hstate : d.state = .sourceSet) (w : ω) :
    (d.build w).2.1 = { d with state := .finalized } := by
  rw [build_draft, hstate, DraftState.attempted]

/-- After a build attempt, no call changes an answer. -/
theorem settled_of_build {d d' : Draft} (hstate : d.state = .sourceSet) {w : ω}
    {calls : List Call} (hruns : Runs ω (d.build w).2.1 calls d') :
    d'.state = .finalized ∧ d'.SameAnswers d := by
  rw [build_draft_of_sourceSet hstate] at hruns
  obtain rfl := eq_of_runs_finalized hruns rfl
  exact ⟨rfl, sameAnswers_finalized d⟩

/-- The draft that a run leaves finalized was finalized by a build in the run. -/
theorem finalized_by_build {d d' : Draft} {calls : List Call} (hruns : Runs ω d calls d')
    (hopen : d.state.isOpen = true) (hfinal : d'.state = .finalized) :
    ∃ before after b, calls = before ++ Call.build :: after ∧ Runs ω d before b ∧
      b.state = .sourceSet ∧ ∃ w : ω, Runs ω (b.build w).2.1 after d' := by
  induction hruns with
  | nil d => simp [hfinal, DraftState.isOpen] at hopen
  | @cons d d₁ d₂ call calls w hcall hrest ih =>
    by_cases hopen₁ : d₁.state.isOpen = true
    · obtain ⟨before, after, b, rfl, hbefore, hb, hafter⟩ := ih hopen₁ hfinal
      exact ⟨call :: before, after, b, rfl, .cons hcall hbefore, hb, hafter⟩
    · -- the first call is the build: no other one closes an open draft
      rcases perform_cases hcall with ⟨_, _, -, -, -, rfl⟩ | ⟨_, -, -, rfl⟩ | ⟨-, rfl⟩ |
        ⟨rfl, rfl⟩
      · exact absurd rfl hopen₁
      · exact absurd hopen hopen₁
      · exact absurd hopen hopen₁
      · refine ⟨[], calls, d, rfl, .nil d, ?_, w, ?_⟩
        · exact DraftState.eq_sourceSet_of_attempted hopen (by simpa using hopen₁)
        · rw [build_draft]
          exact hrest

/-! ### The manifest during a build -/

/-- There is no manifest to show exactly if there is no source image. -/
theorem preview_error_iff_source_none (d : Draft) :
    (∃ error, d.preview = .error error) ↔ d.source? = none := by
  cases hsource : d.source? <;> simp [preview, hsource]

/-- What staging reports does not concern the state. -/
theorem stage_error_kind {d : Draft} {entries : List StagedEntry} {w w' : ω} {error : BuildError}
    (h : d.stage entries w = (.error error, w')) : error.kind ≠ .invalidState := by
  induction entries generalizing w with
  | nil => cases h
  | cons entry rest ih =>
    simp only [stage] at h
    split at h
    · cases h
      simp [BuildError.kind]
    · split at h
      · cases h
        simp [BuildError.kind]
      · exact ih h

/-- The manifest is not written only because the store refuses it. -/
theorem writeManifest_eq_error {d : Draft} {content : String} {w w' : ω} {error : BuildError}
    (h : d.writeManifest content w = (.error error, w')) :
    ∃ cause, error = .notWritten d.manifestPath cause := by
  simp only [writeManifest] at h
  split at h
  next cause _ _ =>
    cases h
    exact ⟨cause, rfl⟩
  next => cases h

/-- The last step of a build fails only because the tool does. -/
theorem runTool_eq_error {d : Draft} {w w' : ω} {error : BuildError}
    (h : d.runTool w = (.error error, w')) : ∃ cause, error = .toolFailed cause := by
  simp only [runTool] at h
  split at h
  next cause _ _ =>
    cases h
    exact ⟨cause, rfl⟩
  next => cases h

/-- Once the manifest is made, what the steps of a build report does not concern the state. -/
theorem materialize_error_kind {d : Draft} {manifest : Manifest} {w w' : ω} {error : BuildError}
    (hpreview : d.preview = .ok manifest) (h : d.materialize w = (.error error, w')) :
    error.kind ≠ .invalidState := by
  simp only [materialize, hpreview] at h
  split at h
  next hstage =>
    cases h
    exact stage_error_kind hstage
  next =>
    split at h
    next hwrite =>
      cases h
      obtain ⟨cause, rfl⟩ := writeManifest_eq_error hwrite
      simp [BuildError.kind]
    next =>
      obtain ⟨cause, rfl⟩ := runTool_eq_error h
      simp [BuildError.kind]

/-- A build that is attempted on a draft whose state fits its source image finds a manifest and does
not fail because of the state. -/
theorem preview_of_build {d : Draft} (hlinked : d.Linked) (hstate : d.state = .sourceSet) (w : ω) :
    (∃ manifest, (d.build w).2.1.preview = .ok manifest) ∧
      ∀ error, (d.build w).1 = .error error → error.kind ≠ .invalidState := by
  obtain ⟨source, hsource⟩ := hlinked.exists_source hstate
  -- the manifest is made of what finalizing the draft leaves alone
  have hpreview : Draft.preview { d with state := .finalized } =
      .ok (.ofRecipe d.recipe source) := by simp [preview, hsource]
  refine ⟨⟨_, by rw [build_draft_of_sourceSet hstate, hpreview]⟩, fun error herror => ?_⟩
  simp only [build, hstate] at herror
  exact materialize_error_kind hpreview (Prod.ext herror rfl)

/-! ### The whole life -/

/-- Wherever calls lead a draft from its creation, it is at a point of its life cycle. -/
theorem lifeCycle_of_runs {settings : Settings} {name os : String} {d₀ d : Draft}
    {calls : List Call} (hcreate : Draft.create settings name os = .ok d₀)
    (hruns : Runs ω d₀ calls d) : LifeCycle ω d₀ calls d := by
  obtain ⟨hstate₀, hsource₀⟩ : d₀.state = .created ∧ d₀.source? = none := by
    obtain ⟨image, -, rfl⟩ := create_eq_ok hcreate
    exact ⟨rfl, rfl⟩
  have hlinked : d.Linked := linked_of_runs hruns (linked_of_create hcreate)
  exact {
    created_iff := hlinked
    source_none_iff := by simpa [hsource₀] using source_none_of_runs hruns
    forward := fun _ _ hfurther => rank_le_of_runs hfurther
    build_created := fun hstate w => by
      rw [build, hstate]
      exact ⟨rfl, .noSource, rfl, rfl⟩
    refused := refused_of_finalized
    settled := fun hstate _ _ _ hfurther => settled_of_build hstate hfurther
    finalized_by := fun hstate => by
      obtain ⟨before, after, b, hcalls, hbefore, hb, w, hafter⟩ :=
        finalized_by_build hruns (by rw [hstate₀]; rfl) hstate
      exact ⟨before, after, b, hcalls, hbefore, hb, ⟨w, hafter⟩, (settled_of_build hb hafter).2⟩
    preview_error_iff := (preview_error_iff_source_none d).trans hlinked.symm
    build_preview := fun hstate w =>
      ⟨build_draft_of_sourceSet hstate w, preview_of_build hlinked hstate w⟩ }

/-- A draft that was given a source image, built and previewed is at a point of its life cycle. -/
theorem lifeCycle_of_runs_built :
    ∃ d₀ d : Draft, Draft.create {} "app" "linux" = .ok d₀ ∧
      Runs Rehearsal d₀ [.setSource (.named "base"), .build, .preview] d ∧
        (d.state = .finalized ∧ d.source? = some ⟨.imported, "base", "linux"⟩) ∧
          LifeCycle Rehearsal d₀ [.setSource (.named "base"), .build, .preview] d := by
  obtain ⟨d₀, hcreate⟩ : ∃ d₀, Draft.create {} "app" "linux" = .ok d₀ := ⟨_, by rfl⟩
  obtain ⟨d, hruns, hfinal⟩ : ∃ d,
      Runs Rehearsal d₀ [.setSource (.named "base"), .build, .preview] d ∧
        d.state = .finalized ∧ d.source? = some ⟨.imported, "base", "linux"⟩ := by
    cases hcreate
    exact ⟨_, .cons (w := {}) rfl (.cons (w := {}) rfl (.cons (w := {}) rfl (.nil _))), rfl, rfl⟩
  exact ⟨d₀, d, hcreate, hruns, hfinal, lifeCycle_of_runs hcreate hruns⟩

end ContainerBuild.Draft
