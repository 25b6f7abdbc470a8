import ContainerBuild.Proofs.Observed
import ContainerBuild.Rehearsal

/-!
# The course of a build

What a build does to a store in memory and to a script of runs, said without reference to how it is
carried out. Staged entries are placed in order, up to the first that has no place or cannot be
placed; then the manifest is written; then the build tool runs once.

* `Recipe.Placed r entries m requests m'` — all entries can be placed in order, by `requests`, and
  turn the store `m` into `m'`.
* `Draft.Builds d m s answer m' s' requests` — the four ways in which a build of `d` can go.
* `build_course` — a build finalizes the draft and goes exactly one of these ways.
-/

namespace ContainerBuild

/-- Places one entry at a path of a store in memory. -/
def Memory.place (m : Memory) (entry : StagedEntry) (path : Path) :
    Except StoreFault Unit × Memory :=
  match entry with
  | .file source _ => m.copyFile source path
  | .directory source _ => m.copyDir source path
  | .document _ value => m.writeText path value.pretty

/-- A write that is refused leaves the store as it is. -/
theorem Memory.writeText_error {m m' : Memory} {p : Path} {content : String} {cause : StoreFault}
    (h : m.writeText p content = (.error cause, m')) : m' = m := by
  simp only [Memory.writeText] at h
  split at h
  · exact (Prod.ext_iff.1 h).2.symm
  · split at h
    · exact (Prod.ext_iff.1 h).2.symm
    · cases (Prod.ext_iff.1 h).1

/-- All entries have a place in the staging directory and can be placed there one after the other:
they turn the store `m` into `m'`, and `requests` are the operations that do it. -/
inductive Recipe.Placed (r : Recipe) :
    List StagedEntry → Memory → List Request → Memory → Prop where
  | nil (m : Memory) : Placed r [] m [] m
  | cons {entry : StagedEntry} {rest : List StagedEntry} {path : Path} {m m₁ m₂ : Memory}
      {requests : List Request}
      (htarget : r.stagingPath? entry.target = some path)
      (hplace : m.place entry path = (.ok (), m₁))
      (hrest : Placed r rest m₁ requests m₂) :
      Placed r (entry :: rest) m (entry.request path :: requests) m₂

/-- Either all entries can be placed, or there is a first one that has no place or cannot be
placed. -/
theorem Recipe.placed_or_stopped (r : Recipe) (entries : List StagedEntry) (m : Memory) :
    (∃ requests m', r.Placed entries m requests m') ∨
      ∃ before entry after requests m', entries = before ++ entry :: after ∧
        r.Placed before m requests m' ∧
        (r.stagingPath? entry.target = none ∨ ∃ path cause m'',
          r.stagingPath? entry.target = some path ∧
            m'.place entry path = (.error cause, m'')) := by
  induction entries generalizing m with
  | nil => exact .inl ⟨[], m, .nil m⟩
  | cons entry rest ih =>
    cases htarget : r.stagingPath? entry.target with
    | none => exact .inr ⟨[], entry, rest, [], m, rfl, .nil m, .inl htarget⟩
    | some path =>
      rcases hplace : m.place entry path with ⟨cause | ⟨⟩, m₁⟩
      · exact .inr ⟨[], entry, rest, [], m, rfl, .nil m, .inr ⟨path, cause, m₁, htarget, hplace⟩⟩
      · -- the others meet the store that this entry leaves
        rcases ih m₁ with ⟨requests, m', hplaced⟩ |
          ⟨before, stopped, after, requests, m', rfl, hplaced, hstop⟩
        · exact .inl ⟨_, m', .cons htarget hplace hplaced⟩
        · exact .inr ⟨entry :: before, stopped, after, _, m', rfl,
            .cons htarget hplace hplaced, hstop⟩

/-- What a build answers when its tool ends as scripted: only exit code zero is a success. -/
def Scripted.toolAnswer (c : Command) : Scripted → Except BuildError Unit
  | exits status _ stderr =>
    if status = 0 then .ok () else .error (.toolFailed (.failed c.display (some status) stderr))
  | refuses cause => .error (.toolFailed (.notStarted c.display cause))

/-- Where failures count, a scripted run of the tool answers as the outcome says. -/
theorem Scripted.toolAnswer_eq (outcome : Scripted) (c : Command) {o : RunOptions}
    (hcounts : o.ignoresFailure = false) :
    outcome.toolAnswer c =
      match (outcome.finish c).answer o with
      | .ok _ => .ok ()
      | .error cause => .error (.toolFailed cause) := by
  cases outcome with
  | refuses cause =>
    simp [finish, Finished.notStarted, Finished.answer, hcounts, toolAnswer]
  | exits status stdout stderr =>
    by_cases hzero : status = 0 <;>
      simp [finish, Finished.ended, Output.isSuccess, Finished.answer, hzero, hcounts, toolAnswer]

/-- The options under which a build tool should run: failures count, and its output is captured if
the settings ask for it. -/
def Settings.toolOptions (s : Settings) : RunOptions where
  ignoresFailure := false
  streams := if s.capturesOutput then .captured else .inherited

namespace Draft

/-- The ways in which a build of the draft `d` can go that starts with the store `m` and the script
`s`. It gives `answer`, leaves the store `m'` and the script `s'`, and makes no other requests than
`requests`. -/
inductive Builds (d : Draft) (m : Memory) (s : Script) :
    Except BuildError Unit → Memory → Script → List Request → Prop where
  /-- The first entry that is not placed would lie outside the staging directory: its target is no
  valid argument. -/
  | badTarget {before after : List StagedEntry} {entry : StagedEntry} {requests : List Request}
      {m' : Memory}
      (hstaged : d.recipe.staged = before ++ entry :: after)
      (hplaced : d.recipe.Placed before m requests m')
      (htarget : d.recipe.stagingPath? entry.target = none) :
      Builds d m s (.error (.badTarget entry.target)) m' s requests
  /-- The first entry that is not placed cannot be copied or written, and its place is told. What a
  failed copy of a directory did before it failed stays. -/
  | notPlaced {before after : List StagedEntry} {entry : StagedEntry} {path : Path}
      {cause : StoreFault} {requests : List Request} {m' m'' : Memory}
      (hstaged : d.recipe.staged = before ++ entry :: after)
      (hplaced : d.recipe.Placed before m requests m')
      (htarget : d.recipe.stagingPath? entry.target = some path)
      (hplace : m'.place entry path = (.error cause, m'')) :
      Builds d m s (.error (.notWritten path cause)) m'' s (requests ++ [entry.request path])
  /-- All entries are placed and the manifest cannot be written: the store is as the staging left
  it. -/
  | notWritten {manifest : Manifest} {cause : StoreFault} {requests : List Request}
      {m' : Memory}
      (hplaced : d.recipe.Placed d.recipe.staged m requests m')
      (hpreview : d.preview = .ok manifest)
      (hwrite : (m'.writeText d.manifestPath manifest.render).1 = .error cause) :
      Builds d m s (.error (.notWritten d.manifestPath cause)) m' s
        (requests ++ [.writeText d.manifestPath manifest.render])
  /-- All entries are placed, the manifest is written, and the tool runs once. Its outcome is the
  next one of the script. -/
  | ran {manifest : Manifest} {requests : List Request} {m' m'' : Memory}
      (hplaced : d.recipe.Placed d.recipe.staged m requests m')
      (hpreview : d.preview = .ok manifest)
      (hwrite : m'.writeText d.manifestPath manifest.render = (.ok (), m'')) :
      Builds d m s (s.next.toolAnswer d.buildCommand) m''
        ⟨s.pending.tail, s.invocations ++ [⟨d.buildCommand, d.settings.toolOptions⟩]⟩
        (requests ++ [.writeText d.manifestPath manifest.render,
          .run d.buildCommand d.settings.toolOptions])

/-! ### The steps of a build in a rehearsal -/

/-- Placing an entry in a rehearsal concerns the store alone. -/
theorem place_rehearsal (entry : StagedEntry) (path : Path) (r : Rehearsal) :
    place entry path r = r.withMemory (r.memory.place entry path) := by
  cases entry <;> rfl

/-- Staging a list whose first entry has a place is placing that entry and going on. -/
theorem stage_cons (d : Draft) {entry : StagedEntry} {path : Path}
    (htarget : d.recipe.stagingPath? entry.target = some path) (rest : List StagedEntry)
    (m : Memory) (s : Script) (journal : Journal) (requests : List Request) :
    ∃ journal' : Journal,
      d.stage (entry :: rest) (⟨⟨m, s, journal⟩, requests⟩ : Observed Rehearsal) =
        match m.place entry path with
        | (.error cause, m') =>
          (.error (.notWritten path cause),
            ⟨⟨m', s, journal'⟩, requests ++ [entry.request path]⟩)
        | (.ok (), m') => d.stage rest ⟨⟨m', s, journal'⟩, requests ++ [entry.request path]⟩ := by
  refine ⟨journal ++ [.event (d.event .debug "staging file" [("target", path.quoted)])], ?_⟩
  simp only [stage, htarget, place_observed, place_rehearsal, Observed.ask,
    Rehearsal.withMemory, Workspace.record, Rehearsal.note]
  generalize m.place entry path = placed
  obtain ⟨_ | ⟨⟩, m'⟩ := placed <;> rfl

/-- Entries that can be placed are placed before the others are looked at. -/
theorem stage_append {d : Draft} {before : List StagedEntry} {m m' : Memory}
    {placed : List Request} (hplaced : d.recipe.Placed before m placed m')
    (rest : List StagedEntry) (s : Script) (journal : Journal) (requests : List Request) :
    ∃ journal' : Journal,
      d.stage (before ++ rest) (⟨⟨m, s, journal⟩, requests⟩ : Observed Rehearsal) =
        d.stage rest ⟨⟨m', s, journal'⟩, requests ++ placed⟩ := by
  -- by induction on the placement: each entry adds a note and a request for the next ones
  induction hplaced generalizing journal requests with
  | nil m => exact ⟨journal, by simp⟩
  | cons htarget hplace _ ih =>
    obtain ⟨journal₁, hstep⟩ := d.stage_cons htarget (_ ++ rest) _ s journal requests
    rw [hplace] at hstep
    obtain ⟨journal₂, hrest⟩ := ih journal₁ (requests ++ [_])
    refine ⟨journal₂, ?_⟩
    rw [List.cons_append, hstep]
    simpa using hrest

/-- Entries that can all be placed are staged without a failure. -/
theorem stage_eq_ok {d : Draft} {entries : List StagedEntry} {m m' : Memory}
    {placed : List Request} (hplaced : d.recipe.Placed entries m placed m') (s : Script)
    (journal : Journal) (requests : List Request) :
    ∃ journal' : Journal,
      d.stage entries (⟨⟨m, s, journal⟩, requests⟩ : Observed Rehearsal) =
        (.ok (), ⟨⟨m', s, journal'⟩, requests ++ placed⟩) := by
  simpa [stage] using stage_append hplaced [] s journal requests

/-- Writing the manifest in a rehearsal is one request to the store. -/
theorem writeManifest_rehearsal (d : Draft) (content : String) (m : Memory) (s : Script)
    (journal : Journal) (requests : List Request) :
    ∃ journal' : Journal,
      d.writeManifest content (⟨⟨m, s, journal⟩, requests⟩ : Observed Rehearsal) =
        (match (m.writeText d.manifestPath content).1 with
          | .ok () => .ok ()
          | .error cause => .error (.notWritten d.manifestPath cause),
          ⟨⟨(m.writeText d.manifestPath content).2, s, journal'⟩,
            requests ++ [.writeText d.manifestPath content]⟩) := by
  simp only [writeManifest, Observed.ask, Workspace.record, Workspace.writeText,
    Rehearsal.withMemory, Rehearsal.note]
  generalize m.writeText d.manifestPath content = written
  obtain ⟨_ | ⟨⟩, m'⟩ := written <;> exact ⟨_, rfl⟩

/-- A build runs its tool under the options that the settings ask for. -/
theorem buildOptions_eq (d : Draft) : d.buildOptions = d.settings.toolOptions := by
  cases h : d.settings.capturesOutput <;>
    simp [buildOptions, Settings.toolOptions, RunOptions.captured, h]

/-- The build tool runs once, takes the next outcome of the script, and decides the answer. -/
theorem runTool_rehearsal (d : Draft) (m : Memory) (s : Script) (journal : Journal)
    (requests : List Request) :
    ∃ journal' : Journal,
      d.runTool (⟨⟨m, s, journal⟩, requests⟩ : Observed Rehearsal) =
        (s.next.toolAnswer d.buildCommand,
          ⟨⟨m, ⟨s.pending.tail, s.invocations ++ [⟨d.buildCommand, d.settings.toolOptions⟩]⟩,
            journal'⟩, requests ++ [.run d.buildCommand d.settings.toolOptions]⟩) := by
  simp only [runTool, Observed.ask, Workspace.record, Workspace.run, Rehearsal.run,
    Rehearsal.note, Script.run, Script.advance, buildOptions_eq]
  rw [s.next.toolAnswer_eq d.buildCommand (rfl : d.settings.toolOptions.ignoresFailure = false)]
  generalize (s.next.finish d.buildCommand).answer d.settings.toolOptions = answer
  obtain _ | _ := answer <;> exact ⟨_, rfl⟩

/-! ### Every build takes one of the courses -/

/-- A draft with a source image has a manifest, also once it is finalized. -/
theorem preview_of_source {d : Draft} {source : Image} (hsource : d.source? = some source) :
    d.preview = .ok (.ofRecipe d.recipe source) := by
  simp [preview, hsource]

/-- Some course is open to every draft with a source image. -/
theorem exists_builds {d : Draft} {source : Image} (hsource : d.source? = some source)
    (m : Memory) (s : Script) :
    ∃ answer m' s' requests, d.Builds m s answer m' s' requests := by
  have hpreview := preview_of_source hsource
  rcases d.recipe.placed_or_stopped d.recipe.staged m with ⟨requests, m', hplaced⟩ |
    ⟨before, entry, after, requests, m', hstaged, hplaced,
      htarget | ⟨path, cause, m'', htarget, hplace⟩⟩
  · rcases hwrite : m'.writeText d.manifestPath (Manifest.ofRecipe d.recipe source).render with
      ⟨cause | ⟨⟩, m''⟩
    · exact ⟨_, _, _, _, .notWritten hplaced hpreview (congrArg Prod.fst hwrite)⟩
    · exact ⟨_, _, _, _, .ran hplaced hpreview hwrite⟩
  · exact ⟨_, _, _, _, .badTarget hstaged hplaced htarget⟩
  · exact ⟨_, _, _, _, .notPlaced hstaged hplaced htarget hplace⟩

/-- Finalizing a draft closes no course. -/
theorem Builds.finalized {d : Draft} {m m' : Memory} {s s' : Script}
    {answer : Except BuildError Unit} {requests : List Request}
    (hcourse : d.Builds m s answer m' s' requests) :
    Builds { d with state := .finalized } m s answer m' s' requests := by
  -- what a course needs of the draft does not concern its state
  cases hcourse with
  | badTarget hstaged hplaced htarget => exact .badTarget hstaged hplaced htarget
  | notPlaced hstaged hplaced htarget hplace => exact .notPlaced hstaged hplaced htarget hplace
  | notWritten hplaced hpreview hwrite => exact .notWritten hplaced hpreview hwrite
  | ran hplaced hpreview hwrite => exact .ran hplaced hpreview hwrite

/-- Once the manifest is made and all entries are placed, the steps of a build write the manifest
and run the tool. -/
theorem materialize_of_placed {d : Draft} {manifest : Manifest} {m m' : Memory}
    {placed : List Request} (hpreview : d.preview = .ok manifest)
    (hplaced : d.recipe.Placed d.recipe.staged m placed m') (s : Script) (journal : Journal) :
    ∃ journal' : Journal,
      d.materialize (⟨⟨m, s, journal⟩, []⟩ : Observed Rehearsal) =
        match m'.writeText d.manifestPath manifest.render with
        | (.error cause, m'') =>
          (.error (.notWritten d.manifestPath cause),
            ⟨⟨m'', s, journal'⟩, placed ++ [.writeText d.manifestPath manifest.render]⟩)
        | (.ok (), m'') =>
          d.runTool ⟨⟨m'', s, journal'⟩,
            placed ++ [.writeText d.manifestPath manifest.render]⟩ := by
  obtain ⟨journal₁, hstage⟩ := stage_eq_ok hplaced s journal []
  obtain ⟨journal₂, hwritten⟩ := d.writeManifest_rehearsal manifest.render m' s journal₁ placed
  refine ⟨journal₂, ?_⟩
  rw [materialize, hpreview]
  simp only [hstage, List.nil_append, hwritten]
  generalize m'.writeText d.manifestPath _ = written
  obtain ⟨_ | ⟨⟩, m''⟩ := written <;> rfl

/-- The steps of a build go every course that is open to the draft. -/
theorem materialize_of_builds {d : Draft} {source : Image} (hsource : d.source? = some source)
    {m m' : Memory} {s s' : Script} {answer : Except BuildError Unit} {requests : List Request}
    (hcourse : d.Builds m s answer m' s' requests) (journal : Journal) :
    ∃ journal' : Journal,
      d.materialize (⟨⟨m, s, journal⟩, []⟩ : Observed Rehearsal) =
        (answer, ⟨⟨m', s', journal'⟩, requests⟩) := by
  cases hcourse with
  | @badTarget before after entry _ _ hstaged hplaced htarget =>
    obtain ⟨journal₁, hbefore⟩ := stage_append hplaced (entry :: after) s journal []
    refine ⟨journal₁, ?_⟩
    rw [materialize, preview_of_source hsource]
    simp [hstaged, hbefore, stage, htarget]
  | @notPlaced before after entry path cause placed m₁ _ hstaged hplaced htarget hplace =>
    obtain ⟨journal₁, hbefore⟩ := stage_append hplaced (entry :: after) s journal []
    obtain ⟨journal₂, hentry⟩ := d.stage_cons htarget after m₁ s journal₁ ([] ++ placed)
    rw [hplace] at hentry
    refine ⟨journal₂, ?_⟩
    rw [materialize, preview_of_source hsource]
    simp only [hstaged, hbefore.trans hentry, List.nil_append]
  | @notWritten manifest cause placed _ hplaced hpreview hwrite =>
    obtain ⟨journal', hsteps⟩ := materialize_of_placed hpreview hplaced s journal
    -- a refused write leaves the store that the staging left
    have hunchanged := Memory.writeText_error (Prod.ext hwrite rfl)
    have hrefused : m'.writeText d.manifestPath _ = (.error cause, m') :=
      Prod.ext hwrite hunchanged
    rw [hrefused] at hsteps
    exact ⟨journal', hsteps⟩
  | @ran manifest placed m₁ _ hplaced hpreview hwrite =>
    obtain ⟨journal₁, hsteps⟩ := materialize_of_placed hpreview hplaced s journal
    rw [hwrite] at hsteps
    obtain ⟨journal₂, htool⟩ := d.runTool_rehearsal m' s journal₁
      (placed ++ [.writeText d.manifestPath manifest.render])
    refine ⟨journal₂, hsteps.trans (htool.trans ?_)⟩
    simp

/-- An observed build goes every course that is open to it. -/
theorem build_observed_of_builds {d : Draft} {source : Image} (hphase : d.phase = .sourced source)
    {r : Rehearsal} {answer : Except BuildError Unit} {m' : Memory} {s' : Script}
    {requests : List Request} (hcourse : d.Builds r.memory r.script answer m' s' requests) :
    ∃ journal' : Journal, d.build (Observed.of r) =
      (answer, { d with state := .finalized }, ⟨⟨m', s', journal'⟩, requests⟩) := by
  obtain ⟨hstate, hsource⟩ := phase_eq_sourced_iff.1 hphase
  -- the steps are those of the draft that has been finalized
  obtain ⟨journal', hsteps⟩ := materialize_of_builds (d := { d with state := .finalized })
    hsource hcourse.finalized r.journal
  exact ⟨journal', by simp only [build, hstate, Observed.of, hsteps]⟩

/-- A build goes every course that is open to it. -/
theorem build_of_builds {d : Draft} {source : Image} (hphase : d.phase = .sourced source)
    {r : Rehearsal} {answer : Except BuildError Unit} {m' : Memory} {s' : Script}
    {requests : List Request} (hcourse : d.Builds r.memory r.script answer m' s' requests) :
    ∃ journal' : Journal,
      d.build r = (answer, { d with state := .finalized }, ⟨m', s', journal'⟩) ∧
        d.buildRequests r = requests := by
  obtain ⟨journal', hbuild⟩ := build_observed_of_builds hphase hcourse
  have hplain := d.build_observed (Observed.of r)
  rw [hbuild] at hplain
  exact ⟨journal', hplain.symm, by rw [buildRequests, hbuild]⟩

/-- A draft that is in the second state without a source image is finalized by a build, which then
finds no manifest to write and asks nothing of the workspace. -/
theorem build_of_source_none {ω : Type} [Workspace ω] {d : Draft} (hstate : d.state = .sourceSet)
    (hsource : d.source? = none) (w : ω) :
    d.build w = (.error .noSource, { d with state := .finalized }, w) := by
  simp only [build, hstate, materialize, preview, hsource]

/-- A draft has a source image and is in the state to be built, or every build of it is refused alike
and leaves the rehearsal as it is. -/
theorem sourced_or_refused (d : Draft) :
    (∃ source, d.phase = .sourced source) ∨
      ∃ (error : BuildError) (d' : Draft), error.kind = .invalidState ∧
        ∀ r : Rehearsal, d.build r = (.error error, d', r) := by
  cases hstate : d.state with
  | created => exact .inr ⟨.noSource, d, rfl, fun r => by rw [build, hstate]⟩
  | finalized => exact .inr ⟨.alreadyBuilt d.image.name, d, rfl, fun r => by rw [build, hstate]⟩
  | sourceSet =>
    cases hsource : d.source? with
    | none => exact .inr ⟨.noSource, _, rfl, build_of_source_none hstate hsource⟩
    | some source => exact .inl ⟨source, phase_eq_sourced_iff.2 ⟨hstate, hsource⟩⟩

/-- A build is refused and leaves the rehearsal as it is, or the draft has a source image and the
build goes one of the courses. -/
theorem build_cases (d : Draft) (r : Rehearsal) :
    (∃ (error : BuildError) (d' : Draft), error.kind = .invalidState ∧
        d.build r = (.error error, d', r)) ∨
      ∃ source answer m' s' requests, d.phase = .sourced source ∧
        d.Builds r.memory r.script answer m' s' requests ∧ (d.build r).1 = answer ∧
          (d.build r).2.2.memory = m' ∧ (d.build r).2.2.script = s' := by
  rcases d.sourced_or_refused with ⟨source, hphase⟩ | ⟨error, d', hkind, hrefused⟩
  · right
    obtain ⟨-, hsource⟩ := phase_eq_sourced_iff.1 hphase
    obtain ⟨answer, m', s', requests, hcourse⟩ := exists_builds hsource r.memory r.script
    obtain ⟨journal', hbuild, -⟩ := build_of_builds hphase hcourse
    exact ⟨source, answer, m', s', requests, hphase, hcourse, by rw [hbuild], by rw [hbuild],
      by rw [hbuild]⟩
  · exact .inl ⟨error, d', hkind, hrefused r⟩

/-- A build of a draft that has a source image finalizes the draft and goes the one course that is
open to it. Its answer, the store, the script and the requests are those of that course: what comes
after the first failure is not attempted. -/
theorem build_course (d : Draft) (source : Image) (hphase : d.phase = .sourced source)
    (r : Rehearsal) :
    (d.build r).2.1 = { d with state := .finalized } ∧
      ∀ (answer : Except BuildError Unit) (m' : Memory) (s' : Script) (requests : List Request),
        d.Builds r.memory r.script answer m' s' requests ↔
          (d.build r).1 = answer ∧ (d.build r).2.2.memory = m' ∧ (d.build r).2.2.script = s' ∧
            d.buildRequests r = requests := by
  obtain ⟨-, hsource⟩ := phase_eq_sourced_iff.1 hphase
  -- some course is open, and the build goes every open one, so no other one is
  obtain ⟨answer₀, m₀, s₀, requests₀, hcourse₀⟩ := exists_builds hsource r.memory r.script
  obtain ⟨journal₀, hbuild₀, hrequests₀⟩ := build_of_builds hphase hcourse₀
  refine ⟨by rw [hbuild₀], fun answer m' s' requests => ⟨fun hcourse => ?_, ?_⟩⟩
  · obtain ⟨journal', hbuild, hrequests⟩ := build_of_builds hphase hcourse
    exact ⟨by rw [hbuild], by rw [hbuild], by rw [hbuild], hrequests⟩
  · rintro ⟨rfl, rfl, rfl, rfl⟩
    rw [hbuild₀, hrequests₀]
    exact hcourse₀

/-- A draft that stages a document and then an entry that goes up. -/
def escaping : Draft where
  image := ⟨.built, "app", "linux"⟩
  recipe :=
    { name := "app", os := "linux", basePath := ⟨[0x2F, 0x63]⟩
      staged := [.document ⟨[0x61]⟩ .null, .file ⟨[0x2F, 0x68]⟩ ⟨Path.dots⟩] }
  source? := some ⟨.imported, "base", "linux"⟩
  state := .sourceSet
  settings := {}

/-- The document is written, the entry that goes up ends the build, and nothing else is asked. -/
theorem build_course_escaping :
    escaping.phase = .sourced ⟨.imported, "base", "linux"⟩ ∧
      (escaping.build ({} : Rehearsal)).1 = .error (.badTarget ⟨Path.dots⟩) ∧
        escaping.buildRequests ({} : Rehearsal) =
          [.writeText ⟨[0x2F, 0x63, 0x2F, 0x61]⟩ Json.null.pretty] := by
  obtain ⟨m', hplaced⟩ : ∃ m', escaping.recipe.Placed [.document ⟨[0x61]⟩ .null] {}
      [.writeText ⟨[0x2F, 0x63, 0x2F, 0x61]⟩ Json.null.pretty] m' :=
    ⟨_, .cons rfl rfl (.nil _)⟩
  have hstaged : escaping.recipe.staged =
      [.document ⟨[0x61]⟩ .null] ++ .file ⟨[0x2F, 0x68]⟩ ⟨Path.dots⟩ :: [] := rfl
  have hcourse := Builds.badTarget (d := escaping) (s := {}) hstaged hplaced rfl
  obtain ⟨hanswer, -, -, hrequests⟩ := ((build_course escaping _ rfl {}).2 _ _ _ _).1 hcourse
  exact ⟨rfl, hanswer, hrequests⟩

end Draft

end ContainerBuild
