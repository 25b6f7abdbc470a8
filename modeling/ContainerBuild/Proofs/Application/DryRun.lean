import ContainerBuild.Proofs.Application.Describe
import ContainerBuild.Proofs.Draft.Course

/-!
# Showing a manifest rehearses its build

The two commands that take the description of an image read their settings and describe the image
each on its own. They agree: the manifest is shown exactly when a build would try to write it, and
what is shown is what the build writes, where it writes it, and what it runs.

* `build_observed` — observing a build for a command line changes nothing else.
* `render_rehearses_build` — showing the manifest is a faithful dry run of building the image.
-/

namespace ContainerBuild.Application

variable {ω : Type} [Workspace ω]

/-- Observing a build for a command line changes neither the reply nor the workspace. -/
theorem build_observed (e : Environment) (a : ImageArguments) (buildTool : Option String)
    (o : Observed ω) :
    Observed.forget (build e a buildTool o) = build e a buildTool o.world := by
  simp only [build]
  cases (settingsFor e a buildTool).validate with
  | error fault => rfl
  | ok valid =>
    cases describe (settingsFor e a buildTool) a with
    | error error => rfl
    | ok d =>
      dsimp only
      rw [← Draft.build_observed d o]
      generalize d.build o = built
      obtain ⟨_ | ⟨⟩, d', o'⟩ := built <;> rfl

/-! ### Command lines that are not accepted -/

/-- Without a draft, no manifest is shown. -/
theorem render_of_none {e : Environment} {a : ImageArguments} (h : draft? e a none = none)
    (format : Format) (w : ω) : (render e a format w).1.code = 1 := by
  rcases draft?_eq_none h with ⟨fault, hinvalid⟩ | ⟨hvalid, error, hdescribe⟩
  · simp only [render, hinvalid]
    rfl
  · simp only [render, hvalid, hdescribe]
    rfl

/-- Without a draft, a build reports why and does nothing else. -/
theorem build_of_none {e : Environment} {a : ImageArguments} {buildTool : Option String}
    (h : draft? e a buildTool = none) (w : ω) :
    ∃ event, build e a buildTool w = ({ code := 1 }, Workspace.record event w) := by
  rcases draft?_eq_none h with ⟨fault, hinvalid⟩ | ⟨hvalid, error, hdescribe⟩
  · exact ⟨failure "" [fault.message], by simp only [build, hinvalid]; rfl⟩
  · exact ⟨failure "Build failed: " error.chain, by simp only [build, hvalid, hdescribe]; rfl⟩

/-! ### Command lines that are accepted -/

/-- With a draft, its manifest is shown as it is. -/
theorem render_of_draft {e : Environment} {a : ImageArguments} {d : Draft}
    (h : draft? e a none = some d) (w : ω) :
    ∃ report, Report.ofDraft d = .ok report ∧
      render e a .dockerfile w = ({ code := 0, stdout := report.content ++ "\n" }, w) := by
  obtain ⟨hvalid, hdescribe⟩ := draft?_eq_some h
  obtain ⟨source, hphase, -⟩ := sourced_of_draft? h
  obtain ⟨-, hsource⟩ := Draft.phase_eq_sourced_iff.1 hphase
  refine ⟨_, by rw [Report.ofDraft, hsource], ?_⟩
  simp only [render, hvalid, hdescribe, bind, Except.bind, Report.ofDraft, hsource]
  rfl

/-- With a draft, a build builds it and reports how that went. -/
theorem build_of_draft {e : Environment} {a : ImageArguments} {buildTool : Option String}
    {d : Draft} (h : draft? e a buildTool = some d) (w : ω) :
    ∃ event, build e a buildTool w =
      ({ code := if (d.build w).1.toBool then 0 else 1 },
        Workspace.record event (d.build w).2.2) := by
  obtain ⟨hvalid, hdescribe⟩ := draft?_eq_some h
  simp only [build, hvalid, hdescribe]
  generalize d.build w = built
  obtain ⟨error | ⟨⟩, d', w'⟩ := built
  · exact ⟨failure "Build failed: " error.chain, rfl⟩
  · exact ⟨_, rfl⟩

/-! ### The dry run -/

/-- A report tells the manifest that a draft shows, its text, its place and the command. -/
theorem ofDraft_eq_ok {d : Draft} {report : Report} (h : Report.ofDraft d = .ok report) :
    d.preview = .ok report.manifest ∧ report.content = report.manifest.render ∧
      report.manifestPath = d.manifestPath ∧ report.buildCommand = d.buildCommand.display := by
  simp only [Report.ofDraft] at h
  split at h
  · cases h
  next source hsource =>
    cases h
    exact ⟨by rw [Draft.preview, hsource], rfl, rfl, rfl⟩

/-- A build with nothing staged goes one of two ways: the manifest cannot be written and that is
all, or it is written and the tool runs. -/
theorem builds_of_unstaged {d : Draft} {manifest : Manifest} (hstaged : d.recipe.staged = [])
    (hpreview : d.preview = .ok manifest) (m : Memory) (s : Script) :
    (∀ cause, (m.writeText d.manifestPath manifest.render).1 = .error cause →
      d.Builds m s (.error (.notWritten d.manifestPath cause)) m s
        [.writeText d.manifestPath manifest.render]) ∧
    ((m.writeText d.manifestPath manifest.render).1 = .ok () →
      d.Builds m s (s.next.toolAnswer d.buildCommand)
        (m.writeText d.manifestPath manifest.render).2
        ⟨s.pending.tail, s.invocations ++ [⟨d.buildCommand, d.settings.toolOptions⟩]⟩
        [.writeText d.manifestPath manifest.render,
          .run d.buildCommand d.settings.toolOptions]) := by
  have hplaced : d.recipe.Placed d.recipe.staged m [] m := by
    rw [hstaged]
    exact .nil m
  exact ⟨fun cause hwrite => .notWritten hplaced hpreview hwrite,
    fun hwrite => .ran hplaced hpreview (Prod.ext hwrite rfl)⟩

/-- Showing a manifest as it is and building its image go together. The manifest is shown, with exit
code zero, exactly when a build would try to write it; then the text that is shown is the one that
the build writes, to the path that the report tells, and if that succeeds the one command that runs
is the one that the report tells. Otherwise the build fails too, and neither writes nor runs
anything. -/
theorem render_rehearses_build (e : Environment) (a : ImageArguments) (w : ω) (r : Rehearsal) :
    let shown := (render e a .dockerfile w).1
    let built := build e a none (Observed.of r)
    Observed.forget built = build e a none r ∧
    (shown.code = 0 ∨ shown.code = 1) ∧
    (shown.code = 0 ↔ ∃ p content, Request.writeText p content ∈ built.2.requests) ∧
    (shown.code = 0 → ∃ d report,
      describe (settingsFor e a none) a = .ok d ∧ Report.ofDraft d = .ok report ∧
      shown.stdout = report.content ++ "\n" ∧ report.buildCommand = d.buildCommand.display ∧
      (∀ cause, (r.memory.writeText report.manifestPath report.content).1 = .error cause →
        built.1.code = 1 ∧ built.2.requests = [.writeText report.manifestPath report.content] ∧
          built.2.world.memory = r.memory ∧ built.2.world.script = r.script) ∧
      ((r.memory.writeText report.manifestPath report.content).1 = .ok () →
        built.2.requests = [.writeText report.manifestPath report.content,
          .run d.buildCommand d.settings.toolOptions] ∧
        built.2.world.memory = (r.memory.writeText report.manifestPath report.content).2 ∧
        built.2.world.script.invocations =
          r.script.invocations ++ [⟨d.buildCommand, d.settings.toolOptions⟩])) ∧
    (shown.code = 1 → built.1.code = 1 ∧ built.2.requests = [] ∧
      built.2.world.memory = r.memory ∧ built.2.world.script = r.script) := by
  intro shown built
  refine ⟨build_observed e a none (Observed.of r), ?_⟩
  cases hdraft : draft? e a none with
  | none =>
    have hshown : shown.code = 1 := render_of_none hdraft .dockerfile w
    obtain ⟨event, hbuild⟩ := build_of_none hdraft (Observed.of r)
    have hbuilt : built = ({ code := 1 }, Workspace.record event (Observed.of r)) := hbuild
    rw [hshown, hbuilt]
    exact ⟨.inr rfl, by simp [Observed.of], fun h => absurd h (by decide),
      fun _ => ⟨rfl, rfl, rfl, rfl⟩⟩
  | some d =>
    obtain ⟨report, hreport, hrender⟩ := render_of_draft hdraft w
    have hshown : shown = { code := 0, stdout := report.content ++ "\n" } :=
      congrArg Prod.fst hrender
    obtain ⟨source, hphase, hstaged⟩ := sourced_of_draft? hdraft
    obtain ⟨hpreview, hcontent, hpath, hcommand⟩ := ofDraft_eq_ok hreport
    obtain ⟨hrefused, hran⟩ := builds_of_unstaged hstaged hpreview r.memory r.script
    -- both courses of the build, told with the text and the path of the report
    rw [← hpath, ← hcontent] at hrefused hran
    obtain ⟨event, hbuild⟩ := build_of_draft hdraft (Observed.of r)
    have hbuilt : built = ({ code := if (d.build (Observed.of r)).1.toBool then 0 else 1 },
        Workspace.record event (d.build (Observed.of r)).2.2) := hbuild
    rw [hshown]
    refine ⟨.inl rfl, ⟨fun _ => ⟨report.manifestPath, report.content, ?_⟩, fun _ => rfl⟩,
      fun _ => ⟨d, report, (draft?_eq_some hdraft).2, hreport, rfl, hcommand,
        fun cause hwrite => ?_, fun hwrite => ?_⟩,
      fun h => absurd h (by simp)⟩
    · -- the write is tried first, whatever comes of it
      cases hwrite : (r.memory.writeText report.manifestPath report.content).1 with
      | error cause =>
        obtain ⟨journal', hcourse⟩ :=
          Draft.build_observed_of_builds hphase (hrefused cause hwrite)
        rw [hbuilt, hcourse]
        simp
      | ok written =>
        obtain ⟨journal', hcourse⟩ := Draft.build_observed_of_builds hphase (hran hwrite)
        rw [hbuilt, hcourse]
        simp
    · -- a write that fails ends the build
      obtain ⟨journal', hcourse⟩ := Draft.build_observed_of_builds hphase (hrefused cause hwrite)
      rw [hbuilt, hcourse]
      exact ⟨rfl, rfl, rfl, rfl⟩
    · -- after a write that succeeds the tool runs, whatever comes of it
      obtain ⟨journal', hcourse⟩ := Draft.build_observed_of_builds hphase (hran hwrite)
      rw [hbuilt, hcourse]
      exact ⟨rfl, rfl, rfl⟩

end ContainerBuild.Application
