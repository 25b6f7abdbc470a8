import ContainerBuild.Proofs.Application.DryRun

/-!
# The manifest of a command line

A command line has a manifest of one stage: the image that it is built on, and an instruction for
each installer. The built-in installers build in the main stage, so nothing runs on the image that
is selected for installers, and no report tells that it was.

* `ofDraft_draftOf` — the image for installers is not reported.
* `render_eq_shown` — what is shown of a command line decides how showing it ends.
* `manifest_of_arguments` — the manifest, its reports, and when there is none.
-/

namespace ContainerBuild

/-- The only built-in installer is that of Node. -/
theorem Installer.eq_node_of_named? {word : String} {i : Installer} (h : named? word = some i) :
    i = node := by
  simp only [named?] at h
  split at h
  · exact (Option.some.inj h).symm
  · cases h

namespace Application

/-! ### Reports -/

/-- What a format shows of the image that a command line describes. -/
def shown (s : Settings) (a : ImageArguments) (format : Format) :
    Except BuildError (Except ReportFault String) :=
  (describe s a >>= Report.ofDraft).map fun report => report.format format

/-- The manifest of a command line. -/
def manifestOf (a : ImageArguments) : Manifest :=
  ⟨[{ source := a.source, instructions := a.installers.map Installer.instruction }]⟩

/-- The report on a command line, which has nothing of the image for installers. -/
def reportOf (s : Settings) (a : ImageArguments) : Report where
  image := ⟨.built, a.name, a.os⟩
  source := ⟨.imported, a.source, a.os⟩
  manifestPath := (draftOf s a).manifestPath
  buildCommand := (draftOf s a).buildCommand.display
  manifest := manifestOf a
  content := (manifestOf a).render

/-- The report on the draft of a command line is that on the command line: installers are queued in
the main stage, so the manifest has no other and the image for installers is not looked at. -/
theorem ofDraft_draftOf (s : Settings) (a : ImageArguments) :
    Report.ofDraft (draftOf s a) = .ok (reportOf s a) := by
  have hmanifest : Manifest.ofRecipe (draftOf s a).recipe ⟨.imported, a.source, a.os⟩ =
      manifestOf a := by
    simp [Manifest.ofRecipe, draftOf, described, Recipe.create, manifestOf]
  have hreport : Report.ofDraft (draftOf s a) = .ok ⟨(draftOf s a).image,
      ⟨.imported, a.source, a.os⟩, (draftOf s a).manifestPath,
      (draftOf s a).buildCommand.display,
      Manifest.ofRecipe (draftOf s a).recipe ⟨.imported, a.source, a.os⟩,
      (Manifest.ofRecipe (draftOf s a).recipe ⟨.imported, a.source, a.os⟩).render⟩ := rfl
  rw [hreport, hmanifest]
  rfl

theorem shown_of_isWellFormed (s : Settings) {a : ImageArguments} (h : a.IsWellFormed)
    (format : Format) : shown s a format = .ok ((reportOf s a).format format) := by
  simp only [shown, describe_of_isWellFormed s h, bind, Except.bind, ofDraft_draftOf, Except.map]

/-- The built-in installers all put the same instruction. -/
theorem instructions_eq_replicate {installers : List Installer}
    (h : ∀ i ∈ installers, ∃ word, Installer.named? word = some i) :
    installers.map Installer.instruction =
      List.replicate installers.length "RUN node C:/dockloader/nodejs/install.js" := by
  rw [List.eq_replicate_iff]
  refine ⟨List.length_map _, fun line hline => ?_⟩
  obtain ⟨i, hi, rfl⟩ := List.mem_map.1 hline
  obtain ⟨word, hword⟩ := h i hi
  rw [Installer.eq_node_of_named? hword]
  decide

variable {ω : Type} [Workspace ω]

/-- The manifest of a command line is shown by way of what its format shows. -/
theorem render_eq_shown (e : Environment) (a : ImageArguments) (format : Format) (w : ω) :
    render e a format w =
      match (settingsFor e a none).validate with
      | .error fault => fail "" [fault.message] w
      | .ok () =>
        match shown (settingsFor e a none) a format with
        | .error error => fail "Render failed: " error.chain w
        | .ok (.error fault) => fail "Render failed: " fault.chain w
        | .ok (.ok text) => succeed text w := by
  simp only [render, shown]
  cases (settingsFor e a none).validate with
  | error fault => rfl
  | ok valid =>
    -- the image is described in the same way, and then what matters is whether there is a report
    generalize describe (settingsFor e a none) a >>= Report.ofDraft = reported
    cases reported with
    | error error => rfl
    | ok report =>
      simp only [Except.map]
      cases report.format format <;> rfl

/-- With installers that are built in, and names and a platform that are accepted, a command line
describes a manifest of one stage: the image that it is built on and, for each installer, the line
that runs it. Whichever image is selected for installers, every format shows the same as without
one, be it a text or an error, and so does the program. With a name or a platform that is not
accepted there is no manifest: the description is refused as an argument that is not acceptable. -/
theorem manifest_of_arguments (s : Settings) (a : ImageArguments)
    (hinstallers : ∀ i ∈ a.installers, ∃ word, Installer.named? word = some i) :
    (a.IsWellFormed →
      (∃ d report, describe s a = .ok d ∧ Report.ofDraft d = .ok report ∧
        d.preview = .ok report.manifest ∧ report.manifest.hasInstallersStage = false ∧
        report.manifest.lines = ("FROM " ++ a.source) ::
          List.replicate a.installers.length "RUN node C:/dockloader/nodejs/install.js" ∧
        report.content = Text.joinLines report.manifest.lines) ∧
      ∀ name, checkName name = .ok () →
        let selecting := { a with installersImage := some name }
        let plain := { a with installersImage := none }
        (∀ format, ∃ result, shown s selecting format = .ok result ∧
          shown s plain format = .ok result) ∧
        ∀ e format (w : ω), render e selecting format w = render e plain format w) ∧
    (¬a.IsWellFormed → ∃ error, describe s a = .error error ∧ error.kind = .invalidArgument ∧
      ∀ format, shown s a format = .error error) := by
  constructor
  · intro hformed
    refine ⟨⟨draftOf s a, reportOf s a, describe_of_isWellFormed s hformed, ofDraft_draftOf s a,
      (ofDraft_eq_ok (ofDraft_draftOf s a)).1, rfl, ?_, rfl⟩, ?_⟩
    · rw [← instructions_eq_replicate hinstallers]
      simp [reportOf, manifestOf, Manifest.lines, Stage.header]
    · intro name hname selecting plain
      have hselecting : selecting.IsWellFormed :=
        ⟨hformed.name, hformed.os, hformed.source, fun _ h => by cases h; exact hname⟩
      have hplain : plain.IsWellFormed :=
        ⟨hformed.name, hformed.os, hformed.source, fun _ h => by cases h⟩
      -- the two command lines have the same report, under whatever settings
      have hsame (s : Settings) (format : Format) :
          shown s selecting format = shown s plain format := by
        rw [shown_of_isWellFormed s hselecting, shown_of_isWellFormed s hplain]
        rfl
      refine ⟨fun format => ⟨_, shown_of_isWellFormed s hselecting format, ?_⟩, ?_⟩
      · rw [← hsame, shown_of_isWellFormed s hselecting]
      · intro e format w
        have hsettings : settingsFor e selecting none = settingsFor e plain none := rfl
        rw [render_eq_shown, render_eq_shown, hsettings, hsame]
  · intro hnot
    obtain ⟨fault, hrefused⟩ := describe_of_not_isWellFormed s hnot
    refine ⟨.badName fault, hrefused, rfl, fun format => ?_⟩
    simp only [shown, hrefused, bind, Except.bind, Except.map]

/-- A command line with two installers, and an image for them. -/
def twoInstallers : ImageArguments where
  name := "app"
  os := "windows"
  source := "servercore"
  installers := [.node, .node]
  installersImage := some "tools:1"
  contextsRoot := none

/-- Below a contexts root that is no text, the manifest of two installers is shown as it is, and
JSON cannot hold its path, in both cases with and without the image for installers. A blank name is
refused. -/
theorem manifest_of_arguments_notText :
    let s : Settings := { contextsRoot := ⟨[0x72, 0xFF]⟩ }
    let plain := { twoInstallers with installersImage := none }
    twoInstallers.IsWellFormed ∧
    (∃ report, Report.ofDraft (draftOf s twoInstallers) = .ok report ∧
      report.content = "FROM servercore\nRUN node C:/dockloader/nodejs/install.js\n" ++
        "RUN node C:/dockloader/nodejs/install.js") ∧
    shown s plain .json = .ok (.error ⟨.image, "JSON"⟩) ∧
    shown s twoInstallers .json = shown s plain .json ∧
    ∃ error, describe s { twoInstallers with name := " " } = .error error ∧
      error.kind = .invalidArgument := by
  intro s plain
  have hinstallers : ∀ i ∈ twoInstallers.installers, ∃ word, Installer.named? word = some i := by
    intro i hi
    have hnode : i = .node := by simpa [twoInstallers] using hi
    exact ⟨"NodeJS", by rw [hnode]; decide⟩
  have hformed : twoInstallers.IsWellFormed :=
    ⟨rfl, rfl, rfl, fun _ h => by cases h; rfl⟩
  have hblank : ¬({ twoInstallers with name := " " } : ImageArguments).IsWellFormed := by
    intro h
    have hrefused : checkName " " = .error (.malformedName " ") := rfl
    exact absurd (hrefused.symm.trans h.name) (by simp)
  obtain ⟨⟨d, report, hdescribe, hreport, -, -, hlines, hcontent⟩, hselecting⟩ :=
    (manifest_of_arguments (ω := Rehearsal) s twoInstallers hinstallers).1 hformed
  obtain ⟨error, hrefused, hkind, -⟩ :=
    (manifest_of_arguments (ω := Rehearsal) s { twoInstallers with name := " " } hinstallers).2
      hblank
  have hjson : shown s plain .json = .ok (.error ⟨.image, "JSON"⟩) := by
    have hplain : plain.IsWellFormed :=
      ⟨hformed.name, hformed.os, hformed.source, fun _ h => by cases h⟩
    have hpath : (reportOf s plain).manifestPath.text? = none := by decide +kernel
    rw [shown_of_isWellFormed s hplain]
    simp [Report.format, Report.fields?, hpath, serialize]
  obtain ⟨result, hshown, hplain⟩ := (hselecting "tools:1" rfl).1 .json
  refine ⟨hformed, ⟨report, ?_, ?_⟩, hjson, ?_, error, hrefused, hkind⟩
  · rw [describe_of_isWellFormed s hformed] at hdescribe
    cases hdescribe
    exact hreport
  · rw [hcontent, hlines]
    decide
  · exact hshown.trans hplain.symm

end Application

end ContainerBuild
