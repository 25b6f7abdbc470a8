import ContainerBuild.Proofs.Application.Manifest
import ContainerBuild.Proofs.Draft.Confinement
import ContainerBuild.Proofs.Draft.Session
import ContainerBuild.Proofs.Image.Name
import ContainerBuild.Proofs.Store.Invariants

/-!
# The exit code of a build

A build for a command line ends with exit code zero exactly if the build tool ran and ended so. It
runs at most once, and it runs unless the settings cannot be used, a name or the platform is
refused, or the manifest cannot be written. In these cases nothing is stored. Otherwise the manifest
that the command line describes is there, whatever the tool does.

* `Unacceptable e a buildTool` — why a command line is refused before anything is written.
* `draft?_eq_none_iff` — a command line describes a draft unless it is refused.
* `build_of_stopped`, `build_of_written` — the two ways a build can go.
* `exitCode_of_build` — the exit code, the runs and the files of a build.
* `build_relativeRootLost` — a manifest that is not where it belongs, below a relative root.
-/

namespace ContainerBuild

namespace Application

/-! ### Command lines that are refused -/

/-- Why a command line is refused before anything is written. -/
inductive Unacceptable (e : Environment) (a : ImageArguments) (buildTool : Option String) : Prop
  /-- The settings cannot be used. -/
  | settings {fault : SettingsFault} (h : (settingsFor e a buildTool).validate = .error fault)
  /-- The name of the image is not well formed. -/
  | name {fault : NameFault} (h : checkName a.name = .error fault)
  /-- The platform is not well formed. -/
  | os {fault : NameFault} (h : checkOs a.os = .error fault)
  /-- The name of the image that it is built on is not well formed. -/
  | source {fault : NameFault} (h : checkName a.source = .error fault)
  /-- The name of the image for installers is not well formed. -/
  | installersImage {name : String} {fault : NameFault} (hname : a.installersImage = some name)
    (h : checkName name = .error fault)

variable {e : Environment} {a : ImageArguments} {buildTool : Option String}

/-- A command line is refused exactly if it does not describe a draft. -/
theorem draft?_eq_none_iff : draft? e a buildTool = none ↔ Unacceptable e a buildTool := by
  constructor
  · intro h
    by_contra hacceptable
    obtain ⟨fault, hinvalid⟩ | ⟨-, error, hdescribe⟩ := draft?_eq_none h
    · exact hacceptable (.settings hinvalid)
    -- a check that had failed would be a reason to refuse
    have haccepted {check : Except NameFault Unit}
        (hreason : ∀ {fault}, check = .error fault → Unacceptable e a buildTool) :
        check = .ok () := by
      cases hcheck : check with
      | ok accepted => rfl
      | error fault => exact absurd (hreason hcheck) hacceptable
    have hformed : a.IsWellFormed := ⟨haccepted .name, haccepted .os, haccepted .source,
      fun _ hname => haccepted (.installersImage hname)⟩
    rw [describe_of_isWellFormed _ hformed] at hdescribe
    cases hdescribe
  · intro h
    by_contra hsome
    obtain ⟨d, hdraft⟩ := Option.ne_none_iff_exists'.1 hsome
    obtain ⟨hformed, -⟩ := described_of_draft? hdraft
    cases h with
    | settings h => rw [(draft?_eq_some hdraft).1] at h; cases h
    | name h => rw [hformed.name] at h; cases h
    | os h => rw [hformed.os] at h; cases h
    | source h => rw [hformed.source] at h; cases h
    | installersImage hname h => rw [hformed.installersImage _ hname] at h; cases h

/-! ### The manifest of a command line -/

/-- The text of the manifest that a command line describes. -/
def manifestText (a : ImageArguments) : String :=
  Text.joinLines (("FROM " ++ a.source) :: a.installers.map Installer.instruction)

/-- The draft of a command line shows its manifest. -/
theorem preview_of_draft? {d : Draft} (h : draft? e a buildTool = some d) :
    ∃ manifest, d.preview = .ok manifest ∧ manifest.render = manifestText a := by
  obtain ⟨-, rfl⟩ := described_of_draft? h
  refine ⟨manifestOf a, (ofDraft_eq_ok (ofDraft_draftOf _ a)).1, ?_⟩
  simp [manifestOf, Manifest.render, Manifest.lines, Stage.header, manifestText]

/-- The contexts root of a command line: its own, else that of the environment, else the built-in
one. -/
def contextsRoot (e : Environment) (a : ImageArguments) : Path :=
  (a.contextsRoot.or ((e.text? "IMAGESCRIPT_CONTEXTS_ROOT").map Path.ofString)).getD
    (.ofString ".dockercontexts")

/-- Where the manifest of a command line belongs. -/
def manifestPathFor (e : Environment) (a : ImageArguments) : Path :=
  ((contextsRoot e a).join (.ofString a.name)).join
    (.ofString ((e.text? "IMAGESCRIPT_MANIFEST_NAME").getD "Dockerfile"))

theorem contextsRoot_settingsFor (e : Environment) (a : ImageArguments)
    (buildTool : Option String) :
    (settingsFor e a buildTool).contextsRoot = contextsRoot e a := by
  show a.contextsRoot.getD _ = (a.contextsRoot.or _).getD _
  cases a.contextsRoot <;> rfl

/-- The draft of a command line has its manifest where it belongs. -/
theorem manifestPath_of_draft? {d : Draft} (h : draft? e a buildTool = some d) :
    d.manifestPath = manifestPathFor e a := by
  obtain ⟨-, rfl⟩ := described_of_draft? h
  rw [manifestPathFor, ← contextsRoot_settingsFor e a buildTool]
  rfl

/-- The manifest of an accepted command line settles if the contexts root does. -/
theorem settles_manifestPathFor {d : Draft} (h : draft? e a buildTool = some d) {m : Memory}
    (hroot : m.Settles (contextsRoot e a)) : m.Settles (manifestPathFor e a) := by
  obtain ⟨hformed, -⟩ := described_of_draft? h
  obtain ⟨segments, hname⟩ := (checkName_eq_ok_iff a.name).1 hformed.name
  -- a name is relative, and so is the manifest's name in settings that can be used
  have hmanifest : (settingsFor e a buildTool).manifestName =
      (e.text? "IMAGESCRIPT_MANIFEST_NAME").getD "Dockerfile" := rfl
  have hrelative := Settings.isAbsolute_manifestName (draft?_eq_some h).1
  rw [hmanifest] at hrelative
  exact Memory.Settles.join (hroot.join hname.lead_ofString.1) hrelative

/-! ### The exit code -/

/-- The next run of a script succeeds if nothing is scripted, or exit code zero. -/
theorem next_eq_succeeds_iff (s : Script) :
    (∃ stdout stderr, s.next = .exits 0 stdout stderr) ↔
      s.pending = [] ∨ ∃ stdout stderr rest, s.pending = .exits 0 stdout stderr :: rest := by
  unfold Script.next
  cases s.pending with
  | nil => simp [Scripted.succeeds]
  | cons outcome rest => simp

/-- The command that an accepted command line runs. -/
def commandFor (e : Environment) (a : ImageArguments) (buildTool : Option String) : Command where
  program := (buildTool.or (e.text? "IMAGESCRIPT_BUILD_TOOL")).getD "docker"
  args := ["build", "-t", a.name, ((contextsRoot e a).join (.ofString a.name)).display]

/-- The draft of a command line is built by its command. -/
theorem buildCommand_of_draft? {d : Draft} (h : draft? e a buildTool = some d) :
    d.buildCommand = commandFor e a buildTool := by
  obtain ⟨-, rfl⟩ := described_of_draft? h
  have htool : (settingsFor e a buildTool).buildTool =
      (buildTool.or (e.text? "IMAGESCRIPT_BUILD_TOOL")).getD "docker" := by
    show buildTool.getD _ = _
    cases buildTool <;> rfl
  rw [commandFor, ← htool, ← contextsRoot_settingsFor e a buildTool]
  rfl

/-- If the command line is refused or its manifest cannot be written, a build ends with exit code
one, and neither stores nor runs anything. -/
theorem build_of_stopped {r : Rehearsal} (h : Unacceptable e a buildTool ∨ ∃ cause,
    (r.memory.writeText (manifestPathFor e a) (manifestText a)).1 = .error cause) :
    (build e a buildTool r).1.code = 1 ∧ (build e a buildTool r).2.memory = r.memory ∧
      (build e a buildTool r).2.script = r.script := by
  cases hdraft : draft? e a buildTool with
  | none =>
    obtain ⟨event, hbuild⟩ := build_of_none hdraft r
    rw [hbuild]
    exact ⟨rfl, rfl, rfl⟩
  | some d =>
    obtain hrefused | ⟨cause, hwrite⟩ := h
    · rw [draft?_eq_none_iff.2 hrefused] at hdraft
      cases hdraft
    -- a command line stages nothing, so the manifest is the first thing that is written
    obtain ⟨source, hphase, hstaged⟩ := sourced_of_draft? hdraft
    obtain ⟨manifest, hpreview, htext⟩ := preview_of_draft? hdraft
    rw [← manifestPath_of_draft? hdraft, ← htext] at hwrite
    have hcourse := (builds_of_unstaged hstaged hpreview r.memory r.script).1 cause hwrite
    obtain ⟨journal', hdone, -⟩ := Draft.build_of_builds hphase hcourse
    obtain ⟨event, hbuild⟩ := build_of_draft hdraft r
    rw [hbuild, hdone]
    exact ⟨rfl, rfl, rfl⟩

/-- If the manifest of an accepted command line can be written, it is, and then the build tool runs
and its answer decides the exit code. -/
theorem build_of_written {d : Draft} (hdraft : draft? e a buildTool = some d) {r : Rehearsal}
    (hwrite : (r.memory.writeText (manifestPathFor e a) (manifestText a)).1 = .ok ()) :
    (build e a buildTool r).1.code =
        (if (r.script.next.toolAnswer d.buildCommand).toBool then 0 else 1) ∧
      (build e a buildTool r).2.memory =
        (r.memory.writeText (manifestPathFor e a) (manifestText a)).2 ∧
      (build e a buildTool r).2.script.invocations =
        r.script.invocations ++ [⟨d.buildCommand, d.settings.toolOptions⟩] := by
  obtain ⟨source, hphase, hstaged⟩ := sourced_of_draft? hdraft
  obtain ⟨manifest, hpreview, htext⟩ := preview_of_draft? hdraft
  rw [← manifestPath_of_draft? hdraft, ← htext] at hwrite ⊢
  have hcourse := (builds_of_unstaged hstaged hpreview r.memory r.script).2 hwrite
  obtain ⟨journal', hdone, -⟩ := Draft.build_of_builds hphase hcourse
  obtain ⟨event, hbuild⟩ := build_of_draft hdraft r
  rw [hbuild, hdone]
  exact ⟨rfl, rfl, rfl⟩

/-- A build ends with exit code zero if the build tool ran, once, and ended with exit code zero, and
with exit code one otherwise. The tool does not run exactly if the command line is refused or the
manifest cannot be written, and then nothing is stored. If it runs, then by the command of the
command line, and the manifest of the command line is read back where it belongs, also if the tool
fails. Options override the environment, which overrides the built-in settings. -/
theorem exitCode_of_build (e : Environment) (a : ImageArguments) (buildTool : Option String)
    (r : Rehearsal) :
    let code := (build e a buildTool r).1.code
    let after := (build e a buildTool r).2
    ∃ recorded, after.script.invocations = r.script.invocations ++ recorded ∧
      recorded.length ≤ 1 ∧ (code = 0 ∨ code = 1) ∧
      (code = 0 ↔ recorded.length = 1 ∧ (r.script.pending = [] ∨
        ∃ stdout stderr rest, r.script.pending = .exits 0 stdout stderr :: rest)) ∧
      (recorded = [] ↔ Unacceptable e a buildTool ∨ ∃ cause,
        (r.memory.writeText (manifestPathFor e a) (manifestText a)).1 = .error cause) ∧
      (recorded = [] → after.memory = r.memory) ∧
      (recorded ≠ [] → r.memory.Settles (contextsRoot e a) →
        after.memory.readText (manifestPathFor e a) = .ok (manifestText a)) ∧
      ∀ i ∈ recorded, i.command = commandFor e a buildTool := by
  intro code after
  by_cases hstopped : Unacceptable e a buildTool ∨ ∃ cause,
      (r.memory.writeText (manifestPathFor e a) (manifestText a)).1 = .error cause
  · obtain ⟨hcode, hmemory, hscript⟩ := build_of_stopped hstopped
    have hone : code = 1 := hcode
    refine ⟨[], ?_, Nat.zero_le 1, .inr hone, ?_, iff_of_true rfl hstopped, fun _ => hmemory,
      fun h => absurd rfl h, fun i hi => absurd hi List.not_mem_nil⟩
    · rw [List.append_nil]
      exact congrArg Script.invocations hscript
    · simp [hone]
  · obtain ⟨hacceptable, hwritten⟩ := not_or.1 hstopped
    obtain ⟨d, hdraft⟩ := Option.ne_none_iff_exists'.1 (mt draft?_eq_none_iff.1 hacceptable)
    have hwrite : (r.memory.writeText (manifestPathFor e a) (manifestText a)).1 = .ok () := by
      cases hanswer : (r.memory.writeText (manifestPathFor e a) (manifestText a)).1 with
      | ok written => rfl
      | error cause => exact absurd ⟨cause, hanswer⟩ hwritten
    obtain ⟨hcode, hmemory, hinvocations⟩ := build_of_written hdraft hwrite
    refine ⟨_, hinvocations, le_rfl, ?_, ?_, iff_of_false (List.cons_ne_nil _ _) hstopped,
      fun h => absurd h (List.cons_ne_nil _ _), fun _ hroot => ?_, fun i hi => ?_⟩
    · rw [show code = _ from hcode]
      exact ite_eq_or_eq _ 0 1
    · -- the answer of the tool decides
      rw [show code = _ from hcode, ← next_eq_succeeds_iff,
        ← Scripted.toolAnswer_eq_ok_iff r.script.next d.buildCommand]
      cases r.script.next.toolAnswer d.buildCommand <;> simp [Except.toBool]
    · have hsettles := settles_manifestPathFor hdraft hroot
      rw [show after.memory = _ from hmemory]
      exact (Memory.readText_of_writeText hsettles (Prod.ext hwrite rfl)).1 _ rfl
    · rw [List.mem_singleton.1 hi]
      exact buildCommand_of_draft? hdraft

/-- The image `app` on `base`, without options. -/
def plain : ImageArguments := ⟨"app", "linux", "base", [], none, none⟩

/-- If the build tool fails, the exit code is one, and the manifest is there. -/
theorem exitCode_of_build_failing :
    let r : Rehearsal := { script := { pending := [.exits 2 "" ""] } }
    (build {} plain none r).1.code = 1 ∧
      (build {} plain none r).2.memory.readText (manifestPathFor {} plain) =
        .ok (manifestText plain) := by
  intro r
  obtain ⟨recorded, -, -, hcode, hzero, hnone, -, hread, -⟩ := exitCode_of_build {} plain none r
  have hfails : ¬(build {} plain none r).1.code = 0 := by
    rw [hzero]
    rintro ⟨-, h | ⟨_, _, _, h⟩⟩ <;> cases h
  have hdraft : draft? {} plain none ≠ none := by decide +kernel
  have hwritten : (r.memory.writeText (manifestPathFor {} plain) (manifestText plain)).1 =
      .ok () := by decide +kernel
  have hran : recorded ≠ [] := by
    rw [Ne, hnone, ← draft?_eq_none_iff, hwritten]
    rintro (h | ⟨cause, h⟩)
    · exact hdraft h
    · cases h
  exact ⟨hcode.resolve_left hfails, hread hran (Memory.settles_of_root (by decide) _)⟩

/-- Below the relative root `m`, a build ends with exit code zero and its manifest is not found. -/
theorem build_relativeRootLost :
    let r : Rehearsal := { memory := { root := ⟨[0x6D]⟩ } }
    let after := (build {} plain none r).2
    (build {} plain none r).1.code = 0 ∧ after.script.invocations.length = 1 ∧
      (after.memory.readText (manifestPathFor {} plain)).toOption = none := by
  intro r after
  exact ⟨by decide +kernel, by decide +kernel, by decide +kernel⟩

end Application

end ContainerBuild
