import ContainerBuild.Proofs.Draft.Course
import ContainerBuild.Proofs.Recipe.Staging
import ContainerBuild.Proofs.Store.Confinement

/-!
# Builds stay in their staging directory

Everything that a build writes lies in the staging directory of its draft: staged targets and the
manifest's name are relative paths, and the store keeps what it writes below a directory there. This
holds of every course of a build, also if an entry is refused or cannot be placed.

A store sees paths from its root more than once while it writes. Below a root that is relative and
leads anywhere, a relative staging directory is not found again: the store writes below the root
once more, outside the staging directory.

* `Settings.validate_eq_ok_iff` — which settings can be used.
* `Draft.build_confined` — what a build may change, for staging directories that settle.
* `Draft.build_relativeRoot` — a build that writes elsewhere, below a relative root.
-/

namespace ContainerBuild

/-- Settings can be used exactly if the contexts root is not empty, neither the manifest's name nor
the build tool is blank, the name has no separators, and the level is the name of one. -/
theorem Settings.validate_eq_ok_iff (s : Settings) :
    s.validate = .ok () ↔ s.contextsRoot.bytes ≠ [] ∧
      (Text.isAllBlank s.manifestName = false ∧ '/' ∉ s.manifestName.toList ∧
        '\\' ∉ s.manifestName.toList) ∧
      Text.isAllBlank s.buildTool = false ∧ s.logLevel ∈ levelNames := by
  have hseparator : s.manifestName.toList.any (fun c => c == '/' || c == '\\') = true ↔
      '/' ∈ s.manifestName.toList ∨ '\\' ∈ s.manifestName.toList := by
    simp [List.any_eq_true, exists_or, and_or_left]
  unfold validate
  simp only [hseparator]
  -- one case for each reason to refuse, in the order in which they are looked for
  split_ifs with hroot hblank hpath htool hlevel
  · simp_all [List.isEmpty_iff]
  · simp [hblank]
  · rcases hpath with hslash | hbackslash
    · simp [hslash]
    · simp [hbackslash]
  · simp [htool]
  · simpa using fun _ _ _ _ _ => hlevel
  · obtain ⟨hslash, hbackslash⟩ := not_or.1 hpath
    simp_all [List.isEmpty_iff]

/-- The manifest's name in settings that can be used is a relative path. -/
theorem Settings.isAbsolute_manifestName {s : Settings} (h : s.validate = .ok ()) :
    (Path.ofString s.manifestName).isAbsolute = false := by
  obtain ⟨-, ⟨-, hslash, -⟩, -⟩ := s.validate_eq_ok_iff.1 h
  rw [← Bool.not_eq_true, Path.isAbsolute_ofString_iff]
  exact fun hhead => hslash (List.mem_of_head? hhead)

namespace Memory

variable {place : List Path.Component} {m m' : Memory}

/-- Placing an entry at a path below a place is confined. -/
theorem place_confined (m : Memory) (entry : StagedEntry) {path : Path}
    (hpath : m.Under place path) : Confined place m (m.place entry path).2 := by
  cases entry with
  | file source _ => exact copyFile_confined m source hpath
  | directory source _ => exact copyDir_confined m source hpath
  | document _ value => exact writeText_confined m value.pretty hpath

/-- Placing entries one after the other below a staging directory is confined to it. -/
theorem Confined.of_placed {r : Recipe} {entries : List StagedEntry} {requests : List Request}
    (hbase : m.Under place r.basePath) (h : r.Placed entries m requests m') :
    Confined place m m' := by
  induction h with
  | nil m => exact .refl m
  | @cons entry rest path m m₁ m₂ requests htarget hplace hrest ih =>
    obtain ⟨hrelative, -, rfl⟩ := Recipe.stagingPath?_eq_some htarget
    have hplaced := place_confined m entry (hbase.join hrelative)
    rw [hplace] at hplaced
    exact hplaced.trans (ih (hplaced.under hbase))

end Memory

namespace Draft

open Memory (Confined)

/-- Every course of a build is confined to the staging directory. -/
theorem Builds.confined {d : Draft} {m m' : Memory} {s s' : Script}
    {answer : Except BuildError Unit} {requests : List Request} {place : List Path.Component}
    (hmanifest : (Path.ofString d.settings.manifestName).isAbsolute = false)
    (hbase : m.Under place d.recipe.basePath)
    (h : d.Builds m s answer m' s' requests) : Confined place m m' := by
  cases h with
  | badTarget _ hplaced _ => exact .of_placed hbase hplaced
  | @notPlaced _ _ entry _ _ _ _ _ _ hplaced htarget hplace =>
    -- a copy that fails may have written a part of the directory
    obtain ⟨hrelative, -, rfl⟩ := Recipe.stagingPath?_eq_some htarget
    have hbefore := Confined.of_placed hbase hplaced
    have hstopped := Memory.place_confined _ entry ((hbefore.under hbase).join hrelative)
    rw [hplace] at hstopped
    exact hbefore.trans hstopped
  | notWritten hplaced _ _ => exact .of_placed hbase hplaced
  | @ran manifest _ _ _ hplaced _ hwrite =>
    have hbefore := Confined.of_placed hbase hplaced
    have hwritten := Memory.writeText_confined _ manifest.render
      ((hbefore.under hbase).join hmanifest)
    rw [show d.recipe.basePath.join _ = d.manifestPath from rfl, hwrite] at hwritten
    exact hbefore.trans hwritten

/-- A build of a draft with settings that can be used is confined to its staging directory. -/
theorem confined_of_build {d : Draft} (hvalid : d.settings.validate = .ok ()) {r : Rehearsal}
    {place : List Path.Component} (hbase : r.memory.Under place d.recipe.basePath) :
    Confined place r.memory (d.build r).2.2.memory := by
  rcases d.build_cases r with ⟨error, d', -, hrefused⟩ |
    ⟨source, answer, m', s', requests, -, hcourse, -, rfl, -⟩
  · rw [hrefused]
    exact .refl _
  · exact hcourse.confined (Settings.isAbsolute_manifestName hvalid) hbase

/-- Whatever comes of a build, what differs in the store afterwards lies at or below the staging
directory, or is a directory above it that was missing. What is stored elsewhere, such as the
sources of staged entries, stays as it is, and nothing is removed. -/
theorem build_confined (d : Draft) (hvalid : d.settings.validate = .ok ()) (r : Rehearsal)
    (hsettles : r.memory.Settles d.recipe.basePath) :
    let place := (r.memory.locate d.recipe.basePath).components
    let after := (d.build r).2.2.memory
    (∀ other, after.lookup other ≠ r.memory.lookup other →
      place <+: other ∨
        (other <+: place ∧ other ≠ place) ∧ r.memory.lookup other = none ∧
          after.lookup other = some .directory) ∧
    (∀ other, r.memory.lookup other ≠ none → ¬place <+: other →
      after.lookup other = r.memory.lookup other) ∧
    ∀ other, r.memory.lookup other ≠ none → after.lookup other ≠ none := by
  intro place after
  have hconfined : Confined place r.memory after := confined_of_build hvalid hsettles.under
  exact ⟨hconfined.changed, fun other hsome helse => hconfined.lookup_eq hsome helse,
    hconfined.kept⟩

/-- A draft with a source image that is staged at `c/a` and stages a document at `d`. -/
def staged : Draft where
  image := ⟨.built, "a", "linux"⟩
  recipe := { Recipe.create "a" "linux" ⟨[0x63]⟩ with staged := [.document ⟨[0x64]⟩ .null] }
  source? := some ⟨.imported, "base", "linux"⟩
  state := .sourceSet
  settings := { contextsRoot := ⟨[0x63]⟩, manifestName := "M" }

/-- Below an absolute root, the document that the draft stages is stored in the staging directory,
and a file beside that directory stays. -/
theorem build_confined_staged :
    let r : Rehearsal := { memory := ({} : Memory).addFile ⟨[0x63, 0x2F, 0x62]⟩ "kept" }
    let other := (r.memory.locate ⟨[0x63, 0x2F, 0x62]⟩).components
    staged.settings.validate = .ok () ∧ r.memory.Settles staged.recipe.basePath ∧
      r.memory.lookup other = some (.file "kept") ∧
      (staged.build r).2.2.memory.lookup other = some (.file "kept") := by
  intro r other
  have hvalid : staged.settings.validate = .ok () := by rfl
  have hsettles : r.memory.Settles staged.recipe.basePath := by
    show _ = _
    decide
  have hstored : r.memory.lookup other = some (.file "kept") := by decide
  refine ⟨hvalid, hsettles, hstored, ?_⟩
  rw [← hstored]
  exact (build_confined staged hvalid r hsettles).2.1 other (by rw [hstored]; simp) (by decide)

/-- Below the relative root `m`, the draft's build stores its document at `m/m/c/a/d`, outside the
staging directory `m/c/a` and not above it either. -/
theorem build_relativeRoot :
    let r : Rehearsal := { memory := { root := ⟨[0x6D]⟩ } }
    let place := (r.memory.locate staged.recipe.basePath).components
    staged.settings.validate = .ok () ∧
      ∃ other, (staged.build r).2.2.memory.lookup other ≠ r.memory.lookup other ∧
        ¬place <+: other ∧ ¬other <+: place := by
  intro r place
  let twice : Path := ⟨[0x6D, 0x2F, 0x6D, 0x2F, 0x63, 0x2F, 0x61, 0x2F, 0x64]⟩
  have hstored : ((staged.build r).2.2.memory.lookup twice.components).isSome = true := by decide
  have hempty : (r.memory.lookup twice.components).isSome = false := by decide
  refine ⟨by rfl, twice.components, fun hsame => ?_, by decide, by decide⟩
  rw [hsame, hempty] at hstored
  cases hstored

end Draft

end ContainerBuild
