import ContainerBuild.Proofs.Draft.ToolDirectory

/-!
# Where the manifest is written

The manifest is written to its name in the staging directory. Settings with a name that has
separators or is blank are refused, and a name without separators is a single segment of a path. A
dot and two dots are such names too: they lead to the staging directory itself and to the one above
it. Every other name that is accepted leads to a place directly in the staging directory.

* `Path.inner_ofString_of_slash` — the components of a text without slashes.
* `Draft.manifestPath_of_runs` — the manifest lies directly in the staging directory exactly if its
  name is neither a dot nor two dots.
* `Draft.manifestPath_dots` — settings with these names are accepted.
-/

namespace ContainerBuild

open ContainerBuild.Path (Component)

/-! ### Texts without slashes as paths -/

namespace Path

/-- A text without slashes is a single segment. -/
theorem segments_ofString_of_slash {s : String} (hs : '/' ∉ s.toList) :
    (ofString s).segments = [Utf8.encode s] := by
  have hslash : slash ∉ Utf8.encode s := fun h =>
    hs ((Utf8.mem_encode_iff (a := '/') (by decide) s).1 h)
  show (Utf8.encode s).splitOn slash = _
  rw [List.splitOn_eq_singleton hslash]

/-- A text without slashes adds one component, unless it is empty or a dot. It adds a step up if it
is two dots, and its own name otherwise. -/
theorem inner_ofString_of_slash {s : String} (hs : '/' ∉ s.toList) :
    (ofString s).inner =
      if s = "" ∨ s = "." then [] else if s = ".." then [.parent]
      else [.normal (Utf8.encode s)] := by
  have hspelled (t : String) : Utf8.encode s = Utf8.encode t ↔ s = t :=
    ⟨Utf8.encode_injective, congrArg Utf8.encode⟩
  have hempty : Utf8.encode s = [] ↔ s = "" := hspelled ""
  have hdot : Utf8.encode s = dot ↔ s = "." := hspelled "."
  have hdots : Utf8.encode s = dots ↔ s = ".." := hspelled ".."
  rw [inner, segments_ofString_of_slash hs, body]
  simp only [List.filterMap_cons, List.filterMap_nil, component?, hempty, hdot, hdots]
  split_ifs <;> rfl

end Path

/-! ### The path of the manifest -/

namespace Draft

variable {ω : Type} [Workspace ω]

/-- The staging directory of a draft has components, whatever its contexts root is. -/
theorem basePath_ne_empty {settings : Settings} {name os : String} {new d : Draft}
    {calls : List Call} (hcreate : Draft.create settings name os = .ok new)
    (hruns : Runs ω new calls d) : d.recipe.basePath.bytes ≠ [] := by
  obtain ⟨hbase, -⟩ := basePath_of_runs hcreate hruns
  obtain ⟨image, himage, -⟩ := create_eq_ok hcreate
  obtain ⟨segments, hname⟩ := (checkName_eq_ok_iff name).1 (Image.checked_eq_ok himage).1
  intro hempty
  have hcomponents : d.recipe.basePath.components = [] := by
    rw [show d.recipe.basePath = ⟨[]⟩ from congrArg Path.mk hempty]
    rfl
  -- the segments of the name are among the components
  rw [hbase, hname.components_basePath] at hcomponents
  exact hname.nonempty (List.map_eq_nil_iff.1 (List.append_eq_nil_iff.1 hcomponents).2)

/-- What the manifest's name adds to the staging directory, if the settings can be used. -/
theorem components_manifestPath {settings : Settings} {name os : String} {new d : Draft}
    {calls : List Call} (hvalid : settings.validate = .ok ())
    (hcreate : Draft.create settings name os = .ok new) (hruns : Runs ω new calls d) :
    d.manifestPath.components = d.recipe.basePath.components ++
      if settings.manifestName = "." then [] else if settings.manifestName = ".." then [.parent]
      else [.normal (Utf8.encode settings.manifestName)] := by
  obtain ⟨-, ⟨hblank, hslash, -⟩, -⟩ := settings.validate_eq_ok_iff.1 hvalid
  have hsettings := (basePath_of_runs hcreate hruns).2
  have hempty : settings.manifestName ≠ "" := by
    intro hempty
    rw [hempty] at hblank
    cases hblank
  calc d.manifestPath.components
      = (d.recipe.basePath.join (.ofString d.settings.manifestName)).components := rfl
    _ = d.recipe.basePath.components ++ (Path.ofString settings.manifestName).inner := by
      rw [hsettings, Path.components_join (basePath_ne_empty hcreate hruns)
        (Settings.isAbsolute_manifestName hvalid)]
    _ = _ := by simp [Path.inner_ofString_of_slash hslash, hempty]

/-- Wherever calls lead a draft with settings that can be used, the manifest is written to a path
that has one component more than the staging directory, a name, exactly if the manifest's name is
neither a dot nor two dots. Then it is written strictly inside the staging directory, which is its
parent. -/
theorem manifestPath_of_runs {settings : Settings} {name os : String} {new d : Draft}
    {calls : List Call} (hvalid : settings.validate = .ok ())
    (hcreate : Draft.create settings name os = .ok new) (hruns : Runs ω new calls d) :
    ((∃ file, file ≠ Path.dot ∧ file ≠ Path.dots ∧
        d.manifestPath.components = d.recipe.basePath.components ++ [.normal file]) ↔
      settings.manifestName ≠ "." ∧ settings.manifestName ≠ "..") ∧
    (settings.manifestName ≠ "." → settings.manifestName ≠ ".." →
      d.manifestPath.startsWith d.recipe.basePath = true ∧
        d.manifestPath.same d.recipe.basePath = false ∧
          ∃ parent, d.manifestPath.parent? = some parent ∧
            parent.same d.recipe.basePath = true) := by
  have hpath := components_manifestPath hvalid hcreate hruns
  refine ⟨⟨?_, ?_⟩, ?_⟩
  · -- a dot adds no component, and two dots add one that is no name
    rintro ⟨file, -, -, hfile⟩
    rw [hpath, List.append_cancel_left_eq] at hfile
    constructor
    · intro hdot
      simp [hdot] at hfile
    · intro hdots
      simp [hdots] at hfile
  · rintro ⟨hdot, hdots⟩
    have hspelled {s : String} (hs : settings.manifestName ≠ s) :
        Utf8.encode settings.manifestName ≠ Utf8.encode s := fun h => hs (Utf8.encode_injective h)
    rw [if_neg hdot, if_neg hdots] at hpath
    exact ⟨_, hspelled hdot, hspelled hdots, hpath⟩
  · intro hdot hdots
    rw [if_neg hdot, if_neg hdots] at hpath
    obtain ⟨parent, hparent, hcomponents⟩ := Path.parent?_eq_some hpath nofun
    refine ⟨?_, ?_, parent, hparent, by simp [Path.same, hcomponents]⟩
    · rw [Path.startsWith, hpath]
      simp
    · simp [Path.same, hpath]

/-- Settings with three dots as the manifest's name. -/
def threeDots : Settings := { manifestName := "..." }

/-- Three dots are a name like any other: a draft with a source and a staged file has its manifest at
that name in its staging directory. -/
theorem manifestPath_of_runs_threeDots :
    let d : Draft := { copying "a" with settings := threeDots }
    threeDots.validate = .ok () ∧
      ∃ new, Draft.create threeDots "a" "linux" = .ok new ∧ Runs Rehearsal new copyingCalls d ∧
        (∃ file, file ≠ Path.dot ∧ file ≠ Path.dots ∧
          d.manifestPath.components = d.recipe.basePath.components ++ [.normal file]) ∧
        ∃ parent, d.manifestPath.parent? = some parent ∧ parent.same d.recipe.basePath = true := by
  intro d
  have hvalid : threeDots.validate = .ok () := threeDots.validate_eq_ok_iff.2 (by decide)
  obtain ⟨new, hcreate, hruns⟩ : ∃ new, Draft.create threeDots "a" "linux" = .ok new ∧
      Runs Rehearsal new copyingCalls d :=
    ⟨_, by rfl, .cons (w := {}) rfl (.cons (w := {}) rfl (.nil _))⟩
  obtain ⟨hname, hinside⟩ := manifestPath_of_runs hvalid hcreate hruns
  have hdot : threeDots.manifestName ≠ "." := by decide
  have hdots : threeDots.manifestName ≠ ".." := by decide
  exact ⟨hvalid, new, hcreate, hruns, hname.2 ⟨hdot, hdots⟩, (hinside hdot hdots).2.2⟩

/-- Settings with a dot or two dots as the manifest's name can be used. The manifest then goes to
the staging directory itself, or to the directory above it. -/
theorem manifestPath_dots :
    let dot : Settings := { manifestName := "." }
    let dots : Settings := { manifestName := ".." }
    (dot.validate = .ok () ∧ ∃ d, Draft.create dot "app" "linux" = .ok d ∧
      d.manifestPath.same d.recipe.basePath = true) ∧
    (dots.validate = .ok () ∧ ∃ d, Draft.create dots "app" "linux" = .ok d ∧
      d.manifestPath.components = d.recipe.basePath.components ++ [.parent]) := by
  intro dot dots
  have hdot : dot.validate = .ok () := dot.validate_eq_ok_iff.2 (by decide)
  have hdots : dots.validate = .ok () := dots.validate_eq_ok_iff.2 (by decide)
  exact ⟨⟨hdot, _, by rfl, by decide⟩, ⟨hdots, _, by rfl, by decide⟩⟩

end Draft

end ContainerBuild
