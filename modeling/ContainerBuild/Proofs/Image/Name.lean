import ContainerBuild.Proofs.Path.Joining
import ContainerBuild.Recipe
import Mathlib.Data.List.Basic

/-!
# Names and staging directories

The name of an image is also the path of its staging directory below the contexts root. The names
that are accepted are those that such a path can be built from: segments between slashes, of a few
ASCII characters, none of which leads elsewhere. So the staging directory lies strictly inside the
contexts root, at the segments of the name, and no two names share one.

* `IsName name segments` — the grammar of names.
* `checkName_eq_ok_iff` — the accepted names are those of the grammar.
* `components_basePath` — where the staging directory of a name lies.
* `stagingDirectory_of_name` — both, and what follows for two names.
-/

namespace ContainerBuild

/-- An ASCII letter or digit. -/
def IsLetterOrDigit (c : Char) : Prop :=
  ('A' ≤ c ∧ c ≤ 'Z') ∨ ('a' ≤ c ∧ c ≤ 'z') ∨ ('0' ≤ c ∧ c ≤ '9')

/-- A segment of a name. -/
structure IsNameSegment (segment : String) : Prop where
  /-- It is not empty. -/
  nonempty : segment ≠ ""
  /-- It is made of ASCII letters, digits and a few other characters. -/
  chars : ∀ c ∈ segment.toList, IsLetterOrDigit c ∨ c ∈ ['.', '_', ':', '@', '+', '-']
  /-- It does not name the directory that it stands in. -/
  notDot : segment ≠ "."
  /-- It does not name the directory above. -/
  notDots : segment ≠ ".."

/-- A name is made of segments between slashes and starts with a letter or digit. -/
structure IsName (name : String) (segments : List String) : Prop where
  /-- The segments spell the name. -/
  spelled : name = "/".intercalate segments
  /-- There is at least one. -/
  nonempty : segments ≠ []
  /-- Each can stand in a name. -/
  isSegment : ∀ segment ∈ segments, IsNameSegment segment
  /-- The first character is a letter or digit. -/
  first : ∃ c rest, name.toList = c :: rest ∧ IsLetterOrDigit c

theorem isAlphanum_iff (c : Char) : c.isAlphanum = true ↔ IsLetterOrDigit c := by
  show (decide (c.val ≥ 'A'.val ∧ c.val ≤ 'Z'.val) ||
    (decide (c.val ≥ 'a'.val) && decide (c.val ≤ 'z'.val)) ||
    (decide (c.val ≥ '0'.val) && decide (c.val ≤ '9'.val))) = true ↔ _
  simp only [Bool.or_eq_true, Bool.and_eq_true, decide_eq_true_eq, or_assoc]
  rfl

/-- A character of a name is a slash or a character of a segment. -/
theorem isNameChar_iff (c : Char) :
    isNameChar c = true ↔
      c = '/' ∨ IsLetterOrDigit c ∨ c ∈ ['.', '_', ':', '@', '+', '-'] := by
  simp only [isNameChar, Bool.or_eq_true, isAlphanum_iff, beq_iff_eq, List.mem_cons,
    List.not_mem_nil, or_false]
  grind

/-! ### The grammar of names -/

namespace IsName

variable {name : String} {segments : List String}

theorem toList_eq (h : IsName name segments) :
    name.toList = ['/'].intercalate (segments.map String.toList) := by
  rw [h.spelled, String.toList_intercalate]
  rfl

/-- No segment has a slash in it. -/
theorem slash_notMem (h : IsName name segments) {segment : String} (hs : segment ∈ segments) :
    '/' ∉ segment.toList := by
  intro hslash
  rcases (h.isSegment segment hs).chars '/' hslash with hletter | hmem
  · revert hletter
    unfold IsLetterOrDigit
    decide
  · revert hmem
    decide

/-- The segments of a name are its parts between slashes. -/
theorem splitOn_eq (h : IsName name segments) :
    name.toList.splitOn '/' = segments.map String.toList := by
  rw [h.toList_eq]
  refine List.splitOn_intercalate '/' (fun part hpart => ?_) (by simp [h.nonempty])
  obtain ⟨segment, hs, rfl⟩ := List.mem_map.1 hpart
  exact h.slash_notMem hs

/-- Every character of a name is one of those that names have. -/
theorem isNameChar (h : IsName name segments) {c : Char} (hc : c ∈ name.toList) :
    isNameChar c = true := by
  rw [isNameChar_iff]
  by_cases hslash : c = '/'
  · exact .inl hslash
  · rw [h.toList_eq, Text.mem_intercalate_iff hslash] at hc
    obtain ⟨part, hpart, hc⟩ := hc
    obtain ⟨segment, hs, rfl⟩ := List.mem_map.1 hpart
    exact .inr ((h.isSegment segment hs).chars c hc)

end IsName

/-- A single letter or digit is a name. -/
theorem isName_of_letter {name : String} {c : Char} (hname : name.toList = [c])
    (hc : IsLetterOrDigit c) : IsName name [name] := by
  have hother {other : String} (hne : other.toList ≠ [c]) : name ≠ other := by
    rintro rfl
    exact hne hname
  have hdot : '.' ≠ c := by
    rintro rfl
    revert hc
    unfold IsLetterOrDigit
    decide
  refine ⟨by simp, List.cons_ne_nil _ _, fun segment hs => ?_, c, [], hname, hc⟩
  obtain rfl := List.mem_singleton.1 hs
  refine ⟨hother (by simp), fun d hd => ?_, hother ?_, hother ?_⟩
  · rw [hname, List.mem_singleton] at hd
    exact .inl (hd ▸ hc)
  · simpa using hdot
  · simp

/-- A text is no unsafe segment unless it is empty, a dot or two dots. -/
theorem isUnsafeSegment_iff (segment : String) :
    isUnsafeSegment segment.toList = true ↔ segment = "" ∨ segment = "." ∨ segment = ".." := by
  simp only [isUnsafeSegment, Bool.or_eq_true, beq_iff_eq, ← String.toList_inj, or_assoc]
  rfl

/-- What is accepted as a name: a word of name characters, cut by slashes into safe segments. -/
theorem checkName_eq_ok {name : String} :
    checkName name = .ok () ↔
      isWord ContainerBuild.isNameChar name.toList = true ∧
        ∀ part ∈ name.toList.splitOn '/', isUnsafeSegment part = false := by
  have hempty : name.isEmpty = true → isWord ContainerBuild.isNameChar name.toList = false := by
    intro h
    rw [String.isEmpty_iff.1 h]
    rfl
  unfold checkName
  split
  next h => simp [hempty h]
  next =>
    split
    next h => simp_all
    next h =>
      split <;> simp_all

/-- A word of name characters whose parts between slashes are safe is a name made of these parts. -/
theorem isName_of_parts {name : String} (hword : isWord ContainerBuild.isNameChar name.toList = true)
    (hsafe : ∀ part ∈ name.toList.splitOn '/', isUnsafeSegment part = false) :
    IsName name ((name.toList.splitOn '/').map String.ofList) := by
  obtain ⟨c, rest, hname, hfirst, hrest⟩ : ∃ c rest, name.toList = c :: rest ∧
      c.isAlphanum = true ∧ rest.all ContainerBuild.isNameChar = true := by
    cases hname : name.toList with
    | nil => simp [hname, isWord] at hword
    | cons c rest => exact ⟨c, rest, rfl, by simpa [hname, isWord] using hword⟩
  have hall : ∀ d ∈ name.toList, ContainerBuild.isNameChar d = true := by
    rw [hname, List.forall_mem_cons]
    exact ⟨(isNameChar_iff c).2 (.inr (.inl ((isAlphanum_iff c).1 hfirst))),
      List.all_eq_true.1 hrest⟩
  have hjoined : ['/'].intercalate (name.toList.splitOn '/') = name.toList :=
    List.intercalate_splitOn '/'
  refine ⟨?_, by simp, fun segment hsegment => ?_,
    c, rest, hname, (isAlphanum_iff c).1 hfirst⟩
  · -- putting the slashes back gives the name
    apply String.toList_inj.1
    simp [String.toList_intercalate, Function.comp_def, hjoined]
  · obtain ⟨part, hpart, rfl⟩ := List.mem_map.1 hsegment
    have hunsafe : ¬isUnsafeSegment (String.ofList part).toList = true := by
      rw [String.toList_ofList, hsafe part hpart]
      exact Bool.false_ne_true
    rw [isUnsafeSegment_iff, not_or, not_or] at hunsafe
    obtain ⟨hempty, hdot, hdots⟩ := hunsafe
    refine ⟨hempty, fun d hd => ?_, hdot, hdots⟩
    -- a part has no slash, and otherwise characters of the name
    rw [String.toList_ofList] at hd
    have hslash : d ≠ '/' := by
      rintro rfl
      exact Text.notMem_of_mem_splitOn hpart hd
    have hmem : d ∈ name.toList := by
      rw [← hjoined, Text.mem_intercalate_iff hslash]
      exact ⟨part, hpart, hd⟩
    exact ((isNameChar_iff d).1 (hall d hmem)).resolve_left hslash

/-- A name is a word of name characters. -/
theorem IsName.isWord {name : String} {segments : List String} (h : IsName name segments) :
    isWord ContainerBuild.isNameChar name.toList = true := by
  obtain ⟨c, rest, hname, hfirst⟩ := h.first
  rw [hname, ContainerBuild.isWord, (isAlphanum_iff c).2 hfirst, Bool.true_and, List.all_eq_true]
  intro d hd
  exact h.isNameChar (by rw [hname]; exact List.mem_cons_of_mem c hd)

/-- The parts of a name between slashes are safe. -/
theorem IsName.parts_safe {name : String} {segments : List String} (h : IsName name segments) :
    ∀ part ∈ name.toList.splitOn '/', isUnsafeSegment part = false := by
  rw [h.splitOn_eq]
  intro part hpart
  obtain ⟨segment, hs, rfl⟩ := List.mem_map.1 hpart
  have hsegment := h.isSegment segment hs
  rw [← Bool.not_eq_true, isUnsafeSegment_iff]
  rintro (hempty | hdot | hdots)
  · exact hsegment.nonempty hempty
  · exact hsegment.notDot hdot
  · exact hsegment.notDots hdots

/-- Accepted are exactly the names of the grammar. -/
theorem checkName_eq_ok_iff (name : String) :
    checkName name = .ok () ↔ ∃ segments, IsName name segments := by
  rw [checkName_eq_ok]
  constructor
  · rintro ⟨hword, hsafe⟩
    exact ⟨_, isName_of_parts hword hsafe⟩
  · rintro ⟨segments, h⟩
    exact ⟨h.isWord, h.parts_safe⟩

/-! ### The staging directory of a name -/

/-- Different segments are different components. -/
theorem normal_encode_injective :
    Function.Injective fun segment => Path.Component.normal (Utf8.encode segment) :=
  fun _ _ h => Utf8.encode_injective (Path.Component.normal.inj h)

namespace IsName

variable {name : String} {segments : List String}

/-- The path that a name spells has the segments of the name. -/
theorem segments_ofString (h : IsName name segments) :
    (Path.ofString name).segments = segments.map Utf8.encode := by
  calc (Path.ofString name).segments
      = (Utf8.encode name).splitOn (UInt8.ofNat '/'.toNat) := rfl
    _ = (segments.map String.toList).map fun part => Utf8.encode (String.ofList part) := by
      rw [Utf8.splitOn_encode (by decide), h.splitOn_eq]
    _ = segments.map Utf8.encode := by simp

/-- A segment of a name stands for itself. -/
theorem component_encode (h : IsName name segments) {segment : String}
    (hs : segment ∈ segments) :
    Path.component? (Utf8.encode segment) = some (.normal (Utf8.encode segment)) := by
  have hsegment := h.isSegment segment hs
  have hempty : Utf8.encode segment ≠ [] := fun heq =>
    hsegment.nonempty (Utf8.encode_injective (heq.trans (by decide)))
  have hdot : Utf8.encode segment ≠ Path.dot := fun heq =>
    hsegment.notDot (Utf8.encode_injective (heq.trans (by decide)))
  have hdots : Utf8.encode segment ≠ Path.dots := fun heq =>
    hsegment.notDots (Utf8.encode_injective (heq.trans (by decide)))
  rw [Path.component?, if_neg (not_or.2 ⟨hempty, hdot⟩), if_neg hdots]

/-- The path that a name spells is relative and does not start with a dot. -/
theorem lead_ofString (h : IsName name segments) :
    (Path.ofString name).isAbsolute = false ∧ (Path.ofString name).lead = [] := by
  have hrelative : (Path.ofString name).isAbsolute = false := by
    obtain ⟨c, rest, hname, hfirst⟩ := h.first
    rw [← Bool.not_eq_true, Path.isAbsolute_ofString_iff, hname]
    rintro hslash
    cases hslash
    revert hfirst
    unfold IsLetterOrDigit
    decide
  obtain ⟨first, rest, hsegments⟩ := List.exists_cons_of_ne_nil h.nonempty
  have hdot : Utf8.encode first ≠ Path.dot := by
    intro hdot
    have hmem : first ∈ segments := by rw [hsegments]; exact List.mem_cons_self
    have hfirst := h.component_encode hmem
    simp [Path.component?, hdot] at hfirst
  refine ⟨hrelative, ?_⟩
  simp [Path.lead, hrelative, h.segments_ofString, hsegments, hdot]

/-- The path that a name spells has the segments of the name as components. -/
theorem components_ofString (h : IsName name segments) :
    (Path.ofString name).components =
      segments.map fun segment => .normal (Utf8.encode segment) := by
  rw [Path.components_eq, h.lead_ofString.2, List.nil_append, Path.inner, Path.body,
    h.segments_ofString, List.filterMap_map, ← List.filterMap_eq_map]
  exact List.filterMap_congr fun segment hs => h.component_encode hs

/-- The staging directory of an image lies at the segments of its name below the contexts root. -/
theorem components_basePath (h : IsName name segments) (os : String) (root : Path) :
    (Recipe.create name os root).basePath.components =
      root.components ++ segments.map fun segment => .normal (Utf8.encode segment) := by
  obtain ⟨hrelative, hlead⟩ := h.lead_ofString
  rw [← h.components_ofString]
  exact root.components_join_of_lead hrelative hlead

/-- Names with the same segments below the same contexts root are the same. -/
theorem eq_of_components {name' os os' : String} {segments' : List String} {root : Path}
    (h : IsName name segments) (h' : IsName name' segments')
    (heq : (Recipe.create name' os' root).basePath.components =
      (Recipe.create name os root).basePath.components) : name' = name := by
  rw [h.components_basePath, h'.components_basePath] at heq
  have hsegments : segments' = segments :=
    List.map_injective_iff.2 normal_encode_injective (List.append_cancel_left heq)
  rw [h'.spelled, hsegments, ← h.spelled]

end IsName

/-- Accepted are exactly the names of the grammar: segments between slashes, none of which is empty
or leads elsewhere, made of a few ASCII characters, and the whole starts with a letter or digit.
Whatever the contexts root is, the staging directory of such a name has the components of the root
followed by the segments of the name, so it lies strictly inside the root, and only the name itself
has the same one. -/
theorem stagingDirectory_of_name :
    (∀ name, checkName name = .ok () ↔ ∃ segments, IsName name segments) ∧
      ∀ (root : Path) (name os : String) (segments : List String), IsName name segments →
        let directory := (Recipe.create name os root).basePath
        directory.components =
            root.components ++ segments.map (fun segment => .normal (Utf8.encode segment)) ∧
          (root.components <+: directory.components ∧ root.components ≠ directory.components) ∧
          ∀ name' os', checkName name' = .ok () →
            ((Recipe.create name' os' root).basePath.components = directory.components ↔
              name' = name) := by
  refine ⟨checkName_eq_ok_iff, fun root name os segments h => ?_⟩
  have hcomponents := h.components_basePath os root
  refine ⟨hcomponents, ⟨?_, ?_⟩, fun name' os' hname' => ⟨fun heq => ?_, ?_⟩⟩
  · rw [hcomponents]
    exact List.prefix_append ..
  · rw [hcomponents]
    simpa using h.nonempty
  · obtain ⟨segments', h'⟩ := (checkName_eq_ok_iff name').1 hname'
    exact h.eq_of_components h' heq
  · rintro rfl
    rfl

/-- The name `a/b.c:1` has two segments, is accepted, and is staged below a root with two dots. -/
theorem stagingDirectory_of_name_nested :
    IsName "a/b.c:1" ["a", "b.c:1"] ∧ checkName "a/b.c:1" = .ok () ∧
      (Recipe.create "a/b.c:1" "linux" (.ofString "../x//")).basePath.components =
        [.parent, .normal [0x78], .normal [0x61], .normal [0x62, 0x2E, 0x63, 0x3A, 0x31]] := by
  have hletter {c : Char} (hc : c.isAlphanum = true) : IsLetterOrDigit c := (isAlphanum_iff c).1 hc
  have hname : IsName "a/b.c:1" ["a", "b.c:1"] := by
    refine ⟨by decide, by decide, ?_, 'a', _, rfl, hletter rfl⟩
    intro segment hs
    simp only [List.mem_cons, List.not_mem_nil, or_false] at hs
    rcases hs with rfl | rfl
    all_goals
      refine ⟨by decide, ?_, by decide, by decide⟩
      simp [hletter (c := 'a') rfl, hletter (c := 'b') rfl, hletter (c := 'c') rfl,
        hletter (c := '1') rfl]
  obtain ⟨haccepted, hdirectory⟩ := stagingDirectory_of_name
  refine ⟨hname, (haccepted _).2 ⟨_, hname⟩, ?_⟩
  exact (hdirectory (.ofString "../x//") _ "linux" _ hname).1.trans (by decide)

end ContainerBuild
