import ContainerBuild.Proofs.Path.Parts
import ContainerBuild.Recipe

/-!
# Places in the staging directory

A target is accepted exactly if it stays inside the staging directory: it has components, and all of
them are names. It is placed strictly below the directory, at its own components, so it is found
again behind the directory and no two different targets share a place. Parts that are resolved one
after the other lead to the same place as the target that they spell.

* `Path.normal_iff_segments` — how a path with names only is written.
* `Recipe.components_stagingPath`, `Recipe.components_resolve` — where targets and parts lead.
* `Recipe.place_of_target` — the places of all targets.
-/

namespace ContainerBuild

open ContainerBuild.Path (Component)

namespace Path

/-- A path has components, and all of them are names, exactly if it is relative, does not start with
a dot, has no two dots as a segment, and has a segment that is neither empty nor a dot. -/
theorem normal_iff_segments (p : Path) :
    (p.components ≠ [] ∧ ∀ c ∈ p.components, c.isNormal = true) ↔
      (p.isAbsolute = false ∧ p.segments.head? ≠ some dot) ∧ dots ∉ p.segments ∧
        ∃ segment ∈ p.segments, segment ≠ [] ∧ segment ≠ dot := by
  -- without a lead, the components are what the segments stand for
  have hmem (hlead : p.lead = []) (c : Component) :
      c ∈ p.components ↔ ∃ segment ∈ p.segments, component? segment = some c := by
    rw [components_eq, hlead, List.nil_append, inner, body, List.mem_filterMap]
  constructor
  · rintro ⟨hne, hnormal⟩
    obtain ⟨hrelative, hlead⟩ := lead_of_normal hnormal
    refine ⟨⟨hrelative, fun hdot => ?_⟩, fun hdots => ?_, ?_⟩
    · simp [lead, hrelative, hdot] at hlead
    · cases hnormal .parent ((hmem hlead _).2 ⟨dots, hdots, rfl⟩)
    · obtain ⟨c, hc⟩ := List.exists_mem_of_ne_nil _ hne
      obtain ⟨segment, hsegment, hstands⟩ := (hmem hlead c).1 hc
      refine ⟨segment, hsegment, ?_, ?_⟩
      · rintro rfl
        cases hstands
      · rintro rfl
        cases hstands
  · rintro ⟨⟨hrelative, hdot⟩, hdots, segment, hsegment, hbusy⟩
    have hlead : p.lead = [] := by simp [lead, hrelative, hdot]
    constructor
    · have hname : component? segment = some (.normal segment) := by
        have hup : segment ≠ dots := fun h => hdots (h ▸ hsegment)
        rw [component?, if_neg (not_or.2 hbusy), if_neg hup]
      exact List.ne_nil_of_mem ((hmem hlead _).2 ⟨segment, hsegment, hname⟩)
    · intro c hc
      obtain ⟨segment, hsegment, hstands⟩ := (hmem hlead c).1 hc
      unfold component? at hstands
      split at hstands
      · cases hstands
      · split at hstands
        next hup => exact absurd (hup ▸ hsegment) hdots
        next =>
          cases hstands
          rfl

end Path

namespace Recipe

/-- A target is accepted exactly if it has components and all of them are names. -/
theorem isSome_stagingPath? (r : Recipe) (target : Path) :
    (r.stagingPath? target).isSome = true ↔
      target.components ≠ [] ∧ ∀ c ∈ target.components, c.isNormal = true := by
  have hcontained : isContained target = true ↔
      target.components ≠ [] ∧ ∀ c ∈ target.components, c.isNormal = true := by
    simp [isContained]
  rw [← hcontained, stagingPath?]
  split <;> simp_all

/-- A target that stays inside the staging directory is joined to it, as a relative path without a
lead. -/
theorem stagingPath?_eq_some {r : Recipe} {target path : Path}
    (h : r.stagingPath? target = some path) :
    target.isAbsolute = false ∧ target.lead = [] ∧ path = r.basePath.join target := by
  obtain ⟨-, hnormal⟩ := (r.isSome_stagingPath? target).1 (Option.isSome_of_eq_some h)
  obtain ⟨hrelative, hlead⟩ := Path.lead_of_normal hnormal
  refine ⟨hrelative, hlead, ?_⟩
  unfold stagingPath? at h
  split at h
  · exact (Option.some.inj h).symm
  · cases h

/-- A target that stays inside the staging directory lies strictly below it. -/
theorem components_stagingPath {r : Recipe} {target path : Path}
    (h : r.stagingPath? target = some path) :
    target.components ≠ [] ∧ path.components = r.basePath.components ++ target.components := by
  obtain ⟨hrelative, hlead, rfl⟩ := stagingPath?_eq_some h
  exact ⟨((r.isSome_stagingPath? target).1 (Option.isSome_of_eq_some h)).1,
    Path.components_join_of_lead _ hrelative hlead⟩

/-- Relative parts that spell a path of names lead to its components below the staging directory. -/
theorem components_resolve (r : Recipe) {parts : List Path} {target : Path}
    (hparts : ∀ part ∈ parts, part.isAbsolute = false)
    (hspelled : (Path.joinAll ⟨[]⟩ parts).components = target.components)
    (hnormal : ∀ c ∈ target.components, c.isNormal = true) :
    (r.resolve parts).components = r.basePath.components ++ target.components := by
  by_cases hbase : r.basePath.bytes = []
  · have hempty : r.basePath = ⟨[]⟩ := congrArg Path.mk hbase
    rw [resolve, hempty, hspelled]
    rfl
  · -- what the parts stand for is what the target stands for, and all of that is names
    have hinner : parts.flatMap Path.inner = target.components := by
      have hjoined := Path.inner_joinAll ⟨[]⟩ hparts
      rw [Path.inner_eq_filter, hspelled, List.filter_eq_self.2] at hjoined
      · exact hjoined.symm
      · intro c hc
        have hname := hnormal c hc
        cases c <;> first | rfl | cases hname
    rw [resolve, Path.components_joinAll hbase hparts, hinner]

/-- Accepted are exactly the targets that have components and only names among them: those that are
written as relative paths without a leading dot, without two dots as a segment, and with a segment
that is neither empty nor a dot. Such a target is placed strictly below the staging directory, has
its own components behind it, and lies where its components lead that are resolved one by one, and
where all relative parts lead that spell the same components. Two targets have the same place
exactly if they have the same components. -/
theorem place_of_target (r : Recipe) :
    (∀ target, (r.stagingPath? target).isSome = true ↔
      target.components ≠ [] ∧ ∀ c ∈ target.components, c.isNormal = true) ∧
    (∀ target, (r.stagingPath? target).isSome = true ↔
      (target.isAbsolute = false ∧ target.segments.head? ≠ some Path.dot) ∧
        Path.dots ∉ target.segments ∧
          ∃ segment ∈ target.segments, segment ≠ [] ∧ segment ≠ Path.dot) ∧
    ∀ target path, r.stagingPath? target = some path →
      (path.startsWith r.basePath = true ∧
        r.basePath.components.length < path.components.length ∧
        (path.behind r.basePath.components.length).components = target.components) ∧
      path.same (r.resolve (target.components.map fun c => ⟨c.bytes⟩)) = true ∧
      (∀ parts, (∀ part ∈ parts, part.isAbsolute = false) →
        (Path.joinAll ⟨[]⟩ parts).same target = true → path.same (r.resolve parts) = true) ∧
      ∀ target' path', r.stagingPath? target' = some path' →
        (path'.same path = true ↔ target'.same target = true) := by
  have haccepted := r.isSome_stagingPath?
  refine ⟨haccepted, fun target => (haccepted target).trans target.normal_iff_segments, ?_⟩
  intro target path hpath
  obtain ⟨hne, hnormal⟩ := (haccepted target).1 (Option.isSome_of_eq_some hpath)
  have hcomponents := (components_stagingPath hpath).2
  have hresolved {parts : List Path} (hparts : ∀ part ∈ parts, part.isAbsolute = false)
      (hspelled : (Path.joinAll ⟨[]⟩ parts).components = target.components) :
      path.same (r.resolve parts) = true := by
    rw [Path.same, hcomponents, r.components_resolve hparts hspelled hnormal, beq_self_eq_true]
  refine ⟨⟨?_, ?_, ?_⟩, ?_, fun parts hparts hspelled => ?_, fun target' path' hpath' => ?_⟩
  · rw [Path.startsWith, hcomponents, List.isPrefixOf_iff_prefix]
    exact List.prefix_append ..
  · rw [hcomponents, List.length_append]
    exact Nat.lt_add_of_pos_right (List.length_pos_iff.2 hne)
  · by_cases hdepth : r.basePath.components.length = 0
    · -- nothing is in front of the target, so the place has no lead either
      rw [List.eq_nil_of_length_eq_zero hdepth, List.nil_append] at hcomponents
      have hlead := (Path.lead_of_normal (p := path) (by rwa [hcomponents])).2
      rw [hdepth, Path.components_behind_zero hlead, hcomponents]
    · rw [path.components_behind hdepth, hcomponents, List.drop_left]
  · have hinner : ∀ c ∈ target.components, c.IsInner := fun c hc => by
      rw [Path.components_eq, (Path.lead_of_normal hnormal).2, List.nil_append] at hc
      exact Path.isInner_of_mem_inner hc
    exact hresolved (Path.flatMap_inner_bytes hinner).1
      (Path.components_ofComponents List.prefix_rfl)
  · exact hresolved hparts (by simpa [Path.same] using hspelled)
  · simp [Path.same, hcomponents, (components_stagingPath hpath').2]

/-- The target `a/./b/` lies where `a` and `b` lead one after the other, and where `a//b` lies. -/
theorem place_of_target_dotted :
    let r := Recipe.create "app" "linux" (.ofString "ctx")
    let target : Path := .ofString "a/./b/"
    let parts : List Path := [.ofString "a", .ofString "b"]
    ∃ path path', r.stagingPath? target = some path ∧ path.same (r.resolve parts) = true ∧
      r.stagingPath? (.ofString "a//b") = some path' ∧ path'.same path = true := by
  intro r target parts
  have hpath : r.stagingPath? target = some (.ofString "ctx/app/a/./b/") := by decide
  have hpath' : r.stagingPath? (.ofString "a//b") = some (.ofString "ctx/app/a//b") := by decide
  obtain ⟨-, -, hplaces⟩ := r.place_of_target
  obtain ⟨-, -, hparts, hsame⟩ := hplaces target _ hpath
  exact ⟨_, _, hpath, hparts parts (by decide) (by decide), hpath',
    (hsame _ _ hpath').2 (by decide)⟩

/-- The empty path, a leading dot, the root and two dots leave nothing that stays inside. -/
example :
    ["", "./a", "/a", "a/../b"].all (fun target => !isContained (.ofString target)) = true := by
  decide

end Recipe

end ContainerBuild
