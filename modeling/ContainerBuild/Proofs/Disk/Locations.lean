import ContainerBuild.Disk.Tree
import Mathlib.Tactic.ByContra

/-!
# What is at the locations of a tree

A tree is a map from locations to directories and files: every beginning of a location that the tree
has is that of a directory, and putting a file or an empty directory where no directory was changes
the map at this location only. The tree is finite, so its locations are not longer than some bound.

* `Tree.node?` — what is at a location, without what a directory holds.
* `Tree.node?_append` — above what there is, there are directories.
* `Tree.node?_put` — what is at each location after a leaf was put somewhere.
* `Tree.exists_height` — no location of a tree is longer than its height.
-/

namespace ContainerBuild

/-- A directory, whatever it holds, or a file with its content. -/
inductive Node where
  /-- A directory. -/
  | directory
  /-- A file with its content. -/
  | file (content : Bytes)
  deriving DecidableEq

namespace Tree

/-- What the tree is at its root. -/
def node : Tree → Node
  | directory _ => .directory
  | file content => .file content

/-- What the tree has at a location. -/
def node? (t : Tree) (location : Location) : Option Node := (t.at? location).map node

theorem node_eq_directory_iff {t : Tree} : t.node = .directory ↔ t.isDirectory = true := by
  cases t <;> simp [node, isDirectory]

theorem at?_eq_file_iff {t : Tree} {location : Location} {content : Bytes} :
    t.at? location = some (file content) ↔ t.node? location = some (.file content) := by
  unfold node?
  rcases t.at? location with _ | ⟨content' | entries⟩ <;> simp [node]

/-! ### Above and below -/

theorem at?_append (t : Tree) (above below : Location) :
    t.at? (above ++ below) = (t.at? above).bind fun u => u.at? below := by
  induction above generalizing t with
  | nil => rfl
  | cons name rest ih =>
    rw [List.cons_append, at?, at?]
    cases t.child? name with
    | none => rfl
    | some c => exact ih c

theorem node?_directory_cons (entries : List (Bytes × Tree)) (name : Bytes) (rest : Location) :
    (directory entries).node? (name :: rest) =
      (entries.lookup name).bind fun c => c.node? rest := by
  rw [node?, at?, child?]
  cases entries.lookup name <;> rfl

/-- A tree that has a location is a directory, unless the location is the root. -/
theorem eq_directory_of_node? {t : Tree} {location : Location}
    (h : t.node? location = some .directory) : ∃ entries, t = directory entries := by
  cases t with
  | directory entries => exact ⟨entries, rfl⟩
  | file content => cases location <;> simp [node?, at?, child?, node] at h

/-- What is in a directory is at the locations below it. -/
theorem node?_concat {t u : Tree} {above : Location} (h : t.at? above = some u) (name : Bytes) :
    t.node? (above ++ [name]) = (u.child? name).map node := by
  rw [node?, at?_append, h]
  show ((u.child? name).bind fun c => c.at? []).map node = _
  cases u.child? name <;> rfl

/-- Above what there is, there are directories. -/
theorem node?_append {t : Tree} {above below : Location} (h : t.node? (above ++ below) ≠ none)
    (hbelow : below ≠ []) : t.node? above = some .directory := by
  obtain ⟨name, rest, rfl⟩ := List.exists_cons_of_ne_nil hbelow
  rw [node?, at?_append] at h
  rw [node?]
  cases hat : t.at? above with
  | none => simp [hat] at h
  | some u =>
    cases u with
    | file content => simp [hat, at?, child?] at h
    | directory entries => rfl

theorem node?_ne_none_of_append {t : Tree} {above below : Location}
    (h : t.node? (above ++ below) ≠ none) : t.node? above ≠ none := by
  by_cases hbelow : below = []
  · simpa [hbelow] using h
  · rw [node?_append h hbelow]
    exact Option.some_ne_none _

/-- The names in a directory are those of which there is a location below it. -/
theorem mem_names_iff {t u : Tree} {above : Location} (h : t.at? above = some u) (name : Bytes) :
    name ∈ u.names ↔ t.node? (above ++ [name]) ≠ none := by
  rw [node?_concat h]
  cases u with
  | file content => simp [names, child?]
  | directory entries => simp [names, child?, List.lookup_eq_none_iff]

/-! ### Putting leaves -/

theorem lookup_cons_eq (entry : Bytes × Tree) (rest : List (Bytes × Tree)) (name : Bytes) :
    (entry :: rest).lookup name = if name = entry.1 then some entry.2 else rest.lookup name := by
  rw [List.lookup_cons]
  by_cases h : name = entry.1
  · rw [if_pos h, beq_iff_eq.2 h]
  · rw [if_neg h, beq_eq_false_iff_ne.2 h]

theorem lookup_insertEntry (name : Bytes) (t : Tree) (entries : List (Bytes × Tree))
    (name' : Bytes) :
    (insertEntry name t entries).lookup name' =
      if name' = name then some t else entries.lookup name' := by
  induction entries with
  | nil => exact lookup_cons_eq (name, t) [] name'
  | cons entry rest ih =>
    rw [insertEntry]
    split
    next hreplaced => rw [lookup_cons_eq, lookup_cons_eq, hreplaced]; split <;> rfl
    next hother =>
      split
      · exact lookup_cons_eq (name, t) (entry :: rest) name'
      · rw [lookup_cons_eq, ih, lookup_cons_eq]
        by_cases h : name' = name
        · subst h
          simp [Ne.symm hother]
        · simp [h]

/-- Below a leaf there is nothing. -/
theorem node?_cons_of_leaf {t : Tree} (hleaf : t.names = []) (name : Bytes) (rest : Location) :
    t.node? (name :: rest) = none := by
  cases t with
  | file content => rfl
  | directory entries =>
    obtain rfl : entries = [] := by simpa [names] using hleaf
    rfl

/-- A leaf that is put where no directory is changes what is at this location, and nothing else. -/
theorem node?_put {t new : Tree} {above : Location} {name : Bytes}
    (habove : t.node? above = some .directory)
    (hold : t.node? (above ++ [name]) ≠ some .directory) (hleaf : new.names = [])
    (location : Location) :
    (t.put new (above ++ [name])).node? location =
      if location = above ++ [name] then some new.node else t.node? location := by
  obtain ⟨entries, rfl⟩ := eq_directory_of_node? habove
  -- down the way to the directory in which the leaf is put, as `put` goes
  induction above generalizing entries location with
  | nil =>
    have hput : (directory entries).put new [name] = directory (insertEntry name new entries) := by
      cases hlookup : entries.lookup name <;> simp [put, hlookup]
    rw [List.nil_append, hput]
    rcases location with _ | ⟨name', rest⟩
    · rfl
    rw [node?_directory_cons, node?_directory_cons, lookup_insertEntry]
    by_cases hname : name' = name
    · subst hname
      rcases rest with _ | ⟨name'', rest⟩
      · simp [node?, at?]
      · -- neither the leaf nor what was there has anything below
        have hnone : (directory entries).node? ([name'] ++ name'' :: rest) = none := by
          by_contra hsome
          exact hold (node?_append hsome (List.cons_ne_nil name'' rest))
        rw [List.singleton_append, node?_directory_cons] at hnone
        simp [hnone, node?_cons_of_leaf hleaf]
    · simp [hname]
  | cons first above ih =>
    rw [node?_directory_cons] at habove
    obtain ⟨c, hfirst, hbelow⟩ := Option.bind_eq_some_iff.1 habove
    obtain ⟨inner, rfl⟩ := eq_directory_of_node? hbelow
    rw [List.cons_append, node?_directory_cons, hfirst, Option.bind_some] at hold
    have hput : (directory entries).put new (first :: above ++ [name]) =
        directory (insertEntry first ((directory inner).put new (above ++ [name])) entries) := by
      rw [List.cons_append]
      simp [put, hfirst]
    rw [hput]
    rcases location with _ | ⟨name', rest⟩
    · rfl
    rw [node?_directory_cons, node?_directory_cons, lookup_insertEntry]
    by_cases hname : name' = first
    · subst hname
      simp [hfirst, ih rest inner hbelow hold]
    · simp [hname]

/-! ### Height -/

/-- No location of a tree is longer than its height. -/
theorem exists_height (t : Tree) :
    ∃ height, ∀ location, t.node? location ≠ none → location.length ≤ height := by
  -- each name leads to a tree that is part of the one before, so it is smaller
  refine ⟨sizeOf t, fun location h => ?_⟩
  induction location generalizing t with
  | nil => exact Nat.zero_le _
  | cons name rest ih =>
    have hroot : t.node? [] = some .directory := node?_append h (List.cons_ne_nil name rest)
    obtain ⟨entries, rfl⟩ := eq_directory_of_node? hroot
    rw [node?_directory_cons] at h
    obtain ⟨c, hchild⟩ : ∃ c, entries.lookup name = some c := by
      rw [← Option.ne_none_iff_exists']
      rintro hnone
      simp [hnone] at h
    have hrest : rest.length ≤ sizeOf c := ih c (by simpa [hchild] using h)
    -- the entry is part of the directory
    have hmem : (name, c) ∈ entries := by
      obtain ⟨before, after, rfl, -⟩ := List.lookup_eq_some_iff.1 hchild
      simp
    have hsize := List.sizeOf_lt_of_mem hmem
    simp only [Prod.mk.sizeOf_spec] at hsize
    simp only [directory.sizeOf_spec, List.length_cons]
    omega

end Tree

end ContainerBuild
