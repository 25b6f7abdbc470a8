import ContainerBuild.Proofs.Path.Order
import ContainerBuild.Store.Memory

/-!
# The entries of a store

The entries of a store are sorted by the components of their paths, and no two have the same. An
entry is inserted at its place and changes what is stored there and nowhere else. So the entries in
a part of the store are those that would be there if the store held nothing else.

* `Memory.lookup_put` — what is stored after an entry was put at a path.
* `Memory.ensureDirectory_cases` — a directory is put only where nothing is stored.
* `Memory.Sorted`, `Memory.Sorted.put` — the entries are sorted, and stay so.
* `Memory.filter_insert_of_keep`, `Memory.filter_insert_of_drop` — what inserting does to a part of
  the entries.
-/

namespace ContainerBuild.Memory

open ContainerBuild.Path (Component componentsBefore)

/-! ### What is stored -/

/-- After an insertion, the first entry at a place is the one that was put there, or the one that
was there. -/
theorem find?_insert (p : Path) (e : MemoryEntry) (entries : List (Path × MemoryEntry))
    (place : List Component) :
    ((insert p e entries).find? fun stored => stored.1.components == place).map (·.2) =
      if p.components = place then some e
      else (entries.find? fun stored => stored.1.components == place).map (·.2) := by
  induction entries with
  | nil => by_cases h : p.components = place <;> simp [insert, h]
  | cons first rest ih =>
    unfold insert
    by_cases hsame : first.1.components = p.components
    · rw [if_pos hsame]
      by_cases h : p.components = place <;> simp [hsame, h]
    · rw [if_neg hsame]
      split
      · by_cases h : p.components = place <;> simp [h]
      · -- the insertion goes on behind an entry at another place
        by_cases hfirst : first.1.components = place
        · have hne : p.components ≠ place := fun h => hsame (hfirst.trans h.symm)
          simp [hfirst, hne]
        · simpa [hfirst] using ih

/-- Putting an entry changes what is stored at its path and nowhere else. -/
theorem lookup_put (m : Memory) (p : Path) (e : MemoryEntry) (place : List Component) :
    (m.put p e).lookup place = if p.components = place then some e else m.lookup place :=
  find?_insert p e m.entries place

/-- A directory is put only where nothing is stored. -/
theorem ensureDirectory_cases (m : Memory) (place : List Component) :
    m.ensureDirectory place = m ∨
      m.lookup place = none ∧
        m.ensureDirectory place = m.put (.ofComponents place) .directory := by
  unfold ensureDirectory
  cases hlookup : m.lookup place with
  | some e => exact .inl rfl
  | none => exact .inr ⟨rfl, rfl⟩

/-! ### Sorted entries -/

/-- The entries are sorted by the components of their paths, which are all different. -/
def IsSorted (entries : List (Path × MemoryEntry)) : Prop :=
  entries.Pairwise fun a b => componentsBefore a.1.components b.1.components = true

/-- The store's entries are sorted. -/
def Sorted (m : Memory) : Prop := IsSorted m.entries

/-- The entries after an insertion are at the place of the insertion, or where one was before. -/
theorem components_mem_insert {p : Path} {e : MemoryEntry} {entries : List (Path × MemoryEntry)}
    {stored : Path × MemoryEntry} (h : stored ∈ insert p e entries) :
    stored.1.components = p.components ∨ ∃ other ∈ entries, other.1 = stored.1 := by
  induction entries with
  | nil =>
    left
    rw [insert, List.mem_singleton] at h
    rw [h]
  | cons first rest ih =>
    unfold insert at h
    split at h
    · -- the first entry is replaced and keeps its path
      rcases List.mem_cons.1 h with rfl | hrest
      · exact .inr ⟨first, List.mem_cons_self, rfl⟩
      · exact .inr ⟨stored, List.mem_cons_of_mem _ hrest, rfl⟩
    · split at h
      · rcases List.mem_cons.1 h with rfl | hrest
        · exact .inl rfl
        · exact .inr ⟨stored, hrest, rfl⟩
      · rcases List.mem_cons.1 h with rfl | hrest
        · exact .inr ⟨stored, List.mem_cons_self, rfl⟩
        · rcases ih hrest with hplace | ⟨other, hother, heq⟩
          · exact .inl hplace
          · exact .inr ⟨other, List.mem_cons_of_mem _ hother, heq⟩

/-- What comes before the first of sorted entries comes before all of them. -/
theorem IsSorted.before_of_before {p : Path} {first : Path × MemoryEntry}
    {rest : List (Path × MemoryEntry)} (h : IsSorted (first :: rest))
    (hp : componentsBefore p.components first.1.components = true) :
    ∀ stored ∈ first :: rest, componentsBefore p.components stored.1.components = true := by
  intro stored hstored
  rcases List.mem_cons.1 hstored with rfl | hrest
  · exact hp
  · exact Path.componentsBefore_trans hp ((List.pairwise_cons.1 h).1 stored hrest)

/-- An insertion keeps entries sorted. -/
theorem IsSorted.insert {entries : List (Path × MemoryEntry)} (h : IsSorted entries) (p : Path)
    (e : MemoryEntry) : IsSorted (insert p e entries) := by
  induction entries with
  | nil => exact List.pairwise_singleton ..
  | cons first rest ih =>
    have hcons := List.pairwise_cons.1 h
    unfold Memory.insert
    split
    · exact List.pairwise_cons.2 hcons
    next hne =>
      split
      next hbefore => exact List.pairwise_cons.2 ⟨h.before_of_before hbefore, h⟩
      next hbehind =>
        refine List.pairwise_cons.2 ⟨fun stored hstored => ?_, ih hcons.2⟩
        rcases components_mem_insert hstored with hplace | ⟨other, hother, heq⟩
        · -- the first entry is neither at the place nor behind it
          rw [hplace]
          by_contra hafter
          exact hne (Path.componentsBefore_total hafter hbehind)
        · rw [← heq]
          exact hcons.1 other hother

/-- An entry that comes before all others is inserted in front of them. -/
theorem insert_of_before {p : Path} {e : MemoryEntry} {entries : List (Path × MemoryEntry)}
    (h : ∀ stored ∈ entries, componentsBefore p.components stored.1.components = true) :
    insert p e entries = (p, e) :: entries := by
  cases entries with
  | nil => rfl
  | cons first rest =>
    have hbefore := h first List.mem_cons_self
    have hne : first.1.components ≠ p.components := by
      intro heq
      rw [heq] at hbefore
      exact Path.componentsBefore_irrefl _ hbefore
    rw [insert, if_neg hne, if_pos hbefore]

variable {entries : List (Path × MemoryEntry)} {p : Path} (keep : List Component → Bool)

/-- Inserting outside a part of the entries leaves that part. -/
theorem filter_insert_of_drop (e : MemoryEntry) (hp : keep p.components = false) :
    (insert p e entries).filter (fun stored => keep stored.1.components) =
      entries.filter fun stored => keep stored.1.components := by
  induction entries with
  | nil => simp [insert, hp]
  | cons first rest ih =>
    unfold insert
    split
    next heq => simp [heq, hp]
    next =>
      split
      · simp [hp]
      · simp only [List.filter_cons, ih]

/-- Inserting in a part of sorted entries inserts in that part as if there were no others. -/
theorem filter_insert_of_keep (hsorted : IsSorted entries) (e : MemoryEntry)
    (hp : keep p.components = true) :
    (insert p e entries).filter (fun stored => keep stored.1.components) =
      insert p e (entries.filter fun stored => keep stored.1.components) := by
  induction entries with
  | nil => simp [insert, hp]
  | cons first rest ih =>
    have hrest := (List.pairwise_cons.1 hsorted).2
    by_cases heq : first.1.components = p.components
    · simp [insert, heq, hp]
    · by_cases hbefore : componentsBefore p.components first.1.components = true
      · -- the entry comes before all others, also among those of the part
        have hall := hsorted.before_of_before hbefore
        rw [insert_of_before hall, insert_of_before fun stored hstored =>
          hall stored (List.mem_of_mem_filter hstored), List.filter_cons_of_pos (by exact hp)]
      · rw [insert, if_neg heq, if_neg hbefore, List.filter_cons, List.filter_cons, ih hrest]
        split
        · rw [insert, if_neg heq, if_neg hbefore]
        · rfl

/-- Putting an entry keeps a store sorted. -/
theorem Sorted.put {m : Memory} (h : m.Sorted) (p : Path) (e : MemoryEntry) : (m.put p e).Sorted :=
  IsSorted.insert h p e

end ContainerBuild.Memory
