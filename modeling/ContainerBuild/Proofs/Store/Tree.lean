import ContainerBuild.Proofs.Store.Copying

/-!
# Stores that are trees

Entries are stored under their whole paths, so nothing keeps an entry from lying below a file. An
entry that is written leaves a tree if there is room for it: no file is where a directory has to be,
and nothing is below what becomes a file. A directory that is copied leaves one if it can be merged
into the target, with every directory of the source where no file is.

* `Memory.IsTree` — nothing is stored below a file.
* `Memory.HasRoom`, `Memory.Wrote.isTree`, `Memory.Wrote.hasRoom` — an entry for which there is room
  keeps a tree, and only such an entry does.
* `Memory.Mergeable`, `Memory.Grows.isTree_of_copies` — so does a copy of a directory that can be
  merged.
-/

namespace ContainerBuild.Memory

open ContainerBuild.Path (Component)

/-- Nothing is stored strictly below a file. -/
def IsTree (m : Memory) : Prop :=
  ∀ place content, m.lookup place = some (.file content) →
    ∀ below, place <+: below → below ≠ place → m.lookup below = none

/-- No file is stored at the place: a directory is, or nothing. -/
def NoFile (m : Memory) (place : List Component) : Prop :=
  ∀ content, m.lookup place ≠ some (.file content)

/-- There is room for an entry: no file is where a directory has to be, and nothing is stored below
what becomes a file. -/
structure HasRoom (m : Memory) (own : List Component) (e : MemoryEntry) : Prop where
  /-- The place without components is never that of a directory. -/
  named : e = .directory → own ≠ []
  /-- Above the entry there are no files, and none at its place if it is a directory. -/
  above : ∀ above, above <+: own → (above = own → e = .directory) → m.NoFile above
  /-- Nothing is stored strictly below a file. -/
  below : e ≠ .directory → ∀ below, own <+: below → below ≠ own → m.lookup below = none

/-- A directory can be merged into another: no file is where one of its directories goes, nor on
the way there. -/
structure Mergeable (m : Memory) (source target : List Component) : Prop where
  /-- There are no files at the target and above it. -/
  above : ∀ above, above <+: target → m.NoFile above
  /-- There are no files where the directories go. -/
  inside : ∀ rest, m.lookup (source ++ rest) = some .directory → m.NoFile (target ++ rest)

/-! ### Files in the way -/

/-- A directory could be created where no file is. -/
theorem noFile_iff {m : Memory} {place : List Component} :
    m.NoFile place ↔ (m.lookup place).getD .directory = .directory := by
  unfold NoFile
  rcases m.lookup place with _ | content | _ <;> simp

theorem noFile_of_directory {m : Memory} {place : List Component}
    (h : m.lookup place = some .directory) : m.NoFile place := by
  rw [noFile_iff, h]
  rfl

/-- In a closed tree, nothing lies below a place at which no directory is stored. -/
theorem IsTree.lookup_below {m : Memory} (htree : m.IsTree) (hclosed : m.Closed)
    {place below : List Component} (hplace : place ≠ []) (hno : m.lookup place ≠ some .directory)
    (hbelow : place <+: below) (hne : below ≠ place) : m.lookup below = none := by
  by_contra hsome
  cases hlookup : m.lookup place with
  | none => exact hclosed below hsome place hbelow hplace hlookup
  | some old =>
    cases old with
    | directory => exact hno hlookup
    | file content => exact hsome (htree place content hlookup below hbelow hne)

/-- In a tree there are no files above what is stored, and none at the place of a directory. -/
theorem IsTree.noFile_above {m : Memory} (htree : m.IsTree) {own above : List Component}
    {e : MemoryEntry} (hown : m.lookup own = some e) (habove : above <+: own)
    (hat : above = own → e = .directory) : m.NoFile above := by
  intro content hfile
  by_cases hsame : own = above
  · rw [hsame, hfile, hat hsame.symm] at hown
    cases hown
  · rw [htree above content hfile own habove hsame] at hown
    cases hown

/-- Where no file is after a store has grown, none was before. -/
theorem Grows.noFile_before {may : List Component → MemoryEntry → Prop} {m m' : Memory}
    (h : Grows may m m') {place : List Component} (hplace : m'.NoFile place) : m.NoFile place := by
  intro content hfile
  obtain ⟨e, he, hkind⟩ := h.kept hfile
  cases e with
  | directory => cases hkind.2 rfl
  | file content' => exact hplace content' he

/-! ### Writing one entry -/

section Wrote

variable {own : List Component} {e : MemoryEntry} {m m' : Memory}

/-- Only where a file is written a file may be new. -/
theorem Wrote.noFile_iff (h : Wrote own e m m') {place : List Component}
    (hplace : place = own → e = .directory) : m'.NoFile place ↔ m.NoFile place :=
  forall_congr' fun _ => not_congr (h.file_iff hplace)

/-- Writing an entry keeps a tree if there is room for the entry. -/
theorem Wrote.isTree (h : Wrote own e m m') (htree : m.IsTree) (hroom : m.HasRoom own e) :
    m'.IsTree := by
  intro place content hfile below hbelow hne
  by_cases hown : place = own ∧ e ≠ .directory
  · -- the file is new, and below it there was nothing
    obtain ⟨rfl, he⟩ := hown
    have hway : ¬below <+: place := fun hway => hne (hway.eq_of_length_le hbelow.length_le)
    rw [h.lookup_of_not_prefix hway]
    exact hroom.below he below hbelow hne
  · rw [not_and_not_right] at hown
    -- no file is on the way to the entry, so the file lies elsewhere, with everything below it
    have hway : ¬place <+: own := fun hway =>
      (h.noFile_iff hown).2 (hroom.above place hway hown) content hfile
    rw [h.lookup_of_not_prefix hway] at hfile
    rw [h.lookup_of_not_prefix fun hway' => hway (hbelow.trans hway')]
    exact htree place content hfile below hbelow hne

/-- A directory that was created is there if there was room for it. -/
theorem Wrote.lookup_directory (h : Wrote own .directory m m') (hroom : m.HasRoom own .directory) :
    m'.lookup own = some .directory := by
  have hnone : m.NoFile own := hroom.above own List.prefix_rfl fun _ => rfl
  rw [h.lookup_eq, if_neg (by simp), if_pos ⟨List.prefix_rfl, hroom.named rfl⟩,
    Memory.noFile_iff.1 hnone]

/-- There was room for an entry that was written if it is there and the store is a tree. -/
theorem Wrote.hasRoom (h : Wrote own e m m') (htree : m'.IsTree) (hnamed : e = .directory → own ≠ [])
    (hown : m'.lookup own = some e) : m.HasRoom own e where
  named := hnamed
  above := by
    intro above habove hat
    rw [← h.noFile_iff hat]
    exact htree.noFile_above hown habove hat
  below := by
    intro he below hbelow hne
    cases e with
    | directory => exact absurd rfl he
    | file content =>
      -- what is below the file now was there before
      have hway : ¬below <+: own := fun hway => hne (hway.eq_of_length_le hbelow.length_le)
      rw [← h.lookup_of_not_prefix hway]
      exact htree own content hown below hbelow hne

end Wrote

/-! ### Merging a directory into another -/

/-- A directory can be merged into another also once the other was created. -/
theorem Wrote.mergeable {source target : List Component} {m m' : Memory}
    (h : Wrote target .directory m m') (hclosed : m.Closed) (hsource : source ≠ [])
    (hmerge : m.Mergeable source target) : m'.Mergeable source target where
  above := by
    intro above habove
    rw [h.noFile_iff fun _ => rfl]
    exact hmerge.above above habove
  inside := by
    intro rest hdirectory
    rw [h.noFile_iff fun _ => rfl]
    cases hold : m.lookup (source ++ rest) with
    | some old =>
      -- what was stored is still what it was
      rw [h.lookup_eq, hold, if_neg (by simp)] at hdirectory
      refine hmerge.inside rest ?_
      rw [hold]
      simpa using hdirectory
    | none =>
      -- the directory is new, so it is on the way to the target, and below it there was nothing
      have hway : source ++ rest <+: target := by
        by_contra hway
        rw [h.lookup_of_not_prefix hway, hold] at hdirectory
        cases hdirectory
      intro content hfile
      exact hclosed (target ++ rest) (by simp [hfile]) _ (hway.trans (List.prefix_append ..))
        (by simp [hsource]) hold

/-- What a copy of a directory puts where: what is stored below the source goes to the same place
below the target, with directories above it. -/
def Copies (m : Memory) (source target : List Component) (place : List Component)
    (put : MemoryEntry) : Prop :=
  ∃ rest e, rest ≠ [] ∧ m.lookup (source ++ rest) = some e ∧ Writes (target ++ rest) e place put

section Copies

variable {source target : List Component} {m m' : Memory}

/-- A file after a copy was one before, or is the copy of one. -/
theorem Grows.file_of_copies (h : Grows (Copies m source target) m m') {place : List Component}
    {content : String} (hfile : m'.lookup place = some (.file content)) :
    (∃ old, m.lookup place = some (.file old)) ∨
      m.lookup place = none ∧ ∃ rest, rest ≠ [] ∧ place = target ++ rest ∧
        m.lookup (source ++ rest) = some (.file content) := by
  by_cases hchanged : m'.lookup place = m.lookup place
  · exact .inl ⟨content, hchanged ▸ hfile⟩
  · obtain ⟨e, ⟨rest, e', hrest, hstored, hwrites⟩, he, hkind⟩ := h.changed place hchanged
    rw [hfile, Option.some.injEq] at he
    subst he
    rcases hold : m.lookup place with _ | old | _
    · -- a new file was put at its own place, and not as a directory on the way to another
      refine .inr ⟨rfl, rest, hrest, ?_⟩
      rcases hwrites with ⟨hplace, rfl⟩ | ⟨-, hput⟩
      · exact ⟨hplace, hstored⟩
      · cases hput
    · exact .inl ⟨old, rfl⟩
    · cases (hkind _ hold).1 rfl

/-- What is stored after a copy was stored before, or is on the way to what was copied. -/
theorem Grows.stored_of_copies (h : Grows (Copies m source target) m m') {place : List Component}
    (hsome : m'.lookup place ≠ none) :
    m.lookup place ≠ none ∨
      ∃ rest, rest ≠ [] ∧ m.lookup (source ++ rest) ≠ none ∧ place <+: target ++ rest := by
  by_cases hchanged : m'.lookup place = m.lookup place
  · exact .inl (hchanged ▸ hsome)
  · obtain ⟨_, ⟨rest, e, hrest, hstored, hwrites⟩, -, -⟩ := h.changed place hchanged
    refine .inr ⟨rest, hrest, by simp [hstored], ?_⟩
    rcases hwrites with ⟨rfl, -⟩ | ⟨hway, -⟩
    · exact List.prefix_rfl
    · exact hway

/-- No file of the store lies above the place to which something is copied. -/
theorem Mergeable.noFile_above (hmerge : m.Mergeable source target) (htree : m.IsTree)
    (hclosed : m.Closed) (hsource : source ≠ []) {place rest : List Component}
    (hstored : m.lookup (source ++ rest) ≠ none) (hplace : place <+: target ++ rest)
    (hne : place ≠ target ++ rest) : m.NoFile place := by
  rcases List.prefix_or_prefix_of_prefix hplace (List.prefix_append target rest) with
    habove | ⟨inner, rfl⟩
  · exact hmerge.above place habove
  · -- what lies at the same place below the source has something below it, so it is a directory
    rw [List.prefix_append_right_inj] at hplace
    apply hmerge.inside inner
    by_contra hno
    refine hstored (htree.lookup_below hclosed (by simp [hsource]) hno
      ((List.prefix_append_right_inj source).2 hplace) fun heq => hne ?_)
    rw [List.append_cancel_left heq]

/-- A copy keeps a tree if one directory can be merged into the other. -/
theorem Grows.isTree_of_copies (h : Grows (Copies m source target) m m') (htree : m.IsTree)
    (hclosed : m.Closed) (hsource : source ≠ []) (hmerge : m.Mergeable source target) :
    m'.IsTree := by
  intro place content hfile below hbelow hne
  by_contra hsome
  -- the file and what is below it may each be old or new
  rcases h.file_of_copies hfile with ⟨old, hold⟩ | ⟨hnew, rest, hrest, rfl, hcopied⟩
  · rcases h.stored_of_copies hsome with hstored | ⟨rest, -, hstored, hway⟩
    · exact hstored (htree place old hold below hbelow hne)
    · -- an old file would be in the way of what was copied
      have hshort : place ≠ target ++ rest := by
        rintro rfl
        exact hne (hway.eq_of_length_le hbelow.length_le)
      exact hmerge.noFile_above htree hclosed hsource hstored (hbelow.trans hway) hshort old hold
  · rcases h.stored_of_copies hsome with hstored | ⟨rest', -, hstored, hway⟩
    · exact hclosed below hstored _ hbelow (by simp [hrest]) hnew
    · -- the file that was copied would have something below it
      have hinner : rest <+: rest' := (List.prefix_append_right_inj target).1 (hbelow.trans hway)
      refine hstored (htree _ content hcopied _ ((List.prefix_append_right_inj source).2 hinner) ?_)
      intro heq
      rw [List.append_cancel_left heq] at hway
      exact hne (hway.eq_of_length_le hbelow.length_le)

/-- What is stored after a copy where a directory goes is a directory. -/
theorem Grows.directory_of_copies (h : Grows (Copies m source target) m m')
    (hmerge : m.Mergeable source target) {rest : List Component}
    (hdirectory : m.lookup (source ++ rest) = some .directory)
    (hsome : m'.lookup (target ++ rest) ≠ none) :
    m'.lookup (target ++ rest) = some .directory := by
  rcases hlookup : m'.lookup (target ++ rest) with _ | content | _
  · exact absurd hlookup hsome
  · -- an old file would be in the way, and a new one is no copy of a directory
    rcases h.file_of_copies hlookup with ⟨old, hold⟩ | ⟨-, rest', -, heq, hcopied⟩
    · exact absurd hold (hmerge.inside rest hdirectory old)
    · rw [← List.append_cancel_left heq, hdirectory] at hcopied
      cases hcopied
  · rfl

end Copies

end ContainerBuild.Memory
