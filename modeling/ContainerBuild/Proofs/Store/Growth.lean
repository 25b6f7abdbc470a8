import ContainerBuild.Proofs.Store.Agreement

/-!
# What writing stores

Writing an entry puts it at its place, creates the directories above it that are missing, and leaves
everything else. A directory is created where it is missing too, so a store only grows: what is
stored stays a file or stays a directory, and only files are replaced, by files. A file that is
stored without asking is the exception; it replaces what is there.

* `Memory.lookup_ensureDirectories`, `Memory.Wrote` — what is stored after an entry was written.
* `Memory.writeEntry_cases` — an entry is refused and nothing changes, or it is written.
* `Memory.Closed` — with every path, the non-empty beginnings of it are stored.
* `Memory.Grows` — how a store may change by writing at some places.
* `Memory.writeEntry_grows`, `Memory.writeAll_grows`, `Memory.copyDir_grows` — the operations grow a
  store where they may write.
-/

namespace ContainerBuild.Memory

open ContainerBuild.Path (Component)

/-! ### Directories on the way -/

/-- A directory is created where nothing is stored. -/
theorem lookup_ensureDirectory (m : Memory) {way : List Component}
    (hspelled : (Path.ofComponents way).components = way) (place : List Component) :
    (m.ensureDirectory way).lookup place =
      if place = way then some ((m.lookup place).getD .directory) else m.lookup place := by
  rcases m.ensureDirectory_cases way with hsame | ⟨hnone, hput⟩
  · -- something is stored there already, or nothing would be the same
    rw [hsame]
    split
    next hplace =>
      subst hplace
      unfold ensureDirectory at hsame
      split at hsame
      next hsome =>
        obtain ⟨e, he⟩ := Option.isSome_iff_exists.1 hsome
        rw [he]
        rfl
      next =>
        rw [← hsame, lookup_put, if_pos hspelled]
        rfl
    next => rfl
  · rw [hput, lookup_put, hspelled]
    by_cases hplace : place = way
    · rw [if_pos hplace, if_pos hplace.symm, hplace, hnone]
      rfl
    · rw [if_neg hplace, if_neg (Ne.symm hplace)]

/-- The beginnings of a list that are one element longer than another. -/
theorem prefix_take_succ {l way : List Component} {k : Nat} (hk : k < way.length) :
    l <+: way.take (k + 1) ↔ l = way.take (k + 1) ∨ l <+: way.take k := by
  rw [List.take_succ_eq_append_getElem hk, List.prefix_concat_iff]

/-- Directories are created on the way where nothing is stored. -/
theorem lookup_ensureDirectories (m : Memory) {way : List Component} {p : Path}
    (hway : way <+: p.components) (place : List Component) :
    (m.ensureDirectories way).lookup place =
      if place <+: way ∧ place ≠ [] then some ((m.lookup place).getD .directory)
      else m.lookup place := by
  -- after `k` steps the first `k` beginnings are there
  have hsteps : ∀ k ≤ way.length,
      ((List.range k).foldl (fun m n => m.ensureDirectory (way.take (n + 1))) m).lookup place =
        if place <+: way.take k ∧ place ≠ [] then some ((m.lookup place).getD .directory)
        else m.lookup place := by
    intro k hk
    induction k with
    | zero => simp
    | succ k ih =>
      have hspelled := Path.components_ofComponents ((List.take_prefix (k + 1) way).trans hway)
      have hne : way.take (k + 1) ≠ [] := by
        rw [List.take_succ_eq_append_getElem hk]
        exact List.concat_ne_nil _ _
      rw [List.range_succ, List.foldl_append, List.foldl_cons, List.foldl_nil,
        lookup_ensureDirectory _ hspelled, ih (Nat.le_of_succ_le hk)]
      -- step `k + 1` looks at one beginning only, the longest so far
      by_cases hplace : place = way.take (k + 1)
      · rw [if_pos hplace, if_pos (c := place <+: way.take (k + 1) ∧ place ≠ [])
          ⟨hplace ▸ List.prefix_rfl, hplace ▸ hne⟩]
        split <;> simp
      · rw [if_neg hplace]
        refine if_congr ?_ rfl rfl
        rw [prefix_take_succ hk]
        simp [hplace]
  have hall := hsteps way.length le_rfl
  rw [List.take_length] at hall
  exact hall

/-! ### Writing an entry -/

/-- What is read at a path is the file that is stored where the path is located. -/
theorem readText_eq_ok_iff {m : Memory} {p : Path} {content : String} :
    m.readText p = .ok content ↔ m.lookup (m.locate p).components = some (.file content) := by
  rw [readText]
  rcases m.lookup (m.locate p).components with _ | content' | _ <;> simp

/-- The store holds what it held before, an entry at its own place, and directories above it where
nothing was stored. -/
structure Wrote (own : List Component) (e : MemoryEntry) (m m' : Memory) : Prop where
  /-- Paths are seen from the same root. -/
  root_eq : m'.root = m.root
  /-- The same paths are denied. -/
  denied_eq : m'.denied = m.denied
  /-- Sorted entries are still sorted. -/
  sorted : m.Sorted → m'.Sorted
  /-- A file replaces what is there, and a directory does not. -/
  lookup_eq : ∀ place, m'.lookup place =
    if place = own ∧ e ≠ .directory then some e
    else if place <+: own ∧ place ≠ [] then some ((m.lookup place).getD .directory)
    else m.lookup place

/-- What does not lie above an entry that is written, nor at its place, stays as it is. -/
theorem Wrote.lookup_of_not_prefix {own : List Component} {e : MemoryEntry} {m m' : Memory}
    (h : Wrote own e m m') {place : List Component} (hplace : ¬place <+: own) :
    m'.lookup place = m.lookup place := by
  rw [h.lookup_eq, if_neg (c := place = own ∧ _) fun hat => hplace (hat.1 ▸ List.prefix_rfl),
    if_neg (c := place <+: own ∧ _) fun hat => hplace hat.1]

/-- Only where a file is written the files may change. -/
theorem Wrote.file_iff {own : List Component} {e : MemoryEntry} {m m' : Memory}
    (h : Wrote own e m m') {place : List Component} (hplace : place = own → e = .directory)
    {content : String} :
    m'.lookup place = some (.file content) ↔ m.lookup place = some (.file content) := by
  rw [h.lookup_eq, if_neg fun hat => hat.2 (hplace hat.1)]
  split
  · cases m.lookup place <;> simp
  · rfl

theorem ensureDirectories_sorted {m : Memory} (h : m.Sorted) (way : List Component) :
    (m.ensureDirectories way).Sorted := by
  refine List.foldlRecOn _ _ (motive := Sorted) h fun m hm n _ => ?_
  rcases m.ensureDirectory_cases (way.take (n + 1)) with hsame | ⟨-, hput⟩
  · rwa [hsame]
  · rw [hput]
    exact hm.put _ _

theorem ensureDirectories_root_denied (m : Memory) (way : List Component) :
    (m.ensureDirectories way).root = m.root ∧ (m.ensureDirectories way).denied = m.denied := by
  refine List.foldlRecOn _ _ (motive := fun m' : Memory => m'.root = m.root ∧ m'.denied = m.denied)
    ⟨rfl, rfl⟩ fun m' h n _ => ?_
  rcases m'.ensureDirectory_cases (way.take (n + 1)) with hsame | ⟨-, hput⟩
  · rwa [hsame]
  · rw [hput]
    exact h

theorem ensureDirectories_wrote (m : Memory) (p : Path) :
    Wrote p.components .directory m (m.ensureDirectories p.components) where
  root_eq := (m.ensureDirectories_root_denied _).1
  denied_eq := (m.ensureDirectories_root_denied _).2
  sorted := fun h => ensureDirectories_sorted h _
  lookup_eq := by
    intro place
    rw [lookup_ensureDirectories m List.prefix_rfl]
    simp

/-- The beginnings of a list that are shorter than it. -/
theorem prefix_dropLast_iff {l way : List Component} (hl : l ≠ []) :
    l <+: way.dropLast ↔ l <+: way ∧ l ≠ way := by
  rcases List.eq_nil_or_concat way with rfl | ⟨before, last, rfl⟩
  · simp [hl]
  · rw [List.concat_eq_append, List.dropLast_concat, List.prefix_concat_iff]
    constructor
    · intro hstart
      refine ⟨.inr hstart, ?_⟩
      rintro rfl
      exact absurd hstart.length_le (by simp)
    · rintro ⟨rfl | hstart, hne⟩
      · exact absurd rfl hne
      · exact hstart

theorem addFile_wrote (m : Memory) (p : Path) (content : String) :
    Wrote (m.locate p).components (.file content) m (m.addFile p content) where
  root_eq := (m.ensureDirectories_root_denied _).1
  denied_eq := (m.ensureDirectories_root_denied _).2
  sorted := fun h => (ensureDirectories_sorted h _).put _ _
  lookup_eq := by
    intro place
    show ((m.ensureDirectories _).put (m.locate p) (.file content)).lookup place = _
    -- directories are created first, but not at the place itself, where the file goes
    rw [lookup_put, lookup_ensureDirectories m (List.dropLast_prefix (m.locate p).components)]
    by_cases hown : (m.locate p).components = place
    · simp [hown]
    · rw [if_neg hown, if_neg (c := place = (m.locate p).components ∧ _) fun h => hown h.1.symm]
      refine if_congr (and_congr_left fun hne => ?_) rfl rfl
      rw [prefix_dropLast_iff hne]
      exact and_iff_left (Ne.symm hown)

/-- Where an entry is stored that is written at a path. A file is stored at the path that was
located already, and so is seen from the root once more. -/
def entryPlace (m : Memory) (p : Path) : MemoryEntry → List Component
  | .file _ => (m.locate (m.locate p)).components
  | .directory => (m.locate p).components

/-- An entry at a path that settles is stored where the path is located. -/
theorem Settles.entryPlace_eq {m : Memory} {p : Path} (h : m.Settles p) (e : MemoryEntry) :
    m.entryPlace p e = (m.locate p).components := by
  cases e with
  | file content => exact h
  | directory => rfl

/-- An entry is refused and nothing changes, or it is written where nothing is denied, and not as a
file in place of a directory. -/
theorem writeEntry_cases (m : Memory) (p : Path) (e : MemoryEntry) :
    (∃ fault, m.writeEntry p e = (.error fault, m)) ∨
      (m.writeEntry p e).1 = .ok () ∧ m.isDenied (m.locate p) = false ∧
        (e ≠ .directory → m.lookup (m.entryPlace p e) ≠ some .directory) ∧
          Wrote (m.entryPlace p e) e m (m.writeEntry p e).2 := by
  cases e with
  | directory =>
    rw [writeEntry, createDirAll]
    split
    next => exact .inl ⟨_, rfl⟩
    next hdenied =>
      exact .inr ⟨rfl, by simpa using hdenied, fun h => absurd rfl h, m.ensureDirectories_wrote _⟩
  | file content =>
    -- what is denied is looked up where the path is located, and the file is stored where that is
    rw [writeEntry, writeText]
    split
    next => exact .inl ⟨_, rfl⟩
    next hdenied =>
      split
      next => exact .inl ⟨_, rfl⟩
      next hthere =>
        refine .inr ⟨rfl, by simpa using hdenied, fun _ => ?_, m.addFile_wrote _ _⟩
        simpa [isDirectory, entryPlace] using hthere

/-- An entry that is not refused is written. -/
theorem wrote_of_writeEntry {m m' : Memory} {p : Path} {e : MemoryEntry}
    (h : m.writeEntry p e = (.ok (), m')) : Wrote (m.entryPlace p e) e m m' := by
  rcases m.writeEntry_cases p e with ⟨fault, hrefused⟩ | ⟨-, -, -, hwrote⟩
  · rw [hrefused] at h
    cases h
  · rwa [h] at hwrote

/-! ### Closed stores -/

/-- With every path, the non-empty beginnings of it are stored. -/
def Closed (m : Memory) : Prop :=
  ∀ place, m.lookup place ≠ none → ∀ above, above <+: place → above ≠ [] → m.lookup above ≠ none

theorem Wrote.closed {own : List Component} {e : MemoryEntry} {m m' : Memory}
    (h : Wrote own e m m') (hclosed : m.Closed) : m'.Closed := by
  -- what was stored still is, and so is everything above the place of the entry
  have hkept {place : List Component} (hsome : m.lookup place ≠ none) : m'.lookup place ≠ none := by
    rw [h.lookup_eq]
    split_ifs
    · exact Option.some_ne_none _
    · exact Option.some_ne_none _
    · exact hsome
  have habove {place : List Component} (hstart : place <+: own) (hne : place ≠ []) :
      m'.lookup place ≠ none := by
    rw [h.lookup_eq]
    split_ifs with hown habove
    · exact Option.some_ne_none _
    · exact Option.some_ne_none _
    · exact absurd ⟨hstart, hne⟩ habove
  intro place hplace above hstart hne
  -- a place that is not on the way to the entry was stored before
  by_cases hown : place <+: own
  · exact habove (hstart.trans hown) hne
  · rw [h.lookup_of_not_prefix hown] at hplace
    exact hkept (hclosed place hplace above hstart hne)

/-! ### Growth -/

/-- How a store may change by writing: entries are put where they may, and nothing else changes. -/
structure Grows (may : List Component → MemoryEntry → Prop) (m m' : Memory) : Prop where
  /-- Paths are seen from the same root. -/
  root_eq : m'.root = m.root
  /-- The same paths are denied. -/
  denied_eq : m'.denied = m.denied
  /-- Sorted entries are still sorted. -/
  sorted : m.Sorted → m'.Sorted
  /-- A closed store is still closed. -/
  closed : m.Closed → m'.Closed
  /-- What changes is an entry that may be put there, and no file becomes a directory or the other
  way round. -/
  changed : ∀ place, m'.lookup place ≠ m.lookup place →
    ∃ e, may place e ∧ m'.lookup place = some e ∧
      ∀ old, m.lookup place = some old → (old = .directory ↔ e = .directory)

namespace Grows

variable {may more : List Component → MemoryEntry → Prop} {m m' m'' : Memory}

theorem refl (m : Memory) : Grows may m m := ⟨rfl, rfl, id, id, fun _ h => absurd rfl h⟩

theorem mono (h : Grows may m m') (hmore : ∀ place e, may place e → more place e) :
    Grows more m m' where
  root_eq := h.root_eq
  denied_eq := h.denied_eq
  sorted := h.sorted
  closed := h.closed
  changed := fun place hchanged =>
    let ⟨e, hmay, hrest⟩ := h.changed place hchanged
    ⟨e, hmore place e hmay, hrest⟩

theorem trans (h : Grows may m m') (h' : Grows may m' m'') : Grows may m m'' where
  root_eq := h'.root_eq.trans h.root_eq
  denied_eq := h'.denied_eq.trans h.denied_eq
  sorted := fun hsorted => h'.sorted (h.sorted hsorted)
  closed := fun hclosed => h'.closed (h.closed hclosed)
  changed := by
    intro place hchanged
    by_cases hsecond : m''.lookup place = m'.lookup place
    · -- what the second step leaves was changed by the first
      rw [hsecond] at hchanged ⊢
      exact h.changed place hchanged
    · obtain ⟨e, hmay, he, hkind⟩ := h'.changed place hsecond
      refine ⟨e, hmay, he, fun old hold => ?_⟩
      by_cases hfirst : m'.lookup place = m.lookup place
      · exact hkind old (hfirst.trans hold)
      · -- the kind stays in both steps
        obtain ⟨e', -, he', hkind'⟩ := h.changed place hfirst
        exact (hkind' old hold).trans (hkind e' he')

theorem locate_eq (h : Grows may m m') : m'.locate = m.locate := locate_of_root h.root_eq

theorem isDenied_eq (h : Grows may m m') (p : Path) : m'.isDenied p = m.isDenied p := by
  rw [isDenied, isDenied, h.denied_eq]

theorem entryPlace_eq (h : Grows may m m') (p : Path) (e : MemoryEntry) :
    m'.entryPlace p e = m.entryPlace p e := by
  cases e <;> simp only [entryPlace, h.locate_eq]

theorem settles (h : Grows may m m') {p : Path} (hp : m.Settles p) : m'.Settles p := by
  unfold Settles
  rw [h.locate_eq]
  exact hp

/-- Where nothing may be put, nothing changes. -/
theorem lookup_eq (h : Grows may m m') {place : List Component} (hnot : ∀ e, ¬may place e) :
    m'.lookup place = m.lookup place := by
  by_contra hchanged
  obtain ⟨e, hmay, -⟩ := h.changed place hchanged
  exact hnot e hmay

/-- What is stored stays, and stays a file or stays a directory. -/
theorem kept (h : Grows may m m') {place : List Component} {old : MemoryEntry}
    (hold : m.lookup place = some old) :
    ∃ e, m'.lookup place = some e ∧ (old = .directory ↔ e = .directory) := by
  by_cases hchanged : m'.lookup place = m.lookup place
  · exact ⟨old, hchanged.trans hold, Iff.rfl⟩
  · obtain ⟨e, -, he, hkind⟩ := h.changed place hchanged
    exact ⟨e, he, hkind old hold⟩

/-- A directory stays one. -/
theorem directory_eq (h : Grows may m m') {place : List Component}
    (hdirectory : m.lookup place = some .directory) : m'.lookup place = some .directory := by
  obtain ⟨e, he, hkind⟩ := h.kept hdirectory
  rw [he, hkind.1 rfl]

/-- Where a directory is that was not there before, nothing was. -/
theorem lookup_eq_none (h : Grows may m m') {place : List Component}
    (hdirectory : m'.lookup place = some .directory)
    (hchanged : m'.lookup place ≠ m.lookup place) : m.lookup place = none := by
  rcases hold : m.lookup place with _ | old
  · rfl
  · obtain ⟨e, he, hkind⟩ := h.kept hold
    rw [hdirectory, Option.some.injEq] at he
    rw [hdirectory, hold, hkind.2 he.symm] at hchanged
    exact absurd rfl hchanged

/-- A file stays as it is where no file may be put. -/
theorem file_eq (h : Grows may m m') {place : List Component} {content : String}
    (hfile : m.lookup place = some (.file content))
    (hnot : ∀ content', ¬may place (.file content')) : m'.lookup place = some (.file content) := by
  by_contra hchanged
  obtain ⟨e, hmay, -, hkind⟩ := h.changed place (by rwa [hfile])
  have hkind := hkind _ hfile
  cases e with
  | directory => cases hkind.2 rfl
  | file content' => exact hnot content' hmay

end Grows

/-- The entry at its place and directories above it are what is put to write an entry. -/
def Writes (own : List Component) (e : MemoryEntry) (place : List Component) (put : MemoryEntry) :
    Prop :=
  place = own ∧ put = e ∨ place <+: own ∧ put = .directory

/-- Writing an entry grows a store, if it does not replace a directory by a file. -/
theorem Wrote.grows {own : List Component} {e : MemoryEntry} {m m' : Memory} (h : Wrote own e m m')
    (hkind : e ≠ .directory → m.lookup own ≠ some .directory) : Grows (Writes own e) m m' where
  root_eq := h.root_eq
  denied_eq := h.denied_eq
  sorted := h.sorted
  closed := h.closed
  changed := by
    intro place hchanged
    rw [h.lookup_eq] at hchanged ⊢
    split_ifs at hchanged ⊢ with hown habove
    · -- at its own place a file replaces nothing but files
      obtain ⟨rfl, he⟩ := hown
      refine ⟨e, .inl ⟨rfl, rfl⟩, rfl, fun old hold => ?_⟩
      have hold' : old ≠ .directory := by
        rintro rfl
        exact hkind he hold
      exact iff_of_false hold' he
    · -- a directory is created only where nothing is stored
      cases hlookup : m.lookup place with
      | some old => exact absurd (by rw [hlookup]; rfl) hchanged
      | none => exact ⟨.directory, .inr ⟨habove.1, rfl⟩, rfl, fun _ h => nomatch h⟩
    · exact absurd rfl hchanged

/-- Everything may be put that writing an entry at the path puts, unless the path is denied. -/
def Allows (m : Memory) (may : List Component → MemoryEntry → Prop) (p : Path) (e : MemoryEntry) :
    Prop :=
  m.isDenied (m.locate p) = false → ∀ place put, Writes (m.entryPlace p e) e place put →
    may place put

section Operations

variable {may : List Component → MemoryEntry → Prop} {p : Path}

theorem Grows.allows {m m' : Memory} (h : Grows may m m') {e : MemoryEntry}
    (hp : m.Allows may p e) : m'.Allows may p e := by
  unfold Allows
  rw [h.locate_eq, h.isDenied_eq, h.entryPlace_eq]
  exact hp

theorem writeEntry_grows (m : Memory) {e : MemoryEntry} (hmay : m.Allows may p e) :
    Grows may m (m.writeEntry p e).2 := by
  rcases m.writeEntry_cases p e with ⟨fault, hrefused⟩ | ⟨-, hdenied, hkind, hwrote⟩
  · rw [hrefused]
    exact .refl m
  · exact (hwrote.grows hkind).mono (hmay hdenied)

theorem createDirAll_grows (m : Memory) (hmay : m.Allows may p .directory) :
    Grows may m (m.createDirAll p).2 := m.writeEntry_grows hmay

theorem writeText_grows (m : Memory) {content : String} (hmay : m.Allows may p (.file content)) :
    Grows may m (m.writeText p content).2 := m.writeEntry_grows hmay

theorem copyFile_grows (m : Memory) {source : Path}
    (hmay : ∀ content, m.readText source = .ok content → m.Allows may p (.file content)) :
    Grows may m (m.copyFile source p).2 := by
  unfold copyFile
  split
  next => exact .refl m
  next content hread => exact m.writeText_grows (hmay content hread)

/-- Writing entries grows a store, also if one of them cannot be written. -/
theorem writeAll_grows (m : Memory) {depth : Nat} {entries : List (Path × MemoryEntry)}
    (hmay : ∀ entry ∈ entries, m.Allows may (p.join (entry.1.behind depth)) entry.2) :
    Grows may m (m.writeAll depth p entries).2 := by
  induction entries generalizing m with
  | nil => exact .refl m
  | cons entry rest ih =>
    obtain ⟨source, e⟩ := entry
    have hwritten := m.writeEntry_grows (hmay _ List.mem_cons_self)
    rw [writeAll_cons]
    split
    next heq =>
      -- a refusal ends the loop, with what was written until then
      rw [heq] at hwritten
      exact hwritten
    next heq =>
      -- the others meet the store that this entry leaves
      rw [heq] at hwritten
      exact hwritten.trans (ih _ fun other hother =>
        hwritten.allows (hmay other (List.mem_cons_of_mem _ hother)))

/-- Copying a directory grows a store, also if the copy is incomplete. -/
theorem copyDir_grows (m : Memory) {source : Path} (hmay : m.Allows may (m.locate p) .directory)
    (hbelow : ∀ e (q : Path), q.isAbsolute = false → m.Allows may ((m.locate p).join q) e) :
    Grows may m (m.copyDir source p).2 := by
  unfold copyDir
  dsimp only
  split
  · exact .refl m
  · have hcreated := m.createDirAll_grows hmay
    split
    next heq =>
      rw [heq] at hcreated
      exact hcreated
    next heq =>
      rw [heq] at hcreated
      exact hcreated.trans (writeAll_grows _ fun entry _ =>
        hcreated.allows (hbelow entry.2 _ (entry.1.isAbsolute_behind _)))

end Operations

end ContainerBuild.Memory
