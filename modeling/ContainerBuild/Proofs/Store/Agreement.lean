import ContainerBuild.Proofs.Store.Confinement

/-!
# Operations on stores that agree

Two stores agree apart from a place if they hold the same entries there. What an operation answers,
and what it writes, depends only on what is stored where it reads and writes. So an operation that
reads and writes apart from the place answers the same on both stores, and they still agree after
it, whatever they hold at the place, above it and below it.

* `Memory.Outside m place p` — the path lies apart from the place, however often it is located.
* `Memory.Agrees place m m'` — both stores hold the same entries apart from the place.
* `Memory.Confined.agrees` — writing below a place leaves a store that agrees apart from it.
* `Memory.Agrees.writeText`, `Memory.Agrees.copyFile`, `Memory.Agrees.copyDir` — the operations on
  stores that agree.
-/

namespace ContainerBuild.Memory

open ContainerBuild.Path (Component)

/-! ### Paths outside -/

/-- The path lies apart from the place, however often it is seen from the root. -/
def Outside (m : Memory) (place : List Component) (p : Path) : Prop :=
  ∀ k, Apart place (m.locate^[k + 1] p).components

theorem Outside.apart {m : Memory} {place : List Component} {p : Path} (h : m.Outside place p) :
    Apart place (m.locate p).components := h 0

theorem Outside.locate {m : Memory} {place : List Component} {p : Path} (h : m.Outside place p) :
    m.Outside place (m.locate p) := fun k => h (k + 1)

/-- What lies below a directory outside of the place lies outside of it. -/
theorem Outside.join {m : Memory} {place : List Component} {p q : Path} (h : m.Outside place p)
    (hq : q.isAbsolute = false) : m.Outside place (p.join q) := by
  intro k
  rw [m.iterate_locate_join hq]
  exact (h k).below (Path.components_prefix_join _ hq)

/-- What lies below a place lies outside of those that are apart from it. -/
theorem Under.outside {m : Memory} {place own : List Component} {p : Path} (h : m.Under own p)
    (hapart : Apart place own) : m.Outside place p := fun k => hapart.below (h k)

theorem isAbsolute_locate (m : Memory) (p : Path) :
    (m.locate p).isAbsolute = (p.isAbsolute || m.root.isAbsolute) := by
  unfold locate
  cases hp : p.isAbsolute with
  | true => simp [hp]
  | false => simpa using Path.isAbsolute_join m.root hp

/-- A relative path is located at what its segments stand for, below the root. -/
theorem components_locate {m : Memory} (hroot : m.root.bytes ≠ []) {p : Path}
    (hp : p.isAbsolute = false) : (m.locate p).components = m.root.components ++ p.inner := by
  rw [locate, hp, if_neg Bool.false_ne_true, Path.components_join hroot hp]

/-- A path that is located at a place with components is so before it is located once more. -/
theorem components_ne_nil_of_locate {m : Memory} {p : Path}
    (h : (m.locate (m.locate p)).components ≠ []) : (m.locate p).components ≠ [] := by
  intro hnil
  refine h ?_
  by_cases hp : p.isAbsolute = true
  · rw [show m.locate p = p from if_pos hp] at hnil ⊢
    rw [show m.locate p = p from if_pos hp, hnil]
  have hrelative : (m.locate p).isAbsolute = false := by
    rw [← Bool.not_eq_true, Path.isAbsolute_iff, hnil]
    exact nofun
  by_cases hroot : m.root.bytes = []
  · rw [locate, hrelative, if_neg Bool.false_ne_true, show m.root = ⟨[]⟩ from congrArg Path.mk hroot,
      Path.empty_join, hnil]
  · -- neither the root nor the path has components
    have hprefix := Path.components_prefix_join m.root (q := p) (by simpa using hp)
    rw [← show m.locate p = m.root.join p from if_neg hp, hnil, List.prefix_nil] at hprefix
    have hinner := (m.locate p).components_eq
    rw [hnil, eq_comm, List.append_eq_nil_iff] at hinner
    rw [components_locate hroot hrelative, hprefix, hinner.2]
    rfl

/-- A path settles exactly if it is located as an absolute path, or the root leads nowhere. -/
theorem settles_iff (m : Memory) (p : Path) :
    m.Settles p ↔ (m.locate p).isAbsolute = true ∨ m.root.inner = [] := by
  unfold Settles
  by_cases habsolute : (m.locate p).isAbsolute = true
  · rw [locate, if_pos habsolute]
    simp [habsolute]
  · have hlocated : (m.locate p).isAbsolute = false := by simpa using habsolute
    have hp : p.isAbsolute = false := (Bool.or_eq_false_iff.1 (m.isAbsolute_locate p ▸ hlocated)).1
    by_cases hempty : m.root.bytes = []
    · have hroot : m.root = ⟨[]⟩ := congrArg Path.mk hempty
      have hsame : m.locate (m.locate p) = m.locate p := by
        rw [locate, if_neg habsolute, hroot, Path.empty_join]
      simp [hsame, show m.root.inner = [] by rw [hroot]; rfl]
    · -- what the segments of the root stand for is added once more
      have hinner : (m.locate p).inner = m.root.inner ++ p.inner := by
        rw [locate, hp, if_neg Bool.false_ne_true, Path.inner_join _ hp]
      rw [components_locate hempty hlocated, components_locate hempty hp, hinner]
      simp [hlocated]

/-- If a directory settles, then a path that is located apart from it lies outside of it. -/
theorem Settles.outside {m : Memory} {base p : Path} (hbase : m.Settles base)
    (hapart : Apart (m.locate base).components (m.locate p).components) :
    m.Outside (m.locate base).components p := by
  by_cases hp : m.Settles p
  · exact hp.under.outside hapart
  · rw [settles_iff, not_or] at hp
    obtain ⟨hlocated, hroot⟩ := hp
    have hroots : p.isAbsolute = false ∧ m.root.isAbsolute = false := by
      rw [isAbsolute_locate] at hlocated
      simpa using hlocated
    have hiterate (k : Nat) : (m.locate^[k] p).isAbsolute = false := by
      induction k with
      | zero => exact hroots.1
      | succ k ih => rw [Function.iterate_succ_apply', isAbsolute_locate, ih, hroots.2]; rfl
    -- the directory starts at the root of all directories, and the path never does
    have hplace : (m.locate base).components.head? = some .root :=
      (Path.isAbsolute_iff _).1 (((settles_iff m base).1 hbase).resolve_right hroot)
    intro k
    refine apart_of_head hplace ?_ ?_
    · rw [Ne, ← Path.isAbsolute_iff, hiterate]
      exact Bool.false_ne_true
    · -- it is located below the store's root, which leads somewhere
      have hbelow := Path.components_prefix_join m.root (hiterate k)
      rw [Function.iterate_succ_apply', locate, hiterate k, if_neg Bool.false_ne_true]
      intro hnil
      rw [hnil, List.prefix_nil, Path.components_eq, List.append_eq_nil_iff] at hbelow
      exact hroot hbelow.2

/-! ### Agreement -/

/-- Both stores hold the same entries apart from a place. -/
structure Agrees (place : List Component) (m m' : Memory) : Prop where
  /-- Paths are seen from the same root. -/
  root_eq : m'.root = m.root
  /-- The same paths are denied. -/
  denied_eq : m'.denied = m.denied
  /-- The entries of the first store are sorted. -/
  sorted : m.Sorted
  /-- The entries of the second store are sorted. -/
  sorted' : m'.Sorted
  /-- The entries apart from the place are the same. -/
  apart_eq : m'.apartFrom place = m.apartFrom place

/-- Writing leaves the root, and so which paths lie outside of a place. -/
theorem Confined.outside {place own : List Component} {m m' : Memory} {p : Path}
    (h : Confined own m m') (hp : m.Outside place p) : m'.Outside place p := by
  unfold Outside
  rw [h.locate_eq]
  exact hp

/-- Writing below a place leaves a store that agrees with the one before apart from the place. -/
theorem Confined.agrees {place : List Component} {m m' : Memory} (h : Confined place m m')
    (hsorted : m.Sorted) : Agrees place m m' :=
  ⟨h.root_eq, h.denied_eq, hsorted, h.sorted hsorted, h.apart_eq⟩

/-- What is stored apart from a place is one of the entries apart from it. -/
theorem lookup_of_apart (m : Memory) {place other : List Component} (h : Apart place other) :
    m.lookup other =
      ((m.apartFrom place).find? fun stored => stored.1.components == other).map (·.2) := by
  rw [lookup, apartFrom, List.find?_filter]
  congr 2
  funext stored
  by_cases heq : stored.1.components = other <;> simp [heq, h]

/-- A part of the entries that lies apart from a place is a part of those that do. -/
theorem filter_of_apart (m : Memory) {place : List Component} {part : Path × MemoryEntry → Bool}
    (hpart : ∀ stored, part stored = true → Apart place stored.1.components) :
    m.entries.filter part = (m.apartFrom place).filter part := by
  rw [apartFrom, List.filter_filter]
  refine List.filter_congr fun stored _ => ?_
  cases hstored : part stored with
  | true => simp [hpart stored hstored]
  | false => rfl

/-- What is stored at a place and below it. -/
def held (m : Memory) (place : List Component) : List (Path × MemoryEntry) :=
  m.entries.filter fun stored => place.isPrefixOf stored.1.components

namespace Agrees

variable {place : List Component} {m m' m'' : Memory} {p : Path}

theorem refl (place : List Component) (hsorted : m.Sorted) : Agrees place m m :=
  ⟨rfl, rfl, hsorted, hsorted, rfl⟩

theorem symm (h : Agrees place m m') : Agrees place m' m :=
  ⟨h.root_eq.symm, h.denied_eq.symm, h.sorted', h.sorted, h.apart_eq.symm⟩

theorem trans (h : Agrees place m m') (h' : Agrees place m' m'') : Agrees place m m'' :=
  ⟨h'.root_eq.trans h.root_eq, h'.denied_eq.trans h.denied_eq, h.sorted, h'.sorted',
    h'.apart_eq.trans h.apart_eq⟩

theorem locate_eq (h : Agrees place m m') : m'.locate = m.locate := locate_of_root h.root_eq

theorem isDenied_eq (h : Agrees place m m') (p : Path) : m'.isDenied p = m.isDenied p := by
  rw [isDenied, isDenied, h.denied_eq]

/-- The same is stored apart from the place. -/
theorem lookup_eq (h : Agrees place m m') {other : List Component} (hother : Apart place other) :
    m'.lookup other = m.lookup other := by
  rw [lookup_of_apart m hother, lookup_of_apart m' hother, h.apart_eq]

/-- The same paths outside of the place are directories. -/
theorem isDirectory_eq (h : Agrees place m m') (hp : m.Outside place p) :
    m'.isDirectory p = m.isDirectory p := by
  rw [isDirectory, isDirectory, h.locate_eq, h.lookup_eq hp.apart]

/-- The same is stored below a path that is apart from the place. -/
theorem below_eq (h : Agrees place m m') (hp : Apart place p.components) :
    m'.below p = m.below p := by
  have hpart (stored : Path × MemoryEntry)
      (hstored : (stored.1.startsWith p && !stored.1.same p) = true) :
      Apart place stored.1.components :=
    hp.below (List.isPrefixOf_iff_prefix.1 (Bool.and_eq_true_iff.1 hstored).1)
  rw [below, below, m.filter_of_apart hpart, m'.filter_of_apart hpart, h.apart_eq]

/-- The same is held by a place that is apart. -/
theorem held_eq (h : Agrees place m m') {own : List Component} (hapart : Apart place own) :
    m'.held own = m.held own := by
  have hpart (stored : Path × MemoryEntry)
      (hstored : own.isPrefixOf stored.1.components = true) : Apart place stored.1.components :=
    hapart.below (List.isPrefixOf_iff_prefix.1 hstored)
  rw [held, held, m.filter_of_apart hpart, m'.filter_of_apart hpart, h.apart_eq]

/-- Putting the same entry in both stores keeps the agreement, wherever it is put. -/
theorem put (h : Agrees place m m') (p : Path) (e : MemoryEntry) :
    Agrees place (m.put p e) (m'.put p e) where
  root_eq := h.root_eq
  denied_eq := h.denied_eq
  sorted := h.sorted.put p e
  sorted' := h.sorted'.put p e
  apart_eq := by
    by_cases hp : Apart place p.components
    · rw [apartFrom_put_of_apart h.sorted e hp, apartFrom_put_of_apart h.sorted' e hp, h.apart_eq]
    · rw [apartFrom_put_of_not_apart m e hp, apartFrom_put_of_not_apart m' e hp, h.apart_eq]

/-- The stores may differ in which directories are missing at the place and above it. Creating one
there keeps the agreement, and elsewhere it is missing in both or in none. -/
theorem ensureDirectory (h : Agrees place m m') {other : List Component}
    (hspelled : (Path.ofComponents other).components = other) :
    Agrees place (m.ensureDirectory other) (m'.ensureDirectory other) := by
  by_cases hother : Apart place other
  · unfold Memory.ensureDirectory
    rw [h.lookup_eq hother]
    split
    · exact h
    · exact h.put _ _
  · -- what is put here is not among the entries that count
    have hkept {m : Memory} (hsorted : m.Sorted) : Agrees place m (m.ensureDirectory other) := by
      rcases m.ensureDirectory_cases other with hsame | ⟨-, hput⟩
      · rw [hsame]
        exact .refl place hsorted
      · rw [hput]
        exact ⟨rfl, rfl, hsorted, hsorted.put _ _,
          m.apartFrom_put_of_not_apart _ (by rwa [hspelled])⟩
    exact ((hkept h.sorted).symm.trans h).trans (hkept h.sorted')

/-- Creating the same directories on both stores keeps the agreement. -/
theorem ensureDirectories (h : Agrees place m m') {way : List Component}
    (hway : way <+: p.components) :
    Agrees place (m.ensureDirectories way) (m'.ensureDirectories way) := by
  unfold Memory.ensureDirectories
  generalize List.range way.length = lengths
  induction lengths generalizing m m' with
  | nil => exact h
  | cons n rest ih =>
    refine ih (h.ensureDirectory ?_)
    exact Path.components_ofComponents ((List.take_prefix (n + 1) way).trans hway)

/-- Storing the same file in both stores keeps the agreement. -/
theorem addFile (h : Agrees place m m') (p : Path) (content : String) :
    Agrees place (m.addFile p content) (m'.addFile p content) := by
  unfold Memory.addFile
  rw [h.locate_eq]
  exact (h.ensureDirectories <| List.dropLast_prefix _).put _ _

/-! ### Operations -/

variable {answer : Except StoreFault Unit} {m₁ : Memory}

/-- Creating a directory answers the same on both stores, and they still agree. -/
theorem createDirAll (h : Agrees place m m') (hstep : m.createDirAll p = (answer, m₁)) :
    ∃ m₁', m'.createDirAll p = (answer, m₁') ∧ Agrees place m₁ m₁' := by
  unfold Memory.createDirAll at hstep ⊢
  dsimp only at hstep ⊢
  rw [h.locate_eq, h.isDenied_eq]
  split at hstep
  next hdenied =>
    cases hstep
    exact ⟨m', if_pos hdenied, h⟩
  next hdenied =>
    cases hstep
    exact ⟨_, if_neg hdenied, h.ensureDirectories List.prefix_rfl⟩

/-- Writing a file outside of the place answers the same on both stores, and they still agree. -/
theorem writeText (h : Agrees place m m') (hp : m.Outside place p) {content : String}
    (hstep : m.writeText p content = (answer, m₁)) :
    ∃ m₁', m'.writeText p content = (answer, m₁') ∧ Agrees place m₁ m₁' := by
  unfold Memory.writeText at hstep ⊢
  dsimp only at hstep ⊢
  -- both stores refuse the path, or both find a directory there, or both store the file
  rw [h.locate_eq, h.isDenied_eq, h.isDirectory_eq hp.locate]
  split at hstep
  next hdenied =>
    cases hstep
    exact ⟨m', if_pos hdenied, h⟩
  next hdenied =>
    split at hstep
    next hthere =>
      cases hstep
      exact ⟨m', by rw [if_neg hdenied, if_pos hthere], h⟩
    next hthere =>
      cases hstep
      exact ⟨_, by rw [if_neg hdenied, if_neg hthere], h.addFile _ _⟩

/-- Copying a file from outside of the place to outside of it answers the same on both stores. -/
theorem copyFile (h : Agrees place m m') {source : Path} (hsource : m.Outside place source)
    (hp : m.Outside place p) (hstep : m.copyFile source p = (answer, m₁)) :
    ∃ m₁', m'.copyFile source p = (answer, m₁') ∧ Agrees place m₁ m₁' := by
  have hread : m'.readText source = m.readText source := by
    unfold readText
    dsimp only
    rw [h.locate_eq, h.lookup_eq hsource.apart]
  unfold Memory.copyFile at hstep ⊢
  rw [hread]
  split at hstep
  next =>
    cases hstep
    exact ⟨m', rfl, h⟩
  next => exact h.writeText hp hstep

/-- Writing an entry outside of the place answers the same on both stores. -/
theorem writeEntry (h : Agrees place m m') (hp : m.Outside place p) {e : MemoryEntry}
    (hstep : m.writeEntry p e = (answer, m₁)) :
    ∃ m₁', m'.writeEntry p e = (answer, m₁') ∧ Agrees place m₁ m₁' := by
  cases e with
  | file content => exact h.writeText hp hstep
  | directory => exact h.createDirAll hstep

/-- Writing entries outside of the place answers the same on both stores. -/
theorem writeAll (h : Agrees place m m') {depth : Nat} (hp : m.Outside place p)
    {entries : List (Path × MemoryEntry)} (hstep : m.writeAll depth p entries = (answer, m₁)) :
    ∃ m₁', m'.writeAll depth p entries = (answer, m₁') ∧ Agrees place m₁ m₁' := by
  induction entries generalizing m m' with
  | nil =>
    cases hstep
    exact ⟨m', rfl, h⟩
  | cons entry rest ih =>
    obtain ⟨source, e⟩ := entry
    have hjoined := hp.join (source.isAbsolute_behind depth)
    rw [writeAll_cons] at hstep ⊢
    split at hstep
    next hwritten =>
      cases hstep
      obtain ⟨m₂', hwritten', h₂⟩ := h.writeEntry hjoined hwritten
      exact ⟨m₂', by rw [hwritten'], h₂⟩
    next m₂ hwritten =>
      obtain ⟨m₂', hwritten', h₂⟩ := h.writeEntry hjoined hwritten
      -- the others are written from the same root
      have hconfined := m.writeEntry_confined e (m.under_nil (p.join (source.behind depth)))
      rw [hwritten] at hconfined
      rw [hwritten']
      exact ih h₂ (hconfined.outside hp) hstep

/-- Copying a directory from outside of the place to outside of it answers the same on both
stores, and they still agree. -/
theorem copyDir (h : Agrees place m m') {source : Path} (hsource : m.Outside place source)
    (hp : m.Outside place p) (hstep : m.copyDir source p = (answer, m₁)) :
    ∃ m₁', m'.copyDir source p = (answer, m₁') ∧ Agrees place m₁ m₁' := by
  unfold Memory.copyDir at hstep ⊢
  dsimp only at hstep ⊢
  rw [h.locate_eq, h.isDirectory_eq hsource.locate]
  split at hstep
  next hmissing =>
    cases hstep
    exact ⟨m', if_pos hmissing, h⟩
  next hthere =>
    rw [if_neg hthere]
    split at hstep
    next hcreated =>
      cases hstep
      obtain ⟨m₂', hcreated', h₂⟩ := h.createDirAll hcreated
      exact ⟨m₂', by rw [hcreated'], h₂⟩
    next m₂ hcreated =>
      obtain ⟨m₂', hcreated', h₂⟩ := h.createDirAll hcreated
      have hconfined := m.createDirAll_confined (m.under_nil (m.locate p))
      rw [hcreated] at hconfined
      rw [hcreated']
      -- the source holds the same in both stores
      rw [← h₂.below_eq hsource.apart] at hstep
      exact h₂.writeAll (hconfined.outside hp.locate) hstep

end Agrees

end ContainerBuild.Memory
