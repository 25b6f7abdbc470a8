import ContainerBuild.Proofs.Path.Joining
import ContainerBuild.Proofs.Store.Entries
import Mathlib.Logic.Function.Iterate

/-!
# Confinement of writes

An operation that is asked to write below a directory changes nothing that is stored elsewhere,
apart from creating the directories above it that are missing, and removes nothing. A store sees a
path from its root every time it is handed on, so this needs that a path below the directory stays
below it however often it is seen from the root again.

* `Memory.Settles m p` — seeing the path from the root once more leads to the same place.
* `Memory.Under m place p` — the path lies at or below the place, however often it is located.
* `Memory.Apart place other` — neither place lies at or below the other.
* `Memory.Confined place m m'` — how a store may change by writing below a place.
* `Memory.writeText_confined`, `Memory.copyFile_confined`, `Memory.copyDir_confined`,
  `Memory.createDirAll_confined` — every operation that writes is confined, whatever it answers.
-/

namespace ContainerBuild

open ContainerBuild.Path (Component)

namespace Memory

/-! ### Locating paths -/

/-- Where paths are located depends on the root alone. -/
theorem locate_of_root {m m' : Memory} (h : m'.root = m.root) : m'.locate = m.locate := by
  funext p
  rw [locate, locate, h]

/-- A path below a directory is located below where the directory is. -/
theorem locate_join (m : Memory) (directory : Path) {q : Path} (hq : q.isAbsolute = false) :
    m.locate (directory.join q) = (m.locate directory).join q := by
  have habsolute := Path.isAbsolute_join directory hq
  unfold locate
  rw [habsolute]
  split
  · rfl
  next h =>
    have hrelative : directory.isAbsolute = false := by simpa using h
    exact (Path.join_assoc m.root hrelative hq (habsolute.trans hrelative)).symm

theorem iterate_locate_join (m : Memory) {directory q : Path} (hq : q.isAbsolute = false) (k : Nat) :
    m.locate^[k] (directory.join q) = (m.locate^[k] directory).join q := by
  induction k with
  | zero => rfl
  | succ k ih =>
    rw [Function.iterate_succ_apply', Function.iterate_succ_apply', ih, m.locate_join _ hq]

/-- Paths with the same components are located at the same place. -/
theorem components_locate_congr (m : Memory) {p q : Path} (h : p.components = q.components) :
    (m.locate p).components = (m.locate q).components := by
  have habsolute : p.isAbsolute = q.isAbsolute := by
    rw [Bool.eq_iff_iff, Path.isAbsolute_iff, Path.isAbsolute_iff, h]
  have hinner : p.inner = q.inner := by rw [Path.inner_eq_filter, Path.inner_eq_filter, h]
  unfold locate
  rw [habsolute]
  split
  · exact h
  next hq =>
    have hq : q.isAbsolute = false := by simpa using hq
    by_cases hroot : m.root.bytes = []
    · have hempty : m.root = ⟨[]⟩ := congrArg Path.mk hroot
      rw [hempty, Path.empty_join, Path.empty_join, h]
    · rw [Path.components_join hroot (habsolute.trans hq), Path.components_join hroot hq, hinner]

/-- Seeing the located path from the root once more leads to the same place. -/
def Settles (m : Memory) (p : Path) : Prop :=
  (m.locate (m.locate p)).components = (m.locate p).components

/-- The path lies at or below the place, however often it is seen from the root. -/
def Under (m : Memory) (place : List Component) (p : Path) : Prop :=
  ∀ k, place <+: (m.locate^[k + 1] p).components

/-- A path that settles lies at the place where it is located. -/
theorem Settles.under {m : Memory} {p : Path} (h : m.Settles p) :
    m.Under (m.locate p).components p := by
  intro k
  have hsame : (m.locate^[k + 1] p).components = (m.locate p).components := by
    induction k with
    | zero => rfl
    | succ k ih =>
      rw [Function.iterate_succ_apply', m.components_locate_congr ih]
      exact h
  exact hsame ▸ List.prefix_rfl

/-- Every path lies below the empty place. -/
theorem under_nil (m : Memory) (p : Path) : m.Under [] p := fun _ => List.nil_prefix

namespace Under

variable {m : Memory} {place : List Component} {p : Path}

theorem prefix_locate (h : m.Under place p) : place <+: (m.locate p).components := h 0

theorem locate (h : m.Under place p) : m.Under place (m.locate p) := fun k => h (k + 1)

/-- What lies below a directory below the place lies below the place. -/
theorem join (h : m.Under place p) {q : Path} (hq : q.isAbsolute = false) :
    m.Under place (p.join q) := by
  intro k
  rw [m.iterate_locate_join hq]
  exact (h k).trans (Path.components_prefix_join _ hq)

end Under

/-! ### Places apart -/

/-- Neither place lies at or below the other. -/
def Apart (place other : List Component) : Prop := ¬place <+: other ∧ ¬other <+: place

instance (place other : List Component) : Decidable (Apart place other) :=
  inferInstanceAs (Decidable (_ ∧ _))

/-- What lies below a place that is apart is apart too. -/
theorem Apart.below {place other below : List Component} (h : Apart place other)
    (hbelow : other <+: below) : Apart place below := by
  refine ⟨fun hplace => ?_, fun hplace => h.2 (hbelow.trans hplace)⟩
  rcases List.prefix_or_prefix_of_prefix hplace hbelow with habove | hunder
  · exact h.1 habove
  · exact h.2 hunder

theorem Apart.symm {place other : List Component} (h : Apart place other) : Apart other place :=
  ⟨h.2, h.1⟩

/-- Places that start differently are apart. -/
theorem apart_of_head {place other : List Component} {c : Component}
    (hplace : place.head? = some c) (hother : other.head? ≠ some c) (hne : other ≠ []) :
    Apart place other := by
  constructor
  · rintro ⟨behind, rfl⟩
    rw [List.head?_append, hplace] at hother
    exact hother rfl
  · rintro ⟨behind, rfl⟩
    rw [List.head?_append_of_ne_nil _ hne] at hplace
    exact hother hplace

/-- The entries that are stored apart from a place. -/
def apartFrom (m : Memory) (place : List Component) : List (Path × MemoryEntry) :=
  m.entries.filter fun stored => decide (Apart place stored.1.components)

/-- Putting an entry that is apart from a place puts it among those that are. -/
theorem apartFrom_put_of_apart {m : Memory} (hsorted : m.Sorted) {place : List Component}
    {p : Path} (e : MemoryEntry) (hp : Apart place p.components) :
    (m.put p e).apartFrom place = insert p e (m.apartFrom place) :=
  filter_insert_of_keep (fun other => decide (Apart place other)) hsorted e (decide_eq_true hp)

/-- Putting an entry that is not apart from a place leaves those that are. -/
theorem apartFrom_put_of_not_apart (m : Memory) {place : List Component} {p : Path} (e : MemoryEntry)
    (hp : ¬Apart place p.components) : (m.put p e).apartFrom place = m.apartFrom place :=
  filter_insert_of_drop (fun other => decide (Apart place other)) e (decide_eq_false hp)

/-! ### Confined changes -/

/-- How a store may change by writing below a place. -/
structure Confined (place : List Component) (m m' : Memory) : Prop where
  /-- Paths are seen from the same root. -/
  root_eq : m'.root = m.root
  /-- The same paths are denied. -/
  denied_eq : m'.denied = m.denied
  /-- What changes lies at or below the place, or is a missing directory above it. -/
  changed : ∀ other, m'.lookup other ≠ m.lookup other →
    place <+: other ∨
      (other <+: place ∧ other ≠ place) ∧ m.lookup other = none ∧
        m'.lookup other = some .directory
  /-- Nothing is removed. -/
  kept : ∀ other, m.lookup other ≠ none → m'.lookup other ≠ none
  /-- The entries apart from the place are the same. -/
  apart_eq : m'.apartFrom place = m.apartFrom place
  /-- Sorted entries are still sorted. -/
  sorted : m.Sorted → m'.Sorted

namespace Confined

variable {place : List Component} {m m' m'' : Memory}

theorem refl (m : Memory) : Confined place m m :=
  ⟨rfl, rfl, fun _ h => absurd rfl h, fun _ h => h, rfl, id⟩

theorem trans (h : Confined place m m') (h' : Confined place m' m'') : Confined place m m'' where
  root_eq := h'.root_eq.trans h.root_eq
  denied_eq := h'.denied_eq.trans h.denied_eq
  changed := by
    intro other hchanged
    by_cases hfirst : m'.lookup other = m.lookup other
    · rw [← hfirst] at hchanged ⊢
      exact h'.changed other hchanged
    · rcases h.changed other hfirst with hbelow | ⟨habove, hnone, hdirectory⟩
      · exact .inl hbelow
      · -- a directory that was created is not changed again
        by_cases hsecond : m''.lookup other = m'.lookup other
        · exact .inr ⟨habove, hnone, hsecond.trans hdirectory⟩
        · rcases h'.changed other hsecond with hbelow | ⟨-, hnone', -⟩
          · exact .inl hbelow
          · rw [hdirectory] at hnone'
            cases hnone'
  kept := fun other hsome => h'.kept other (h.kept other hsome)
  apart_eq := h'.apart_eq.trans h.apart_eq
  sorted := fun hsorted => h'.sorted (h.sorted hsorted)

theorem locate_eq (h : Confined place m m') : m'.locate = m.locate := locate_of_root h.root_eq

theorem under (h : Confined place m m') {own : List Component} {p : Path} (hp : m.Under own p) :
    m'.Under own p := by
  unfold Under
  rw [h.locate_eq]
  exact hp

/-- What is stored elsewhere stays as it is. -/
theorem lookup_eq (h : Confined place m m') {other : List Component}
    (hsome : m.lookup other ≠ none) (helse : ¬place <+: other) :
    m'.lookup other = m.lookup other := by
  by_contra hchanged
  rcases h.changed other hchanged with hbelow | ⟨-, hnone, -⟩
  · exact helse hbelow
  · exact hsome hnone

end Confined

/-! ### Confined operations -/

/-- A beginning of something below a place lies above the place or below it. -/
theorem above_or_below {place below other : List Component} (hbelow : place <+: below)
    (hother : other <+: below) : place <+: other ∨ (other <+: place ∧ other ≠ place) := by
  rcases List.prefix_or_prefix_of_prefix hother hbelow with habove | hunder
  · by_cases heq : other = place
    · exact .inl (heq ▸ List.prefix_rfl)
    · exact .inr ⟨habove, heq⟩
  · exact .inl hunder

/-- Putting an entry below a place is confined, and so is putting a missing directory above it. -/
theorem put_confined (m : Memory) {place : List Component} {p : Path} {e : MemoryEntry}
    (hp : place <+: p.components ∨ (p.components <+: place ∧ p.components ≠ place) ∧
      m.lookup p.components = none ∧ e = .directory) : Confined place m (m.put p e) where
  root_eq := rfl
  denied_eq := rfl
  changed := by
    intro other hchanged
    -- only the place of the path changes
    rw [lookup_put] at hchanged ⊢
    split at hchanged
    next hplace =>
      subst hplace
      exact hp.imp_right fun ⟨habove, hnone, he⟩ => ⟨habove, hnone, by rw [if_pos rfl, he]⟩
    next => exact absurd rfl hchanged
  kept := by
    intro other hsome
    rw [lookup_put]
    split
    · exact Option.some_ne_none _
    · exact hsome
  apart_eq := by
    refine m.apartFrom_put_of_not_apart e fun hapart => ?_
    rcases hp with hbelow | ⟨⟨habove, -⟩, -⟩
    · exact hapart.1 hbelow
    · exact hapart.2 habove
  sorted := fun hsorted => hsorted.put p e

/-- Creating directories on the way to a path below a place is confined. -/
theorem ensureDirectories_confined (m : Memory) {place way : List Component} {p : Path}
    (hp : place <+: p.components) (hway : way <+: p.components) :
    Confined place m (m.ensureDirectories way) := by
  -- each step creates a beginning, which lies above the place or below it
  refine List.foldlRecOn _ _ (motive := Confined place m) (.refl m) fun m₁ h n _ => h.trans ?_
  have hbeginning : way.take (n + 1) <+: p.components := (List.take_prefix (n + 1) way).trans hway
  rcases m₁.ensureDirectory_cases (way.take (n + 1)) with hsame | ⟨hnone, hput⟩
  · rw [hsame]
    exact .refl m₁
  · rw [hput]
    refine m₁.put_confined ?_
    rw [Path.components_ofComponents hbeginning]
    exact (above_or_below hp hbeginning).imp_right fun habove => ⟨habove, hnone, rfl⟩

/-- Storing a file below a place is confined. -/
theorem addFile_confined (m : Memory) {place : List Component} {p : Path} (content : String)
    (hp : place <+: (m.locate p).components) : Confined place m (m.addFile p content) :=
  (m.ensureDirectories_confined hp <| List.dropLast_prefix _).trans (put_confined _ (.inl hp))

variable {place : List Component} {p : Path}

/-- Creating a directory below a place is confined. -/
theorem createDirAll_confined (m : Memory) (hp : m.Under place p) :
    Confined place m (m.createDirAll p).2 := by
  unfold createDirAll
  dsimp only
  split
  · exact .refl m
  · exact ensureDirectories_confined m hp.prefix_locate List.prefix_rfl

/-- Writing a file below a place is confined. -/
theorem writeText_confined (m : Memory) (content : String) (hp : m.Under place p) :
    Confined place m (m.writeText p content).2 := by
  unfold writeText
  dsimp only
  split
  · exact .refl m
  · split
    · exact .refl m
    · -- the file is stored at the path that was located already
      exact addFile_confined m content hp.locate.prefix_locate

/-- Copying a file to a path below a place is confined. -/
theorem copyFile_confined (m : Memory) (source : Path) (hp : m.Under place p) :
    Confined place m (m.copyFile source p).2 := by
  unfold copyFile
  split
  · exact .refl m
  · exact writeText_confined m _ hp

/-- Writes one of the entries that are copied with a directory. -/
def writeEntry (m : Memory) (p : Path) : MemoryEntry → Except StoreFault Unit × Memory
  | .file content => m.writeText p content
  | .directory => m.createDirAll p

/-- Entries are written one after the other, up to the first that cannot be. -/
theorem writeAll_cons (m : Memory) (depth : Nat) (target source : Path) (e : MemoryEntry)
    (rest : List (Path × MemoryEntry)) :
    m.writeAll depth target ((source, e) :: rest) =
      match m.writeEntry (target.join (source.behind depth)) e with
      | (.error fault, m) => (.error fault, m)
      | (.ok (), m) => m.writeAll depth target rest := by
  cases e <;> rfl

theorem writeEntry_confined (m : Memory) (e : MemoryEntry) (hp : m.Under place p) :
    Confined place m (m.writeEntry p e).2 := by
  cases e with
  | file content => exact writeText_confined m content hp
  | directory => exact createDirAll_confined m hp

/-- Writing entries below a place is confined, also if one of them cannot be written. -/
theorem writeAll_confined (m : Memory) (depth : Nat) (hp : m.Under place p)
    (entries : List (Path × MemoryEntry)) : Confined place m (m.writeAll depth p entries).2 := by
  induction entries generalizing m with
  | nil => exact .refl m
  | cons entry rest ih =>
    obtain ⟨source, e⟩ := entry
    have hwritten := writeEntry_confined m e (hp.join (source.isAbsolute_behind depth))
    rw [writeAll_cons]
    split
    next heq =>
      rw [heq] at hwritten
      exact hwritten
    next heq =>
      -- the others meet the store that this entry leaves
      rw [heq] at hwritten
      exact hwritten.trans (ih _ (hwritten.under hp))

/-- Copying a directory to a path below a place is confined, also if the copy is incomplete. -/
theorem copyDir_confined (m : Memory) (source : Path) (hp : m.Under place p) :
    Confined place m (m.copyDir source p).2 := by
  unfold copyDir
  dsimp only
  split
  · exact .refl m
  · have hcreated := createDirAll_confined m hp.locate
    split
    next heq =>
      rw [heq] at hcreated
      exact hcreated
    next heq =>
      rw [heq] at hcreated
      exact hcreated.trans (writeAll_confined _ _ (hcreated.under hp.locate) _)

end Memory

end ContainerBuild
