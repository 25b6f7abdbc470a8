import ContainerBuild.Json.Printer
import ContainerBuild.Proofs.Store.Copying

/-!
# Invariants of a store

A store starts empty. Files are put in it and paths are denied from outside, and operations change
it. In every store that is reached so, the directories above everything stored are there. Operations
remove nothing and turn no file into a directory, stay away from what is denied, and leave the store
alone if they fail, except that a copy of a directory may stop on the way.

* `Memory.Reachable` — the stores that are reached.
* `Memory.change_grows` — one operation grows a store where it may write.
* `Memory.Reachable.kept_by_changes` — what every sequence of operations keeps.
* `Memory.writeText_relativeRoot` — a file that was written below a relative root is not found.
-/

namespace ContainerBuild

open ContainerBuild.Path (Component)

/-- An operation that may change what is stored. -/
inductive Change where
  /-- Creates a directory and those above it. -/
  | createDirAll (p : Path)
  /-- Writes a file. -/
  | writeText (p : Path) (content : String)
  /-- Writes a JSON document over several lines. -/
  | writeJson (p : Path) (value : Json)
  /-- Copies a file. -/
  | copyFile (source p : Path)
  /-- Copies what a directory holds. -/
  | copyDir (source p : Path)

namespace Change

/-- The path that the operation is asked to write to. -/
def target : Change → Path
  | createDirAll p => p
  | writeText p _ => p
  | writeJson p _ => p
  | copyFile _ p => p
  | copyDir _ p => p

/-- Whether the operation copies a directory, which may stop on the way. -/
def isCopyDir : Change → Bool
  | copyDir _ _ => true
  | _ => false

end Change

namespace Memory

/-- What an operation answers, and the store after it. -/
def change (m : Memory) : Change → Except StoreFault Unit × Memory
  | .createDirAll p => m.createDirAll p
  | .writeText p content => m.writeText p content
  | .writeJson p value => m.writeText p value.pretty
  | .copyFile source p => m.copyFile source p
  | .copyDir source p => m.copyDir source p

/-- The store after operations, whatever they answer. -/
def changeAll (m : Memory) (changes : List Change) : Memory :=
  changes.foldl (fun m c => (m.change c).2) m

/-- The stores that are reached from an empty one. -/
inductive Reachable : Memory → Prop
  /-- Nothing is stored, and nothing is denied. -/
  | new (root : Path) : Reachable { root }
  /-- A file is stored from outside. -/
  | addFile {m : Memory} (h : Reachable m) (p : Path) (content : String) :
    Reachable (m.addFile p content)
  /-- A path is denied. -/
  | deny {m : Memory} (h : Reachable m) (p : Path) : Reachable (m.deny p)
  /-- An operation is carried out, whatever it answers. -/
  | change {m : Memory} (h : Reachable m) (c : Change) : Reachable (m.change c).2

/-! ### One operation -/

/-- The paths at which an operation may write an entry. -/
def Reaches (m : Memory) (c : Change) (p : Path) : Prop :=
  p = c.target ∨ p = m.locate c.target ∨
    ∃ q : Path, q.isAbsolute = false ∧ p = (m.locate c.target).join q

/-- An operation grows a store where it may write. -/
theorem change_grows (m : Memory) (c : Change) {may : List Component → MemoryEntry → Prop}
    (hmay : ∀ p, m.Reaches c p → ∀ e, m.Allows may p e) : Grows may m (m.change c).2 := by
  cases c with
  | createDirAll p => exact m.createDirAll_grows (hmay p (.inl rfl) _)
  | writeText p content => exact m.writeText_grows (hmay p (.inl rfl) _)
  | writeJson p value => exact m.writeText_grows (hmay p (.inl rfl) _)
  | copyFile source p => exact m.copyFile_grows fun _ _ => hmay p (.inl rfl) _
  | copyDir source p =>
    exact m.copyDir_grows (hmay _ (.inr (.inl rfl)) _)
      fun e q hq => hmay _ (.inr (.inr ⟨q, hq, rfl⟩)) e

/-- Every operation grows a store. -/
theorem change_grows_anywhere (m : Memory) (c : Change) :
    Grows (fun _ _ => True) m (m.change c).2 :=
  m.change_grows c fun _ _ _ _ _ _ _ => trivial

/-- The place does not lie at or below a path that is denied. -/
def Open (m : Memory) (place : List Component) : Prop :=
  ∀ denied ∈ m.denied, ¬denied.components <+: place

/-- An entry is written at open places only, if it is stored where its path is located. -/
theorem allows_open {m : Memory} {p : Path} {e : MemoryEntry}
    (hplace : m.entryPlace p e = (m.locate p).components) :
    m.Allows (fun place _ => m.Open place) p e := by
  intro hdenied place put hwrites denied hmem hbelow
  -- what is denied lies above the path as well, so the path is denied
  have habove : place <+: (m.locate p).components := by
    rw [← hplace]
    rcases hwrites with ⟨rfl, -⟩ | ⟨hstart, -⟩
    · exact List.prefix_rfl
    · exact hstart
  have hstarts : (m.locate p).startsWith denied = true :=
    List.isPrefixOf_iff_prefix.2 (hbelow.trans habove)
  rw [isDenied, List.any_eq_false] at hdenied
  exact hdenied denied hmem hstarts

/-- An operation writes at open places only, if its target settles. Creating a directory sees the
target from the root once only, so there the target need not settle. -/
theorem change_grows_open (m : Memory) (c : Change)
    (hsettles : (∀ p, c ≠ .createDirAll p) → m.Settles c.target) :
    Grows (fun place _ => m.Open place) m (m.change c).2 := by
  by_cases hcreates : ∃ p, c = .createDirAll p
  · obtain ⟨p, rfl⟩ := hcreates
    exact m.createDirAll_grows (allows_open rfl)
  · have htarget : m.Settles c.target := hsettles fun p hp => hcreates ⟨p, hp⟩
    refine m.change_grows c fun p hp e => allows_open ?_
    rcases hp with rfl | rfl | ⟨q, hq, rfl⟩
    · exact htarget.entryPlace_eq e
    · exact htarget.locate.entryPlace_eq e
    · exact (htarget.locate.join hq).entryPlace_eq e

section Kept

variable {P : Memory → Prop} (hkept : ∀ {own e m m'}, Wrote own e m m' → P m → P m')
include hkept

theorem kept_by_writeEntry {m : Memory} (h : P m) (p : Path) (e : MemoryEntry) :
    P (m.writeEntry p e).2 := by
  rcases m.writeEntry_cases p e with ⟨fault, hrefused⟩ | ⟨-, -, -, hwrote⟩
  · rwa [hrefused]
  · exact hkept hwrote h

theorem kept_by_writeAll {m : Memory} (h : P m) (depth : Nat) (target : Path)
    (entries : List (Path × MemoryEntry)) : P (m.writeAll depth target entries).2 := by
  induction entries generalizing m with
  | nil => exact h
  | cons entry rest ih =>
    obtain ⟨source, e⟩ := entry
    have hwritten := kept_by_writeEntry hkept h (target.join (source.behind depth)) e
    rw [writeAll_cons]
    split
    next heq => rwa [heq] at hwritten
    next heq =>
      rw [heq] at hwritten
      exact ih hwritten

/-- What is kept whenever an entry is written is kept by every operation. -/
theorem kept_by_change {m : Memory} (h : P m) (c : Change) : P (m.change c).2 := by
  cases c with
  | createDirAll p => exact kept_by_writeEntry hkept h p .directory
  | writeText p content => exact kept_by_writeEntry hkept h p (.file content)
  | writeJson p value => exact kept_by_writeEntry hkept h p (.file value.pretty)
  | copyFile source p =>
    rw [change, copyFile]
    split
    · exact h
    next content _ => exact kept_by_writeEntry hkept h p (.file content)
  | copyDir source p =>
    have hcreated : P (m.createDirAll (m.locate p)).2 :=
      kept_by_writeEntry hkept h (m.locate p) .directory
    rw [change, copyDir]
    split
    · exact h
    · split
      next heq => rwa [heq] at hcreated
      next heq =>
        rw [heq] at hcreated
        exact kept_by_writeAll hkept hcreated ..

end Kept

/-- An operation that fails leaves the store as it was, unless it copies a directory. -/
theorem change_of_error (m : Memory) {c : Change} (hc : c.isCopyDir = false) {fault : StoreFault}
    (hfault : (m.change c).1 = .error fault) : (m.change c).2 = m := by
  -- every other operation writes one entry at most, and checks before it writes
  have hentry {p : Path} {e : MemoryEntry} (hfault : (m.writeEntry p e).1 = .error fault) :
      (m.writeEntry p e).2 = m := by
    rcases m.writeEntry_cases p e with ⟨_, hrefused⟩ | ⟨hok, -⟩
    · rw [hrefused]
    · rw [hok] at hfault
      cases hfault
  cases c with
  | createDirAll p => exact hentry (p := p) (e := .directory) hfault
  | writeText p content => exact hentry (p := p) (e := .file content) hfault
  | writeJson p value => exact hentry (p := p) (e := .file value.pretty) hfault
  | copyFile source p =>
    rw [change, copyFile] at hfault ⊢
    split at hfault
    next => rfl
    next content _ => exact hentry (p := p) (e := .file content) hfault
  | copyDir source p => cases hc

/-- A file that was written at a path that settles is read back under every spelling of the path,
and no other file is changed. -/
theorem readText_of_writeText {m m' : Memory} {p : Path} {content : String}
    (hsettles : m.Settles p) (h : m.writeText p content = (.ok (), m')) :
    (∀ q, (m.locate q).components = (m.locate p).components → m'.readText q = .ok content) ∧
      ∀ place, place ≠ (m.locate p).components → ∀ other : String,
        m'.lookup place = some (.file other) ↔ m.lookup place = some (.file other) := by
  have hwrote : Wrote (m.locate p).components (.file content) m m' :=
    hsettles.entryPlace_eq (.file content) ▸ wrote_of_writeEntry h
  have hlocate : m'.locate = m.locate := locate_of_root hwrote.root_eq
  refine ⟨fun q hq => readText_eq_ok_iff.2 ?_, fun place hplace other =>
    hwrote.file_iff fun hown => absurd hown hplace⟩
  rw [hlocate, hq]
  exact lookup_writeText hsettles h

/-! ### All stores that are reached -/

theorem Reachable.closed {m : Memory} (h : m.Reachable) : m.Closed := by
  induction h with
  | new root => exact fun _ hsome => absurd rfl hsome
  | addFile h p content ih => exact (addFile_wrote _ p content).closed ih
  | deny h p ih => exact ih
  | change h c ih => exact (change_grows_anywhere _ c).closed ih

theorem Reachable.sorted {m : Memory} (h : m.Reachable) : m.Sorted := by
  induction h with
  | new root => exact List.Pairwise.nil
  | addFile h p content ih => exact (addFile_wrote _ p content).sorted ih
  | deny h p ih => exact ih
  | change h c ih => exact (change_grows_anywhere _ c).sorted ih

/-- No directory is ever stored at the place without components. -/
theorem Reachable.lookup_nil {m : Memory} (h : m.Reachable) : m.lookup [] ≠ some .directory := by
  have hkept {own : List Component} {e : MemoryEntry} {m m' : Memory} (hwrote : Wrote own e m m')
      (hold : m.lookup [] ≠ some .directory) : m'.lookup [] ≠ some .directory := by
    rw [hwrote.lookup_eq, if_neg (c := _ ∧ [] ≠ []) fun hat => hat.2 rfl]
    split
    next hown => exact fun he => hown.2 (Option.some.inj he)
    next => exact hold
  induction h with
  | new root => exact nofun
  | addFile h p content ih => exact hkept (addFile_wrote _ p content) ih
  | deny h p ih => exact ih
  | change h c ih => exact kept_by_change hkept ih c

/-- What one operation does to a store, every sequence of them does. -/
theorem changeAll_grows {may : List Component → MemoryEntry → Prop} (good : Change → Prop)
    {m : Memory} (hstep : ∀ m', Grows may m m' → ∀ c, good c → Grows may m' (m'.change c).2)
    {changes : List Change} (hgood : ∀ c ∈ changes, good c) : Grows may m (m.changeAll changes) :=
  List.foldlRecOn changes _ (motive := Grows may m) (.refl m) fun m' h c hc =>
    h.trans (hstep m' h c (hgood c hc))

theorem changeAll_grows_anywhere (m : Memory) (changes : List Change) :
    Grows (fun _ _ => True) m (m.changeAll changes) :=
  changeAll_grows (fun _ => True) (fun m' _ c _ => m'.change_grows_anywhere c) fun _ _ => trivial

theorem changeAll_append (m : Memory) (before after : List Change) :
    m.changeAll (before ++ after) = (m.changeAll before).changeAll after := List.foldl_append

theorem Reachable.changeAll {m : Memory} (h : m.Reachable) (changes : List Change) :
    (m.changeAll changes).Reachable :=
  List.foldlRecOn changes _ (motive := Reachable) h fun _ hm c _ => hm.change c

/-- With everything that is stored, the directories above it are stored. After every sequence of
operations, what was stored is still stored and of the same kind, and as long as the targets settle
of all but those that create directories, nothing has changed at and below the paths that were
denied before. Every operation of the sequence that fails leaves the store as it was, unless it
copies a directory. Every file that is written, at a path that settles, is read back under every
spelling of the path, and no other file changes. -/
theorem Reachable.kept_by_changes {m : Memory} (h : m.Reachable) (changes : List Change) :
    (∀ place, m.lookup place ≠ none → ∀ above, above <+: place → above ≠ [] →
      m.lookup above ≠ none) ∧
    (∀ place old, m.lookup place = some old → ∃ e, (m.changeAll changes).lookup place = some e ∧
      (old = .directory ↔ e = .directory)) ∧
    ((∀ c ∈ changes, (∀ p, c ≠ .createDirAll p) → m.Settles c.target) →
      ∀ denied ∈ m.denied, ∀ place, denied.components <+: place →
        (m.changeAll changes).lookup place = m.lookup place) ∧
    ∀ before c after, changes = before ++ c :: after →
      (∀ fault, c.isCopyDir = false → ((m.changeAll before).change c).1 = .error fault →
        ((m.changeAll before).change c).2 = m.changeAll before) ∧
      ∀ p content, c = .writeText p content → m.Settles p →
        ((m.changeAll before).change c).1 = .ok () →
          (∀ q, (m.locate q).components = (m.locate p).components →
            ((m.changeAll before).change c).2.readText q = .ok content) ∧
          ∀ place, place ≠ (m.locate p).components → ∀ other : String,
            ((m.changeAll before).change c).2.lookup place = some (.file other) ↔
              (m.changeAll before).lookup place = some (.file other) := by
  have hgrows (changes : List Change) : Grows (fun _ _ => True) m (m.changeAll changes) :=
    changeAll_grows (fun _ => True) (fun m' _ c _ => m'.change_grows_anywhere c)
      fun _ _ => trivial
  refine ⟨h.closed, fun place old hold => (hgrows changes).kept hold, ?_, ?_⟩
  · intro hsettles denied hdenied place hbelow
    have hopen : Grows (fun place _ => m.Open place) m (m.changeAll changes) := by
      refine changeAll_grows (fun c => (∀ p, c ≠ .createDirAll p) → m.Settles c.target)
        (fun m' hm' c hc => ?_) hsettles
      -- the same paths are denied on the way
      have hstep := m'.change_grows_open c fun hother => hm'.settles (hc hother)
      unfold Open at hstep
      rwa [hm'.denied_eq] at hstep
    exact hopen.lookup_eq fun e hplace => hplace denied hdenied hbelow
  · rintro before c after -
    refine ⟨fun fault hc hfault => change_of_error _ hc hfault, ?_⟩
    rintro p content rfl hsettles hok
    rw [← (hgrows before).locate_eq]
    exact readText_of_writeText ((hgrows before).settles hsettles) (Prod.ext hok rfl)

/-- A file is written at `a` and read back at `./a`, and its copy at `d/e` leaves `d`, which is
denied. -/
theorem Reachable.kept_by_changes_denied :
    let m := ({} : Memory).deny ⟨[0x64]⟩
    let written := Change.writeText ⟨[0x61]⟩ "x"
    let changes := [written, .copyFile ⟨[0x61]⟩ ⟨[0x64, 0x2F, 0x65]⟩]
    m.Reachable ∧ (∀ c ∈ changes, m.Settles c.target) ∧
      (m.change written).2.readText ⟨[0x2E, 0x2F, 0x61]⟩ = .ok "x" ∧
      (m.changeAll changes).lookup (m.locate ⟨[0x64, 0x2F, 0x65]⟩).components = none := by
  intro m written changes
  have hreachable : m.Reachable := .deny (.new _) _
  have hsettles : ∀ c ∈ changes, m.Settles c.target := fun c _ =>
    settles_of_root (by decide) c.target
  obtain ⟨-, -, hdenied, hsteps⟩ := hreachable.kept_by_changes changes
  refine ⟨hreachable, hsettles, ?_, ?_⟩
  · obtain ⟨-, hread⟩ := hsteps [] written _ rfl
    exact (hread _ _ rfl (hsettles _ List.mem_cons_self) rfl).1 _ (by decide)
  · exact hdenied (fun c hc _ => hsettles c hc) (m.locate ⟨[0x64]⟩) List.mem_cons_self _ (by decide)

/-- Below the relative root `m`, a file that was written at `a` is stored at `m/m/a` and is not
found. A path that is denied there does not keep a file from being stored below it. -/
theorem writeText_relativeRoot :
    let m : Memory := { root := ⟨[0x6D]⟩ }
    let denying := m.deny ⟨[0x6D, 0x2F, 0x61]⟩
    m.Reachable ∧ denying.Reachable ∧
      (m.writeText ⟨[0x61]⟩ "x").1 = .ok () ∧
      (m.writeText ⟨[0x61]⟩ "x").2.readText ⟨[0x61]⟩ =
        .error (.notFound ⟨[0x6D, 0x2F, 0x61]⟩) ∧
      ∃ denied ∈ denying.denied,
        (denying.writeText ⟨[0x61]⟩ "x").2.lookup denied.components ≠
          denying.lookup denied.components := by
  intro m denying
  have hreachable : m.Reachable := .new _
  exact ⟨hreachable, .deny hreachable _, by decide, by decide,
    m.locate ⟨[0x6D, 0x2F, 0x61]⟩, List.mem_cons_self, by decide⟩

end Memory

end ContainerBuild
