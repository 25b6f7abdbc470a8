import ContainerBuild.Disk
import ContainerBuild.Proofs.Store.Invariants
import ContainerBuild.Proofs.Store.Tree
import Mathlib.Data.List.Induction
import Mathlib.Data.List.Infix

/-!
# Operations that keep a tree

An operation leaves a tree, with the directories that it was asked for, if there is room for what it
writes. Where there is none it does not fail: a file is written below another file then, or no
directory is created where a file is. Only a file is kept from taking the place of a directory.

* `Memory.HasRoomFor`, `Memory.HasMade` — there is room for what an operation writes, and the
  directories are there that it was asked for. Whether there is room can be decided.
* `Memory.copyDir_cases` — what a copy of a directory does.
* `Memory.Reachable.isTree_of_changes` — sequences of operations that have room.
* `Memory.changes_not_tree` — operations that have none, and what a disk answers to them.
-/

namespace ContainerBuild.Memory

open ContainerBuild.Path (Component)

/-! ### Operations -/

/-- There is room for what an operation writes. -/
def HasRoomFor (m : Memory) : Change → Prop
  | .createDirAll p => m.HasRoom (m.locate p).components .directory
  | .writeText p content => m.HasRoom (m.entryPlace p (.file content)) (.file content)
  | .writeJson p value => m.HasRoom (m.entryPlace p (.file value.pretty)) (.file value.pretty)
  | .copyFile source p => ∀ content, m.readText source = .ok content →
    m.HasRoom (m.entryPlace p (.file content)) (.file content)
  | .copyDir source p =>
    (m.locate p).components ≠ [] ∧ m.Mergeable (m.locate source).components (m.locate p).components

/-- The directories that an operation was asked for are there after it. -/
def HasMade (m m' : Memory) : Change → Prop
  | .createDirAll p => m'.isDirectory p = true
  | .copyDir source p => m'.isDirectory p = true ∧
    ∀ rest, m.lookup ((m.locate source).components ++ rest) = some .directory →
      m'.lookup ((m.locate p).components ++ rest) = some .directory
  | _ => True

theorem isDirectory_iff {m : Memory} {p : Path} :
    m.isDirectory p = true ↔ m.lookup (m.locate p).components = some .directory := by
  rw [isDirectory, beq_iff_eq]

/-- Copying a directory is refused, or the target is created and what lies below the source is
copied. -/
theorem copyDir_cases {m : Memory} (hreachable : m.Reachable) (source : Path) {p : Path}
    (hsettles : m.Settles p) :
    (∃ fault, m.copyDir source p = (.error fault, m)) ∨
      (m.locate source).components ≠ [] ∧
        ∃ m₁, Wrote (m.locate p).components .directory m m₁ ∧
          Grows (Copies m₁ (m.locate source).components (m.locate p).components) m₁
            (m.copyDir source p).2 ∧
          ((m.copyDir source p).1 = .ok () →
            ∀ rest, rest ≠ [] → m₁.lookup ((m.locate source).components ++ rest) ≠ none →
              (m.copyDir source p).2.lookup ((m.locate p).components ++ rest) ≠ none) := by
  unfold copyDir
  dsimp only
  split_ifs with hdirectory
  · exact .inl ⟨_, rfl⟩
  -- the source is a directory, and so has components
  have hsource : (m.locate source).components ≠ [] := by
    rw [Bool.not_eq_true', Bool.not_eq_false, isDirectory_iff] at hdirectory
    refine components_ne_nil_of_locate fun hnil => hreachable.lookup_nil ?_
    rwa [hnil] at hdirectory
  have hdepth : (m.locate source).components.length ≠ 0 := by simpa using hsource
  rcases m.writeEntry_cases (m.locate p) .directory with
    ⟨fault, hrefused⟩ | ⟨hok, -, -, hwrote⟩
  · replace hrefused : m.createDirAll (m.locate p) = (.error fault, m) := hrefused
    rw [hrefused]
    exact .inl ⟨fault, rfl⟩
  · rcases hcreate : m.createDirAll (m.locate p) with ⟨answer, m₁⟩
    replace hok : (m.createDirAll (m.locate p)).1 = .ok () := hok
    replace hwrote : Wrote (m.locate p).components .directory m (m.createDirAll (m.locate p)).2 :=
      hsettles ▸ hwrote
    rw [hcreate] at hok hwrote
    obtain rfl : answer = .ok () := hok
    have hsorted : m₁.Sorted := hwrote.sorted hreachable.sorted
    -- an entry is copied to what is left of its path without the components of the directory
    have hplace := fun q e =>
      (hwrote.grows fun he => absurd rfl he).entryPlace_join_behind hsettles q hdepth e
    refine .inr ⟨hsource, m₁, hwrote, m₁.writeAll_grows ?_, ?_⟩
    · -- only what is stored below the source is put anywhere
      rintro ⟨q, e⟩ hmem - place put hwrites
      obtain ⟨hstored, rest, hrest, hq⟩ := (m₁.mem_below_iff _ _).1 hmem
      dsimp only at hq hwrites
      rw [hplace, hq, List.drop_left] at hwrites
      exact ⟨rest, e, hrest, hq ▸ hsorted.lookup_of_mem hstored, hwrites⟩
    · -- all of it is there if nothing was refused
      intro hok rest hrest hsome
      obtain ⟨e, he⟩ := Option.ne_none_iff_exists'.1 hsome
      obtain ⟨q, hmem, hq⟩ := exists_of_lookup he
      have hall := stored_of_writeAll (Prod.ext hok rfl)
        ((m₁.mem_below_iff _ _).2 ⟨hmem, rest, hrest, hq⟩)
      rw [hplace, hq, List.drop_left] at hall
      exact hall (by simp [hrest])

/-! ### Deciding whether there is room -/

instance (m : Memory) (place : List Component) : Decidable (m.NoFile place) :=
  decidable_of_iff _ noFile_iff.symm

/-- Of the places above an entry there are finitely many, and below it only what is stored counts. -/
theorem hasRoom_iff {m : Memory} {own : List Component} {e : MemoryEntry} :
    m.HasRoom own e ↔ (e = .directory → own ≠ []) ∧
      (∀ above ∈ own.inits, (above = own → e = .directory) → m.NoFile above) ∧
      (e ≠ .directory → ∀ stored ∈ m.entries, own <+: stored.1.components →
        stored.1.components = own) := by
  simp only [List.mem_inits]
  constructor
  · intro h
    refine ⟨h.named, h.above, fun he stored hstored hbelow => ?_⟩
    by_contra hne
    exact lookup_ne_none_iff.2 ⟨stored, hstored, rfl⟩ (h.below he _ hbelow hne)
  · rintro ⟨hnamed, habove, hbelow⟩
    refine ⟨hnamed, habove, fun he below hprefix hne => ?_⟩
    by_contra hsome
    obtain ⟨stored, hstored, rfl⟩ := lookup_ne_none_iff.1 hsome
    exact hne (hbelow he stored hstored hprefix)

instance (m : Memory) (own : List Component) (e : MemoryEntry) : Decidable (m.HasRoom own e) :=
  decidable_of_iff _ hasRoom_iff.symm

/-- Only directories that are stored have to be merged. -/
theorem mergeable_iff {m : Memory} {source target : List Component} :
    m.Mergeable source target ↔
      (∀ above ∈ target.inits, m.NoFile above) ∧
      ∀ stored ∈ m.entries, source <+: stored.1.components →
        m.lookup stored.1.components = some .directory →
          m.NoFile (target ++ stored.1.components.drop source.length) := by
  simp only [List.mem_inits]
  constructor
  · intro h
    refine ⟨h.above, ?_⟩
    rintro ⟨p, e⟩ - ⟨rest, hrest⟩ hdirectory
    rw [← hrest] at hdirectory ⊢
    rw [List.drop_left]
    exact h.inside rest hdirectory
  · rintro ⟨habove, hinside⟩
    refine ⟨habove, fun rest hdirectory => ?_⟩
    obtain ⟨p, hmem, hp⟩ := exists_of_lookup hdirectory
    have hroom := hinside _ hmem (hp ▸ List.prefix_append source rest) (hp ▸ hdirectory)
    rwa [hp, List.drop_left] at hroom

instance (m : Memory) (source target : List Component) : Decidable (m.Mergeable source target) :=
  decidable_of_iff _ mergeable_iff.symm

instance (m : Memory) (c : Change) : Decidable (m.HasRoomFor c) :=
  match c with
  | .createDirAll _ => inferInstanceAs (Decidable (HasRoom ..))
  | .writeText _ _ => inferInstanceAs (Decidable (HasRoom ..))
  | .writeJson _ _ => inferInstanceAs (Decidable (HasRoom ..))
  | .copyFile source p =>
    match h : m.readText source with
    | .error _ => .isTrue fun _ hread => nomatch h.symm.trans hread
    | .ok content => decidable_of_iff (m.HasRoom (m.entryPlace p (.file content)) (.file content))
      ⟨fun hroom _ hread => Except.ok.inj (h.symm.trans hread) ▸ hroom, fun hroom => hroom _ h⟩
  | .copyDir _ _ => inferInstanceAs (Decidable (_ ∧ _))

/-! ### One operation -/

theorem isTree_writeEntry {m : Memory} (htree : m.IsTree) {p : Path} {e : MemoryEntry}
    (hroom : (m.writeEntry p e).1 = .ok () → m.HasRoom (m.entryPlace p e) e) :
    (m.writeEntry p e).2.IsTree := by
  rcases m.writeEntry_cases p e with ⟨fault, hrefused⟩ | ⟨hok, -, -, hwrote⟩
  · rwa [hrefused]
  · exact hwrote.isTree htree (hroom hok)

/-- Copying a directory keeps a tree if it can be merged into the target, and then its directories
are there if the copy is complete. -/
theorem isTree_copyDir {m : Memory} (h : m.Reachable) (htree : m.IsTree) {source p : Path}
    (hsettles : m.Settles p)
    (hroom : (m.copyDir source p).1 = .ok () ∨ (m.copyDir source p).2 ≠ m →
      m.HasRoomFor (.copyDir source p)) :
    (m.copyDir source p).2.IsTree ∧
      ((m.copyDir source p).1 = .ok () → HasMade m (m.copyDir source p).2 (.copyDir source p)) := by
  rcases copyDir_cases h source hsettles with
    ⟨fault, hrefused⟩ | ⟨hsource, m₁, hcreated, hcopied, hstored⟩
  · rw [hrefused]
    exact ⟨htree, nofun⟩
  by_cases hchanged : (m.copyDir source p).1 = .ok () ∨ (m.copyDir source p).2 ≠ m
  · obtain ⟨hnamed, hmerge⟩ := hroom hchanged
    -- the target is created in a tree, and into what is there then the source is merged
    have htarget : m.HasRoom (m.locate p).components .directory :=
      ⟨fun _ => hnamed, fun above habove _ => hmerge.above above habove, fun he => absurd rfl he⟩
    have htree₁ := hcreated.isTree htree htarget
    have hclosed₁ := hcreated.closed h.closed
    have hmerge₁ := hcreated.mergeable h.closed hsource hmerge
    refine ⟨hcopied.isTree_of_copies htree₁ hclosed₁ hsource hmerge₁, fun hok => ?_⟩
    have hlocate : (m.copyDir source p).2.locate = m.locate :=
      hcopied.locate_eq.trans (locate_of_root hcreated.root_eq)
    have hmade : (m.copyDir source p).2.lookup (m.locate p).components = some .directory :=
      hcopied.directory_eq (hcreated.lookup_directory htarget)
    refine ⟨isDirectory_iff.2 (hlocate ▸ hmade), fun rest hdirectory => ?_⟩
    by_cases hrest : rest = []
    · rw [hrest, List.append_nil]
      exact hmade
    · -- a directory of the source is still one after the target was created
      have hdirectory₁ : m₁.lookup ((m.locate source).components ++ rest) = some .directory := by
        rw [hcreated.lookup_eq, hdirectory]
        simp
      exact hcopied.directory_of_copies hmerge₁ hdirectory₁
        (hstored hok rest hrest (by simp [hdirectory₁]))
  · -- a copy that was refused and wrote nothing needs no room
    rw [not_or, not_not] at hchanged
    refine ⟨?_, fun hok => absurd hok hchanged.1⟩
    rw [hchanged.2]
    exact htree

/-- An operation keeps a tree if there is room for what it writes, and makes the directories that it
was asked for. -/
theorem Reachable.isTree_change {m : Memory} (h : m.Reachable) (htree : m.IsTree) {c : Change}
    (hsettles : c.isCopyDir = true → m.Settles c.target)
    (hroom : (m.change c).1 = .ok () ∨ (m.change c).2 ≠ m → m.HasRoomFor c) :
    (m.change c).2.IsTree ∧ ((m.change c).1 = .ok () → HasMade m (m.change c).2 c) := by
  cases c with
  | createDirAll p =>
    refine ⟨isTree_writeEntry htree (e := .directory) fun hok => hroom (.inl hok), fun hok => ?_⟩
    have hwrote : Wrote (m.locate p).components .directory m (m.createDirAll p).2 :=
      wrote_of_writeEntry (p := p) (e := .directory) (Prod.ext hok rfl)
    exact isDirectory_iff.2
      (locate_of_root hwrote.root_eq ▸ hwrote.lookup_directory (hroom (.inl hok)))
  | writeText p content =>
    exact ⟨isTree_writeEntry htree (e := .file content) fun hok => hroom (.inl hok),
      fun _ => trivial⟩
  | writeJson p value =>
    exact ⟨isTree_writeEntry htree (e := .file value.pretty) fun hok => hroom (.inl hok),
      fun _ => trivial⟩
  | copyFile source p =>
    refine ⟨?_, fun _ => trivial⟩
    rw [Memory.change, copyFile] at hroom ⊢
    split
    next => exact htree
    next content hread =>
      rw [hread] at hroom
      exact isTree_writeEntry htree (e := .file content) fun hok => hroom (.inl hok) content hread
  | copyDir source p => exact isTree_copyDir h htree (hsettles rfl) hroom

/-- There was room for what an operation wrote if it leaves a tree in which the directories are that
it was asked for. -/
theorem Reachable.hasRoomFor {m : Memory} (h : m.Reachable) {c : Change}
    (hok : (m.change c).1 = .ok ()) (htree : (m.change c).2.IsTree)
    (hmade : HasMade m (m.change c).2 c) : m.HasRoomFor c := by
  -- a file that was written is there
  have hfile {p : Path} {content : String} {m' : Memory}
      (hwritten : m.writeText p content = (.ok (), m')) (htree : m'.IsTree) :
      m.HasRoom (m.entryPlace p (.file content)) (.file content) :=
    (wrote_of_writeEntry (e := .file content) hwritten).hasRoom htree nofun
      (lookup_writeEntry hwritten)
  have hnamed {place : List Component} (hmade : (m.change c).2.lookup place = some .directory) :
      place ≠ [] := by
    rintro rfl
    exact (h.change c).lookup_nil hmade
  have hgrows := m.change_grows_anywhere c
  cases c with
  | createDirAll p =>
    have hmade := isDirectory_iff.1 hmade
    rw [hgrows.locate_eq] at hmade
    exact (wrote_of_writeEntry (p := p) (e := .directory) (Prod.ext hok rfl)).hasRoom htree
      (fun _ => hnamed hmade) hmade
  | writeText p content => exact hfile (Prod.ext hok rfl) htree
  | writeJson p value => exact hfile (Prod.ext hok rfl) htree
  | copyFile source p =>
    intro content hread
    rw [Memory.change, copyFile, hread] at hok htree
    exact hfile (Prod.ext hok rfl) htree
  | copyDir source p =>
    obtain ⟨htarget, hinside⟩ := hmade
    have htarget := isDirectory_iff.1 htarget
    rw [hgrows.locate_eq] at htarget
    -- a file in the way before would still be one
    refine ⟨hnamed htarget, fun above habove => ?_, fun rest hdirectory => ?_⟩
    · apply hgrows.noFile_before
      exact htree.noFile_above htarget habove fun _ => rfl
    · apply hgrows.noFile_before
      exact noFile_of_directory (hinside rest hdirectory)

/-! ### Sequences of operations -/

/-- If every operation that succeeds or changes the store has room for what it writes, then the
store is a tree after each of them, and the directories that were asked for are there and stay.
The targets of copied directories must settle. Conversely, an operation that succeeds has room if it
leaves a tree and the directories that it was asked for. -/
theorem Reachable.isTree_of_changes {m : Memory} (h : m.Reachable) (htree : m.IsTree)
    (changes : List Change) (hsettles : ∀ c ∈ changes, c.isCopyDir = true → m.Settles c.target) :
    ((∀ before c after, changes = before ++ c :: after →
        ((m.changeAll before).change c).1 = .ok () ∨
            ((m.changeAll before).change c).2 ≠ m.changeAll before →
          (m.changeAll before).HasRoomFor c) →
      (∀ before after, changes = before ++ after → (m.changeAll before).IsTree) ∧
        ∀ before c after, changes = before ++ c :: after →
          ((m.changeAll before).change c).1 = .ok () →
            HasMade (m.changeAll before) ((m.changeAll before).change c).2 c ∧
              ∀ p, c = .createDirAll p → (m.changeAll changes).isDirectory p = true) ∧
    ∀ before c after, changes = before ++ c :: after →
      ((m.changeAll before).change c).1 = .ok () →
        ((m.changeAll before).change c).2.IsTree →
          HasMade (m.changeAll before) ((m.changeAll before).change c).2 c →
            (m.changeAll before).HasRoomFor c := by
  have hsettled {before : List Change} {c : Change} {after : List Change}
      (heq : changes = before ++ c :: after) (hc : c.isCopyDir = true) :
      (m.changeAll before).Settles c.target :=
    (m.changeAll_grows_anywhere before).settles
      (hsettles c (heq ▸ List.mem_append_right _ List.mem_cons_self) hc)
  refine ⟨fun hroom => ?_, fun before c after _ hok => (h.changeAll before).hasRoomFor hok⟩
  -- one operation after the other, each from the tree that those before it left
  have htrees (before : List Change) : ∀ after, changes = before ++ after →
      (m.changeAll before).IsTree := by
    induction before using List.reverseRecOn with
    | nil => exact fun _ _ => htree
    | append_singleton before c ih =>
      intro after heq
      rw [List.append_assoc, List.singleton_append] at heq
      rw [changeAll_append]
      exact ((h.changeAll before).isTree_change (ih _ heq) (hsettled heq)
        (hroom before c after heq)).1
  refine ⟨htrees, fun before c after heq hok => ?_⟩
  have hmade := ((h.changeAll before).isTree_change (htrees before _ heq) (hsettled heq)
    (hroom before c after heq)).2 hok
  refine ⟨hmade, ?_⟩
  rintro p rfl
  -- what comes later removes no directory
  have hlater : Grows (fun _ _ => True) ((m.changeAll before).change (.createDirAll p)).2
      (m.changeAll changes) := by
    rw [heq, changeAll_append]
    exact changeAll_grows_anywhere _ after
  rw [isDirectory_iff, hlater.locate_eq]
  exact hlater.directory_eq (isDirectory_iff.1 hmade)

/-- A file is written in the directory `a` and copied to `c/d`, and then `a` is merged into `c`. -/
theorem Reachable.isTree_of_changes_merged :
    let m : Memory := {}
    let changes := [Change.createDirAll ⟨[0x61]⟩, .writeText ⟨[0x61, 0x2F, 0x62]⟩ "x",
      .copyFile ⟨[0x61, 0x2F, 0x62]⟩ ⟨[0x63, 0x2F, 0x64]⟩, .copyDir ⟨[0x61]⟩ ⟨[0x63]⟩]
    m.Reachable ∧ m.IsTree ∧
      (∀ c ∈ changes, c.isCopyDir = true → m.Settles c.target) ∧
      (∀ before c after, changes = before ++ c :: after → (m.changeAll before).HasRoomFor c) ∧
      (m.changeAll changes).IsTree ∧ (m.changeAll changes).isDirectory ⟨[0x61]⟩ = true ∧
      (m.changeAll changes).readText ⟨[0x63, 0x2F, 0x62]⟩ = .ok "x" := by
  intro m changes
  have hreachable : m.Reachable := .new _
  have htree : m.IsTree := nofun
  have hsettles : ∀ c ∈ changes, c.isCopyDir = true → m.Settles c.target := fun c _ _ =>
    settles_of_root (by decide) c.target
  have hroom : ∀ before c after, changes = before ++ c :: after →
      (m.changeAll before).HasRoomFor c := by
    intro before c after heq
    rcases before with _ | ⟨first, _ | ⟨second, _ | ⟨third, _ | ⟨fourth, before⟩⟩⟩⟩ <;>
      simp only [changes, List.nil_append, List.cons_append, List.cons.injEq] at heq
    · obtain ⟨rfl, -⟩ := heq
      decide +kernel
    · obtain ⟨rfl, rfl, -⟩ := heq
      decide +kernel
    · obtain ⟨rfl, rfl, rfl, -⟩ := heq
      decide +kernel
    · obtain ⟨rfl, rfl, rfl, rfl, -⟩ := heq
      decide +kernel
    · simp at heq
  obtain ⟨hkept, -⟩ := hreachable.isTree_of_changes htree changes hsettles
  obtain ⟨htrees, hmade⟩ := hkept fun before c after heq _ => hroom before c after heq
  exact ⟨hreachable, htree, hsettles, hroom, htrees changes [] rfl,
    (hmade [] _ _ rfl (by decide)).2 _ rfl, by decide⟩

/-- After a file was written at `/a` in an empty store, there is no room for a file at `/a/b`, nor for
the directory `/a`. Both are written, but the second file lies below the first, which is no
directory. On a disk that holds the same file both fail. -/
theorem changes_not_tree :
    let a : Path := ⟨[0x2F, 0x61]⟩
    let inner := Change.writeText ⟨[0x2F, 0x61, 0x2F, 0x62]⟩ "y"
    let m := ({} : Memory).changeAll [.writeText a "x"]
    let d := (({} : Disk).writeText a "x").2
    (¬m.HasRoomFor inner ∧ (m.change inner).1 = .ok () ∧ m.IsTree ∧ ¬(m.change inner).2.IsTree ∧
      (d.writeText ⟨[0x2F, 0x61, 0x2F, 0x62]⟩ "y").1 =
        .error (.failed (.createDirectory a) .fileExists)) ∧
    (¬m.HasRoomFor (.createDirAll a) ∧ (m.createDirAll a).1 = .ok () ∧
      (m.createDirAll a).2.isDirectory a = false ∧
      (d.createDirAll a).1 = .error (.failed (.createDirectory a) .fileExists)) := by
  intro a inner m d
  have htree : m.IsTree := by
    refine ((Reachable.new (.ofString "/mock")).isTree_change (c := .writeText a "x") nofun nofun
      fun _ => ?_).1
    decide
  refine ⟨⟨by decide, rfl, htree, fun htree' => ?_, rfl⟩, by decide, rfl, by decide, rfl⟩
  have hfile : (m.change inner).2.lookup a.components = some (.file "x") := by decide
  have hnone := htree' _ _ hfile (Path.components ⟨[0x2F, 0x61, 0x2F, 0x62]⟩) (by decide) (by decide)
  exact absurd hnone (by decide)

end ContainerBuild.Memory
