import ContainerBuild.Proofs.Store.Room

/-!
# Copies of subtrees

What lies below a directory stands together in a sorted store, right behind the directory, so a scan
from there that ends with the first entry elsewhere finds it all, and nothing of a directory whose
name merely starts with the same bytes. The entries to copy are taken when the target is there, and
before any of them is written, so a copy is exact also if one directory lies in the other.

* `Memory.scan`, `Memory.Sorted.below_eq_scan` — what lies below a path is found by a scan.
* `Memory.changed_of_copyDir` — a copy puts entries of the source where they belong, and nothing
  else.
* `Memory.Reachable.copyDir_subtree` — what a copy does in every store that is reached.
* `Memory.copyDir_relativeRoot` — a copy below a relative root that goes elsewhere.
-/

namespace ContainerBuild.Memory

open ContainerBuild.Path (Component componentsBefore)

/-! ### Scanning sorted entries -/

/-- The entries from the place of a path on, as long as they lie there or below, except the one at
the place itself. -/
def scan (m : Memory) (p : Path) : List (Path × MemoryEntry) :=
  ((m.entries.dropWhile fun stored => componentsBefore stored.1.components p.components).takeWhile
    fun stored => stored.1.startsWith p).filter fun stored => !stored.1.same p

/-- Among sorted entries of which none comes before a path, those at or below it come first. -/
theorem IsSorted.filter_eq_takeWhile {entries : List (Path × MemoryEntry)} (h : IsSorted entries)
    {p : Path} (hbehind : ∀ stored ∈ entries,
      ¬componentsBefore stored.1.components p.components = true) :
    entries.filter (fun stored => stored.1.startsWith p) =
      entries.takeWhile fun stored => stored.1.startsWith p := by
  -- once an entry is not below the path, none of the later ones is
  induction entries with
  | nil => rfl
  | cons first rest ih =>
    obtain ⟨hfirst, hrest⟩ := List.pairwise_cons.1 h
    rw [List.forall_mem_cons] at hbehind
    by_cases hbelow : first.1.startsWith p = true
    · rw [List.filter_cons_of_pos (by exact hbelow), List.takeWhile_cons_of_pos (by exact hbelow),
        ih hrest hbehind.2]
    · rw [List.takeWhile_cons_of_neg (by exact hbelow), List.filter_eq_nil_iff,
        List.forall_mem_cons]
      refine ⟨hbelow, fun stored hstored hlater => ?_⟩
      rw [Path.startsWith, List.isPrefixOf_iff_prefix] at hbelow hlater
      -- an entry behind the first cannot lie below the path that the first has passed
      have hpassed : componentsBefore p.components first.1.components = true := by
        by_contra hnot
        exact hbelow (Path.componentsBefore_total hnot hbehind.1 ▸ List.prefix_rfl)
      obtain ⟨inner, hinner⟩ := hlater
      have hback := Path.append_before hpassed hbelow inner
      rw [hinner] at hback
      have hloop := Path.componentsBefore_trans hback (hfirst stored hstored)
      exact Path.componentsBefore_irrefl _ hloop

/-- What lies below a path in a sorted store is what a scan finds. -/
theorem Sorted.below_eq_scan {m : Memory} (h : m.Sorted) (p : Path) : m.below p = m.scan p := by
  have hscan {entries : List (Path × MemoryEntry)} (h : IsSorted entries) :
      entries.filter (fun stored => stored.1.startsWith p) =
        (entries.dropWhile fun stored =>
          componentsBefore stored.1.components p.components).takeWhile
            fun stored => stored.1.startsWith p := by
    induction entries with
    | nil => rfl
    | cons first rest ih =>
      obtain ⟨hfirst, hrest⟩ := List.pairwise_cons.1 h
      by_cases hbefore : componentsBefore first.1.components p.components = true
      · -- the scan starts later, and so does what it looks for
        have hnot : ¬first.1.startsWith p = true := fun hbelow =>
          Path.not_before_of_prefix (List.isPrefixOf_iff_prefix.1 hbelow) hbefore
        rw [List.dropWhile_cons_of_pos (by exact hbefore), List.filter_cons_of_neg (by exact hnot),
          ih hrest]
      · rw [List.dropWhile_cons_of_neg (by exact hbefore)]
        refine h.filter_eq_takeWhile (List.forall_mem_cons.2 ⟨hbefore, ?_⟩)
        intro stored hstored hback
        exact hbefore (Path.componentsBefore_trans (hfirst stored hstored) hback)
  rw [scan, ← hscan h, List.filter_filter, below]
  simp only [Bool.and_comm]

/-! ### Copying -/

/-- Only directories are copied. -/
theorem isDirectory_of_copyDir {m m' : Memory} {source target : Path}
    (h : m.copyDir source target = (.ok (), m')) : m.isDirectory (m.locate source) = true := by
  unfold copyDir at h
  dsimp only at h
  split_ifs at h with hdirectory
  · cases h
  · simpa using hdirectory

/-- Once the target is there, a copy only puts entries of the source where they belong, below the
target, if it is complete. -/
theorem changed_of_copyDir {m m₁ m' : Memory} (h : m.Reachable) {source target : Path}
    (hsettles : m.Settles target) (hsource : (m.locate source).components ≠ [])
    (hcreated : Wrote (m.locate target).components .directory m m₁)
    (hcopied : Grows (Copies m₁ (m.locate source).components (m.locate target).components) m₁ m')
    (hcopy : m.copyDir source target = (.ok (), m')) {place : List Component}
    (hchanged : m'.lookup place ≠ m₁.lookup place) :
    (place <+: (m.locate target).components ∧ m₁.lookup place = none ∧
      m'.lookup place = some .directory) ∨
    ∃ rest e, rest ≠ [] ∧ m₁.lookup ((m.locate source).components ++ rest) = some e ∧
      place = (m.locate target).components ++ rest ∧ m'.lookup place = some e := by
  obtain ⟨put, ⟨rest, e, hrest, hstored, hwrites⟩, hput, -⟩ := hcopied.changed place hchanged
  rcases hwrites with ⟨rfl, rfl⟩ | ⟨hway, rfl⟩
  · exact .inr ⟨rest, put, hrest, hstored, rfl, hput⟩
  -- a directory on the way is new, so it is above the target or has its own entry in the source
  have hnew := hcopied.lookup_eq_none hput hchanged
  rcases List.prefix_or_prefix_of_prefix hway (List.prefix_append _ rest) with
    habove | ⟨inner, rfl⟩
  · exact .inl ⟨habove, hnew, hput⟩
  by_cases hinner : inner = []
  · rw [hinner, List.append_nil] at hnew hput ⊢
    exact .inl ⟨List.prefix_rfl, hnew, hput⟩
  have hthere : m₁.lookup ((m.locate source).components ++ inner) ≠ none :=
    (hcreated.closed h.closed) _ (by simp [hstored]) _
      ((List.prefix_append_right_inj _).2 ((List.prefix_append_right_inj _).1 hway))
      (by simp [hsource])
  rcases hentry : m₁.lookup ((m.locate source).components ++ inner) with _ | content | _
  · exact absurd hentry hthere
  · -- a file would have been copied as one
    have hfile := (hcreated.file_iff fun _ => rfl).1 hentry
    rw [lookup_copyDir h.sorted hsettles hsource hcopy hinner hfile] at hput
    cases hput
  · exact .inr ⟨inner, .directory, hinner, hentry, rfl, hput⟩

/-- In every store that is reached, what lies below a path is what a scan finds. If a directory was
copied to a target that settles, then every file that was stored below the source is there at the
same place below the target, and whatever has changed is a directory that was created at the target
or above it, or was copied from what was stored below the source when the target was there, to the
same place below the target. If the copy fails, then at most the target, what lies below it and
directories above it have changed, and nothing is removed. -/
theorem Reachable.copyDir_subtree {m : Memory} (h : m.Reachable) {source target : Path}
    (hsettles : m.Settles target) :
    let src := (m.locate source).components
    let dst := (m.locate target).components
    let created := m.ensureDirectories dst
    (∀ p, m.below p = m.scan p ∧ created.below p = created.scan p) ∧
    (∀ m', m.copyDir source target = (.ok (), m') →
      (m.Settles source → m.lookup src = some .directory) ∧
      (∀ rest content, rest ≠ [] → m.lookup (src ++ rest) = some (.file content) →
        m'.lookup (dst ++ rest) = some (.file content)) ∧
      ∀ place, m'.lookup place ≠ m.lookup place →
        (place <+: dst ∧ m.lookup place = none ∧ m'.lookup place = some .directory) ∨
        ∃ rest e, rest ≠ [] ∧ created.lookup (src ++ rest) = some e ∧ place = dst ++ rest ∧
          m'.lookup place = some e) ∧
    ∀ fault m', m.copyDir source target = (.error fault, m') →
      (∀ place, m'.lookup place ≠ m.lookup place →
        dst <+: place ∨ (place <+: dst ∧ place ≠ dst) ∧ m.lookup place = none ∧
          m'.lookup place = some .directory) ∧
      ∀ place, m.lookup place ≠ none → m'.lookup place ≠ none := by
  intro src dst created
  have hcreate : Wrote dst .directory m created := m.ensureDirectories_wrote (m.locate target)
  refine ⟨fun p => ⟨h.sorted.below_eq_scan p, (hcreate.sorted h.sorted).below_eq_scan p⟩, ?_, ?_⟩
  · intro m' hcopy
    rcases copyDir_cases h source hsettles with
      ⟨fault, hrefused⟩ | ⟨hsource, m₁, hcreated, hcopied, -⟩
    · rw [hcopy] at hrefused
      cases hrefused
    rw [hcopy] at hcopied
    -- both stores in which the target is there hold the same
    have hsame (place : List Component) : m₁.lookup place = created.lookup place := by
      rw [hcreated.lookup_eq, hcreate.lookup_eq]
    refine ⟨fun hsettled => ?_, fun rest content hrest hfile =>
      lookup_copyDir h.sorted hsettles hsource hcopy hrest hfile, fun place hchanged => ?_⟩
    · have hdirectory := isDirectory_iff.1 (isDirectory_of_copyDir hcopy)
      rwa [hsettled] at hdirectory
    · by_cases hfirst : m₁.lookup place = m.lookup place
      · rw [← hfirst] at hchanged ⊢
        simp only [← hsame]
        exact changed_of_copyDir h hsettles hsource hcreated hcopied hcopy hchanged
      · -- what was created stays a directory
        have hgrows := hcreated.grows fun he => absurd rfl he
        obtain ⟨put, hwrites, hput, -⟩ := hgrows.changed place hfirst
        obtain ⟨hway, rfl⟩ : place <+: dst ∧ put = .directory := by
          rcases hwrites with ⟨rfl, rfl⟩ | hway
          · exact ⟨List.prefix_rfl, rfl⟩
          · exact hway
        exact .inl ⟨hway, hgrows.lookup_eq_none hput hfirst, hcopied.directory_eq hput⟩
  · intro fault m' hcopy
    have hconfined := m.copyDir_confined source hsettles.under
    rw [hcopy] at hconfined
    exact ⟨hconfined.changed, hconfined.kept⟩

/-- Files at `/a/f`, `/a/b/g` and `/a-o/h`. -/
def nested : Memory :=
  ((({} : Memory).addFile (.ofString "/a/f") "x").addFile (.ofString "/a/b/g") "y").addFile
    (.ofString "/a-o/h") "z"

/-- The directory `/a` is copied to `/a/b` in itself. Its files are there after the copy, and no
file of `/a-o`, of which the name only starts in the same way. -/
theorem Reachable.copyDir_subtree_inside :
    nested.Reachable ∧ nested.Settles (.ofString "/a/b") ∧
      ∃ m', nested.copyDir (.ofString "/a") (.ofString "/a/b") = (.ok (), m') ∧
        m'.lookup (Path.ofString "/a/b/f").components = some (.file "x") ∧
        m'.lookup (Path.ofString "/a/b/b/g").components = some (.file "y") ∧
        m'.lookup (Path.ofString "/a/b/h").components = none := by
  have hreachable : nested.Reachable := .addFile (.addFile (.addFile (.new _) _ _) _ _) _ _
  have hsettles : nested.Settles (.ofString "/a/b") := settles_of_root (by decide) _
  have hcopy : nested.copyDir (.ofString "/a") (.ofString "/a/b") =
      (.ok (), (nested.copyDir (.ofString "/a") (.ofString "/a/b")).2) :=
    Prod.ext (by decide +kernel) rfl
  obtain ⟨-, hcopied, -⟩ :=
    @Reachable.copyDir_subtree nested hreachable (.ofString "/a") (.ofString "/a/b") hsettles
  obtain ⟨-, hfiles, hframe⟩ := hcopied _ hcopy
  refine ⟨hreachable, hsettles, _, hcopy,
    hfiles [.normal [0x66]] "x" (by decide) (by decide +kernel),
    hfiles [.normal [0x62], .normal [0x67]] "y" (by decide) (by decide +kernel), ?_⟩
  have hnone : nested.lookup (Path.ofString "/a/b/h").components = none := by decide +kernel
  rw [← hnone]
  by_contra hchanged
  rcases hframe _ hchanged with ⟨hway, -⟩ | ⟨rest, e, -, hstored, hplace, -⟩
  · exact absurd hway (by decide)
  · -- what is at this place below the target is not stored below the source
    obtain rfl : [Component.normal [0x68]] = rest :=
      @List.append_cancel_left _ (nested.locate (.ofString "/a/b")).components _ _ hplace
    have hnone : (nested.ensureDirectories (nested.locate (.ofString "/a/b")).components).lookup
        ((nested.locate (.ofString "/a")).components ++ [.normal [0x68]]) = none := by
      decide +kernel
    rw [hnone] at hstored
    cases hstored

/-- Files at `m/src/f` and `m/m/src/g`, below the relative root `m`. -/
def rootedTwice : Memory :=
  (({ root := .ofString "m" } : Memory).addFile (.ofString "src/f") "x").addFile
    (.ofString "m/src/g") "y"

/-- Below the relative root `m`, the file `src/f` is copied with `src`, but not to `dst/f`: the copy
is stored below the root twice more, and not found. -/
theorem copyDir_relativeRoot :
    rootedTwice.Reachable ∧
      rootedTwice.lookup (rootedTwice.locate (.ofString "src/f")).components = some (.file "x") ∧
      ∃ m', rootedTwice.copyDir (.ofString "src") (.ofString "dst") = (.ok (), m') ∧
        m'.lookup (rootedTwice.locate (.ofString "dst/f")).components = none ∧
        rootedTwice.lookup (Path.ofString "m/m/m/dst/f").components = none ∧
        m'.lookup (Path.ofString "m/m/m/dst/f").components = some (.file "x") := by
  have hcopy : rootedTwice.copyDir (.ofString "src") (.ofString "dst") =
      (.ok (), (rootedTwice.copyDir (.ofString "src") (.ofString "dst")).2) :=
    Prod.ext (by decide +kernel) rfl
  exact ⟨.addFile (.addFile (.new _) _ _) _ _, by decide +kernel, _, hcopy, by decide +kernel,
    by decide +kernel, by decide +kernel⟩

end ContainerBuild.Memory
