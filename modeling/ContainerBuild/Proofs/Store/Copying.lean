import ContainerBuild.Proofs.Path.Parts
import ContainerBuild.Proofs.Store.Growth
import Mathlib.Data.List.Nodup

/-!
# What a copy of a directory holds

A directory is copied by writing what it holds at the same places below the target. Different places
below the directory lead to different places below the target, so nothing that a copy writes is
replaced by what it writes later, and every file arrives as it was.

* `Memory.components_locate_join` — where a path below a directory is located.
* `Memory.lookup_writeAll` — entries that are written at different places are all there.
* `Memory.lookup_copyDir` — the files of a directory are there after it was copied.
-/

namespace ContainerBuild.Memory

open ContainerBuild.Path (Component)

/-! ### Places below a directory -/

/-- A path below a directory is located at its components below the directory, unless it starts with
one that is written only at the start. -/
theorem components_locate_join (m : Memory) (directory : Path) {q : Path}
    (hq : q.isAbsolute = false) (hlead : q.lead = []) :
    (m.locate (directory.join q)).components = (m.locate directory).components ++ q.components := by
  rw [m.locate_join directory hq, Path.components_join_of_lead _ hq hlead]

/-- Every path settles if the root is absolute. -/
theorem settles_of_root {m : Memory} (hroot : m.root.isAbsolute = true) (p : Path) :
    m.Settles p := by
  rw [settles_iff, isAbsolute_locate, hroot, Bool.or_true]
  exact .inl rfl

theorem Settles.locate {m : Memory} {p : Path} (h : m.Settles p) : m.Settles (m.locate p) :=
  m.components_locate_congr h

/-- What lies below a directory that settles settles. -/
theorem Settles.join {m : Memory} {directory q : Path} (h : m.Settles directory)
    (hq : q.isAbsolute = false) : m.Settles (directory.join q) := by
  rw [settles_iff, isAbsolute_locate, Path.isAbsolute_join directory hq, ← isAbsolute_locate,
    ← settles_iff]
  exact h

/-- An entry that is copied to a target is stored below the target at what is left of its path. -/
theorem entryPlace_join_behind {m : Memory} {target : Path} (hsettles : m.Settles target)
    (p : Path) {depth : Nat} (hdepth : depth ≠ 0) (e : MemoryEntry) :
    m.entryPlace ((m.locate target).join (p.behind depth)) e =
      (m.locate target).components ++ p.components.drop depth := by
  have hrelative := p.isAbsolute_behind depth
  rw [(hsettles.locate.join hrelative).entryPlace_eq,
    m.components_locate_join _ hrelative (p.lead_behind depth), hsettles,
    p.components_behind hdepth]

/-- The same holds in a store that has grown since the target was located. -/
theorem Grows.entryPlace_join_behind {may : List Component → MemoryEntry → Prop} {m m' : Memory}
    (h : Grows may m m') {target : Path} (hsettles : m.Settles target) (p : Path) {depth : Nat}
    (hdepth : depth ≠ 0) (e : MemoryEntry) :
    m'.entryPlace ((m.locate target).join (p.behind depth)) e =
      (m.locate target).components ++ p.components.drop depth := by
  rw [h.entryPlace_eq]
  exact Memory.entryPlace_join_behind hsettles p hdepth e

/-! ### Writing entries -/

/-- A file that was written is stored at its place. -/
theorem lookup_writeEntry {m m' : Memory} {p : Path} {content : String}
    (h : m.writeEntry p (.file content) = (.ok (), m')) :
    m'.lookup (m.entryPlace p (.file content)) = some (.file content) := by
  rw [(wrote_of_writeEntry h).lookup_eq, if_pos ⟨rfl, by simp⟩]

/-- A file that was written at a path that settles is stored there. -/
theorem lookup_writeText {m m' : Memory} {p : Path} {content : String} (hsettles : m.Settles p)
    (h : m.writeText p content = (.ok (), m')) :
    m'.lookup (m.locate p).components = some (.file content) := by
  rw [← hsettles.entryPlace_eq (.file content)]
  exact lookup_writeEntry h

/-- A copy of a file holds what was read. -/
theorem lookup_copyFile {m m' : Memory} {source target : Path} (hsettles : m.Settles target)
    (h : m.copyFile source target = (.ok (), m')) :
    ∃ content, m.readText source = .ok content ∧
      m'.lookup (m.locate target).components = some (.file content) := by
  rw [copyFile] at h
  split at h
  next => cases h
  next content hread => exact ⟨content, hread, lookup_writeText hsettles h⟩

/-- If all entries can be written, then so can the first, and the others in the store that it
leaves, where they have the same places. -/
theorem writeAll_cons_ok {m m' : Memory} {depth : Nat} {target source : Path} {e : MemoryEntry}
    {rest : List (Path × MemoryEntry)}
    (h : m.writeAll depth target ((source, e) :: rest) = (.ok (), m')) :
    ∃ m₁, m.writeEntry (target.join (source.behind depth)) e = (.ok (), m₁) ∧
      m₁.writeAll depth target rest = (.ok (), m') ∧ m₁.entryPlace = m.entryPlace := by
  rw [writeAll_cons] at h
  rcases hstep : m.writeEntry (target.join (source.behind depth)) e with ⟨fault | ⟨⟩, m₁⟩
  · rw [hstep] at h
    cases h
  · rw [hstep] at h
    have hgrows : Grows (fun _ _ => True) m
        (m.writeEntry (target.join (source.behind depth)) e).2 :=
      m.writeEntry_grows fun _ _ _ _ => trivial
    rw [hstep] at hgrows
    exact ⟨m₁, rfl, h, funext₂ hgrows.entryPlace_eq⟩

/-- Files that are written with others at different places are there in the end. -/
theorem lookup_writeAll {m m' : Memory} {depth : Nat} {target : Path}
    {entries : List (Path × MemoryEntry)}
    (hdistinct : entries.Pairwise fun a b =>
      m.entryPlace (target.join (a.1.behind depth)) a.2 ≠
        m.entryPlace (target.join (b.1.behind depth)) b.2)
    (h : m.writeAll depth target entries = (.ok (), m')) {p : Path} {content : String}
    (hmem : (p, .file content) ∈ entries) :
    m'.lookup (m.entryPlace (target.join (p.behind depth)) (.file content)) =
      some (.file content) := by
  induction entries generalizing m with
  | nil => cases hmem
  | cons entry rest ih =>
    obtain ⟨hfirst, hrest⟩ := List.pairwise_cons.1 hdistinct
    obtain ⟨m₁, hstep, hothers, hplaces⟩ := writeAll_cons_ok h
    rcases List.mem_cons.1 hmem with rfl | hmem
    · -- what is written later is put elsewhere
      have hgrows : Grows (fun place put => ∃ entry ∈ rest,
          Writes (m.entryPlace (target.join (entry.1.behind depth)) entry.2) entry.2 place put)
          m₁ m' := by
        rw [show m' = (m₁.writeAll depth target rest).2 by rw [hothers]]
        exact m₁.writeAll_grows fun entry hentry _ place put hwrites =>
          ⟨entry, hentry, hplaces ▸ hwrites⟩
      refine hgrows.file_eq (lookup_writeEntry hstep) ?_
      rintro content' ⟨entry, hentry, ⟨hplace, -⟩ | ⟨-, hput⟩⟩
      · exact hfirst entry hentry hplace
      · cases hput
    · rw [← hplaces]
      refine ih ?_ hothers hmem
      simpa only [hplaces] using hrest

/-- Whatever is written with others at a place with components is there in the end. -/
theorem stored_of_writeAll {m m' : Memory} {depth : Nat} {target : Path}
    {entries : List (Path × MemoryEntry)} (h : m.writeAll depth target entries = (.ok (), m'))
    {p : Path} {e : MemoryEntry} (hmem : (p, e) ∈ entries)
    (hnamed : m.entryPlace (target.join (p.behind depth)) e ≠ []) :
    m'.lookup (m.entryPlace (target.join (p.behind depth)) e) ≠ none := by
  induction entries generalizing m with
  | nil => cases hmem
  | cons entry rest ih =>
    obtain ⟨m₁, hstep, hothers, hplaces⟩ := writeAll_cons_ok h
    rcases List.mem_cons.1 hmem with rfl | hmem
    · -- it is there at once, and what comes later removes nothing
      have hstored : m₁.lookup (m.entryPlace (target.join (p.behind depth)) e) ≠ none := by
        rw [(wrote_of_writeEntry hstep).lookup_eq]
        split_ifs with hown hway
        · exact Option.some_ne_none _
        · exact Option.some_ne_none _
        · exact absurd ⟨List.prefix_rfl, hnamed⟩ hway
      have hconfined := m₁.writeAll_confined depth (m₁.under_nil target) rest
      rw [hothers] at hconfined
      exact hconfined.kept _ hstored
    · rw [← hplaces] at hnamed ⊢
      exact ih hothers hmem hnamed

/-! ### Copying a directory -/

/-- What is stored below a path lies behind it, and is sorted. -/
theorem mem_below_iff (m : Memory) (p : Path) (stored : Path × MemoryEntry) :
    stored ∈ m.below p ↔
      stored ∈ m.entries ∧ ∃ rest, rest ≠ [] ∧ stored.1.components = p.components ++ rest := by
  rw [below, List.mem_filter, Path.startsWith, Path.same]
  refine and_congr_right fun _ => ?_
  rw [Bool.and_eq_true_iff, List.isPrefixOf_iff_prefix, Bool.not_eq_true', beq_eq_false_iff_ne]
  constructor
  · rintro ⟨⟨rest, hrest⟩, hne⟩
    refine ⟨rest, ?_, hrest.symm⟩
    rintro rfl
    exact hne (by rw [← hrest, List.append_nil])
  · rintro ⟨rest, hne, hrest⟩
    exact ⟨⟨rest, hrest.symm⟩, by simpa [hrest] using hne⟩

/-- Different entries of a sorted store lie at different places. -/
theorem Sorted.pairwise_ne {m : Memory} (h : m.Sorted) :
    m.entries.Pairwise fun a b => a.1.components ≠ b.1.components := by
  refine List.Pairwise.imp (fun {a b} hbefore heq => ?_) h
  rw [heq] at hbefore
  exact Path.componentsBefore_irrefl _ hbefore

theorem lookup_ne_none_iff {m : Memory} {place : List Component} :
    m.lookup place ≠ none ↔ ∃ stored ∈ m.entries, stored.1.components = place := by
  rw [Ne, lookup, Option.map_eq_none_iff, List.find?_eq_none]
  simp

theorem exists_of_lookup {m : Memory} {place : List Component} {e : MemoryEntry}
    (h : m.lookup place = some e) : ∃ p, (p, e) ∈ m.entries ∧ p.components = place := by
  rw [lookup, Option.map_eq_some_iff] at h
  obtain ⟨⟨p, e'⟩, hfind, rfl⟩ := h
  exact ⟨p, List.mem_of_find?_eq_some hfind, by simpa using List.find?_some hfind⟩

/-- An entry is found at its components in a sorted store. -/
theorem Sorted.lookup_of_mem {m : Memory} (h : m.Sorted) {p : Path} {e : MemoryEntry}
    (hmem : (p, e) ∈ m.entries) : m.lookup p.components = some e := by
  obtain ⟨found, hfound⟩ :=
    Option.ne_none_iff_exists'.1 (lookup_ne_none_iff.2 ⟨(p, e), hmem, rfl⟩)
  obtain ⟨q, hq, hplace⟩ := exists_of_lookup hfound
  have hsame : (q, found) = (p, e) :=
    List.inj_on_of_nodup_map (List.pairwise_map.2 h.pairwise_ne) hq hmem hplace
  rw [hfound, (Prod.mk.inj hsame).2]

/-- After a directory was copied, every file that was stored below it is there at the same place
below the target. -/
theorem lookup_copyDir {m m' : Memory} (hsorted : m.Sorted) {source target : Path}
    (hsettles : m.Settles target) (hsource : (m.locate source).components ≠ [])
    (h : m.copyDir source target = (.ok (), m')) {rest : List Component} (hrest : rest ≠ [])
    {content : String}
    (hfile : m.lookup ((m.locate source).components ++ rest) = some (.file content)) :
    m'.lookup ((m.locate target).components ++ rest) = some (.file content) := by
  have hdepth : (m.locate source).components.length ≠ 0 := by simpa using hsource
  unfold copyDir at h
  dsimp only at h
  split_ifs at h with hdirectory
  · cases h
  rcases hcreate : m.createDirAll (m.locate target) with ⟨fault | ⟨⟩, m₁⟩
  · rw [hcreate] at h
    cases h
  rw [hcreate] at h
  -- creating the target changes no file, so the entries to copy are those of the directory
  have hcreated : Grows (fun _ put => put = .directory) m m₁ := by
    have hgrows : Grows _ m (m.createDirAll (m.locate target)).2 :=
      m.createDirAll_grows fun _ place put hwrites => hwrites.elim And.right And.right
    rwa [hcreate] at hgrows
  obtain ⟨p, hmem, hp⟩ := exists_of_lookup (hcreated.file_eq hfile nofun)
  -- an entry is copied to what is left of its path without the components of the directory
  have hplace := fun q e => hcreated.entryPlace_join_behind hsettles q hdepth e
  -- different entries have different components behind those of the directory
  have hdistinct : (m₁.below (m.locate source)).Pairwise fun a b =>
      a.1.components.drop (m.locate source).components.length ≠
        b.1.components.drop (m.locate source).components.length := by
    refine List.Pairwise.imp_of_mem (fun {a b} ha hb hne => ?_)
      ((hcreated.sorted hsorted).pairwise_ne.filter _)
    obtain ⟨-, left, -, hleft⟩ := (m₁.mem_below_iff _ _).1 ha
    obtain ⟨-, right, -, hright⟩ := (m₁.mem_below_iff _ _).1 hb
    rw [hleft, hright] at hne ⊢
    rw [List.drop_left, List.drop_left]
    rintro rfl
    exact hne rfl
  have hbelow : (p, .file content) ∈ m₁.below (m.locate source) :=
    (m₁.mem_below_iff _ _).2 ⟨hmem, rest, hrest, hp⟩
  have hall := lookup_writeAll (by simpa only [hplace, ne_eq, List.append_cancel_left_eq] using
    hdistinct) h hbelow
  rwa [hplace, hp, List.drop_left] at hall

end ContainerBuild.Memory
