import ContainerBuild.Proofs.Disk.Walking
import ContainerBuild.Proofs.Path.Parts

/-!
# What writing changes on a disk

A directory or file is written at one location, in a directory. Directories stay directories, files
stay files, and creating a directory with those above it adds directories on its way only, so a disk
grows where it is written to. Below a directory that is there, only the entry itself is written.

* `Disk.Wrote`, `Disk.put_wrote` — what is on a disk after something was written at a location.
* `Disk.Grows` — how a disk may change by writing at some locations.
* `Disk.Sound.of_createDirAll` — what creating a directory with those above it adds.
* `Disk.Sound.of_copyFile_join` — what copying a file into a directory writes.
-/

namespace ContainerBuild.Disk

open ContainerBuild.Path (Component)

/-! ### Growth -/

/-- How a disk may change by writing: directories and files are put where they may, and nothing else
changes. -/
structure Grows (may : Location → Node → Prop) (d d' : Disk) : Prop where
  /-- The working directory is the same. -/
  cwd_eq : d'.cwd = d.cwd
  /-- Paths may be as long. -/
  pathLimit_eq : d'.pathLimit = d.pathLimit
  /-- Names can still be written in paths. -/
  sound : d.Sound → d'.Sound
  /-- Nothing is removed, and no file becomes a directory or the other way round. -/
  kept : ∀ location old, d.root.node? location = some old →
    ∃ n, d'.root.node? location = some n ∧ (n = .directory ↔ old = .directory)
  /-- What is new may be put there. -/
  changed : ∀ location n, d'.root.node? location = some n → d.root.node? location ≠ some n →
    may location n

namespace Grows

variable {may more : Location → Node → Prop} {d d' d'' : Disk}

theorem refl (d : Disk) : Grows may d d :=
  ⟨rfl, rfl, id, fun _ old h => ⟨old, h, Iff.rfl⟩, fun _ _ h hne => absurd h hne⟩

theorem mono (h : Grows may d d') (hmore : ∀ location n, may location n →
    d.root.node? location ≠ some n → more location n) : Grows more d d' where
  cwd_eq := h.cwd_eq
  pathLimit_eq := h.pathLimit_eq
  sound := h.sound
  kept := h.kept
  changed := fun location n hn hne => hmore location n (h.changed location n hn hne) hne

theorem trans (h : Grows may d d') (h' : Grows may d' d'') : Grows may d d'' where
  cwd_eq := h'.cwd_eq.trans h.cwd_eq
  pathLimit_eq := h'.pathLimit_eq.trans h.pathLimit_eq
  sound := fun hsound => h'.sound (h.sound hsound)
  kept := fun location old hold =>
    let ⟨middle, hmiddle, hkind⟩ := h.kept location old hold
    let ⟨n, hn, hkind'⟩ := h'.kept location middle hmiddle
    ⟨n, hn, hkind'.trans hkind⟩
  changed := by
    intro location n hn hne
    -- what is new was put there in the first step or in the second
    by_cases hfirst : d'.root.node? location = some n
    · exact h.changed location n hfirst hne
    · exact h'.changed location n hn hfirst

theorem directory (h : Grows may d d') {location : Location}
    (hlocation : d.root.node? location = some .directory) :
    d'.root.node? location = some .directory := by
  obtain ⟨n, hn, hkind⟩ := h.kept location .directory hlocation
  rw [hn, hkind.2 rfl]

theorem node?_ne_none (h : Grows may d d') {location : Location}
    (hlocation : d.root.node? location ≠ none) : d'.root.node? location ≠ none := by
  obtain ⟨old, hold⟩ := Option.ne_none_iff_exists'.1 hlocation
  obtain ⟨n, hn, -⟩ := h.kept location old hold
  exact hn ▸ Option.some_ne_none n

/-- What may not be changed is not. -/
theorem node?_eq (h : Grows may d d') {location : Location} (hnot : ∀ n, ¬may location n) :
    d'.root.node? location = d.root.node? location := by
  cases hold : d.root.node? location with
  | some old =>
    obtain ⟨n, hn, -⟩ := h.kept location old hold
    by_contra hne
    exact hnot n (h.changed location n hn (by rw [← hn, hold]; exact Ne.symm hne))
  | none =>
    by_contra hne
    obtain ⟨n, hn⟩ := Option.ne_none_iff_exists'.1 hne
    exact hnot n (h.changed location n hn (by simp [hold]))

theorem startOf_eq (h : Grows may d d') (p : Path) : d'.startOf p = d.startOf p := by
  rw [startOf, startOf, h.cwd_eq]

theorem locationOf_eq (h : Grows may d d') (p : Path) : d'.locationOf p = d.locationOf p := by
  rw [locationOf, locationOf, h.startOf_eq]

theorem leads (h : Grows may d d') {p : Path} (hp : d.Leads p) : d'.Leads p := by
  intro way hway
  rw [h.startOf_eq]
  exact h.directory (hp way hway)

end Grows

/-! ### Writing at one location -/

/-- A directory or file was put at a location, and nothing else changed. -/
structure Wrote (own : Location) (new : Node) (d d' : Disk) : Prop where
  /-- The working directory is the same. -/
  cwd_eq : d'.cwd = d.cwd
  /-- Paths may be as long. -/
  pathLimit_eq : d'.pathLimit = d.pathLimit
  /-- Names can still be written in paths. -/
  sound : d.Sound → d'.Sound
  /-- At its location there is what was put. -/
  node?_eq : ∀ location, d'.root.node? location =
    if location = own then some new else d.root.node? location

namespace Wrote

variable {own : Location} {new new' : Node} {d d' d'' : Disk}

theorem node?_own (h : Wrote own new d d') : d'.root.node? own = some new := by
  rw [h.node?_eq, if_pos rfl]

theorem trans (h : Wrote own new d d') (h' : Wrote own new' d' d'') : Wrote own new' d d'' where
  cwd_eq := h'.cwd_eq.trans h.cwd_eq
  pathLimit_eq := h'.pathLimit_eq.trans h.pathLimit_eq
  sound := fun hsound => h'.sound (h.sound hsound)
  node?_eq := by
    intro location
    rw [h'.node?_eq, h.node?_eq]
    split <;> rfl

/-- Writing grows a disk if it replaces files by files only. -/
theorem grows (h : Wrote own new d d')
    (hold : ∀ old, d.root.node? own = some old → (new = .directory ↔ old = .directory)) :
    Grows (fun location n => location = own ∧ n = new) d d' where
  cwd_eq := h.cwd_eq
  pathLimit_eq := h.pathLimit_eq
  sound := h.sound
  kept := by
    intro location old hlocation
    rw [h.node?_eq]
    split
    next hown => exact ⟨new, rfl, hold old (hown ▸ hlocation)⟩
    next => exact ⟨old, hlocation, Iff.rfl⟩
  changed := by
    intro location n hn hne
    rw [h.node?_eq] at hn
    split at hn
    next hown => exact ⟨hown, (Option.some.inj hn).symm⟩
    next => exact absurd hn hne

end Wrote

/-- The location is that of a name in a directory. -/
def HasParent (d : Disk) (location : Location) : Prop :=
  ∃ above name, location = above ++ [name] ∧ d.root.node? above = some .directory ∧
    IsFileName name

/-- A leaf that is put in a directory, where there is no directory, is written there. -/
theorem put_wrote {d : Disk} {location : Location} (new : Tree) (hparent : d.HasParent location)
    (hold : d.root.node? location ≠ some .directory) (hleaf : new.names = []) :
    Wrote location new.node d (d.put location new) := by
  obtain ⟨above, name, rfl, habove, hname⟩ := hparent
  have hput (other : Location) : (d.put (above ++ [name]) new).root.node? other =
      if other = above ++ [name] then some new.node else d.root.node? other :=
    Tree.node?_put habove hold hleaf other
  refine ⟨rfl, rfl, fun hsound => ⟨?_, ?_⟩, hput⟩
  · -- the working directory is elsewhere
    show (d.put _ new).root.node? d.cwd = _
    rw [hput, if_neg fun hcwd : d.cwd = above ++ [name] => hold (hcwd ▸ hsound.cwd)]
    exact hsound.cwd
  · intro other hother name' hmem
    rw [hput] at hother
    split at hother
    next hown =>
      rw [hown, List.mem_append, List.mem_singleton] at hmem
      rcases hmem with hmem | rfl
      · exact hsound.names above (habove ▸ Option.some_ne_none _) name' hmem
      · exact hname
    next => exact hsound.names other hother name' hmem

theorem Wrote.hasParent {own : Location} {new : Node} {d d' : Disk} (h : Wrote own new d d')
    (hold : d.root.node? own ≠ some .directory) {location : Location}
    (hparent : d.HasParent location) : d'.HasParent location := by
  obtain ⟨above, name, rfl, habove, hname⟩ := hparent
  refine ⟨above, name, rfl, ?_, hname⟩
  rw [h.node?_eq, if_neg fun hown : above = own => hold (hown ▸ habove)]
  exact habove

/-! ### Directories and files -/

/-- What is walked to, and is no directory, is in a directory. -/
theorem Sound.hasParent {d : Disk} (h : d.Sound) {p : Path} {place : Place}
    (hplace : d.place p = .ok place)
    (hold : d.root.node? (d.locationOf p) ≠ some .directory) : d.HasParent (d.locationOf p) := by
  obtain ⟨-, happroaches, -, hat, hnew⟩ := h.of_place hplace
  cases place with
  | missing trail name =>
    obtain ⟨before, hinner, hname⟩ := hnew trail name rfl
    refine ⟨before.foldl onward (d.startOf p), name, ?_, ?_, hname⟩
    · rw [locationOf, hinner, List.foldl_append]
      rfl
    · exact happroaches before (by simp [hinner]) (by simp [hinner])
  | found trail t =>
    have hthere : d.root.node? (d.locationOf p) ≠ none := by
      rw [Tree.node?, hat]
      exact Option.some_ne_none _
    rcases List.eq_nil_or_concat (d.locationOf p) with hroot | ⟨above, name, hlocation⟩
    · -- the root is a directory
      rw [hroot] at hold
      exact absurd (h.node?_start ⟨[Path.slash]⟩) hold
    · rw [List.concat_eq_append] at hlocation
      rw [hlocation] at hthere ⊢
      exact ⟨above, name, rfl, Tree.node?_append hthere (List.cons_ne_nil name []),
        h.names _ hthere name (by simp)⟩

/-- A directory is created where nothing is. -/
theorem Sound.of_makeDirectory {d d' : Disk} (h : d.Sound) {p : Path}
    (hmade : d.makeDirectory p = (.ok (), d')) :
    d.Approaches p ∧ d.root.node? (d.locationOf p) = none ∧
      Wrote (d.locationOf p) .directory d d' := by
  unfold makeDirectory at hmade
  split at hmade
  next => cases hmade
  next => cases hmade
  next trail name hplace =>
    cases hmade
    obtain ⟨-, happroaches, hlocation, hat, -⟩ := h.of_place hplace
    have hnone : d.root.node? (d.locationOf p) = none := by rw [Tree.node?, hat]; rfl
    have hlocation : trail.location ++ [name] = d.locationOf p := hlocation
    rw [hlocation]
    exact ⟨happroaches, hnone,
      put_wrote .empty (h.hasParent hplace (by simp [hnone])) (by simp [hnone]) rfl⟩

/-- A file is opened where nothing or a file is, and it is empty then. -/
theorem Sound.of_openFile {d d' : Disk} (h : d.Sound) {p : Path} {location : Location}
    (hopened : d.openFile p = (.ok location, d')) :
    location = d.locationOf p ∧ d.HasParent location ∧
      d.root.node? location ≠ some .directory ∧ Wrote location (.file []) d d' := by
  unfold openFile at hopened
  -- in both cases the file is put where the path leads
  have hput {place : Place} (hplace : d.place p = .ok place)
      (hold : d.root.node? (d.locationOf p) ≠ some .directory)
      (heq : (.ok place.location, d.put place.location (.file [])) =
        ((.ok location, d') : Result Location)) :
      location = d.locationOf p ∧ d.HasParent location ∧
        d.root.node? location ≠ some .directory ∧ Wrote location (.file []) d d' := by
    obtain ⟨-, -, hlocation, -, -⟩ := h.of_place hplace
    cases heq
    rw [hlocation]
    have hparent := h.hasParent hplace hold
    exact ⟨rfl, hparent, hold, put_wrote (.file []) hparent hold rfl⟩
  split at hopened
  next => cases hopened
  next trail t hplace =>
    split at hopened
    next => cases hopened
    next hfile =>
      obtain ⟨-, -, -, hat, -⟩ := h.of_place hplace
      refine hput hplace (fun hdirectory => ?_) hopened
      rw [Tree.node?, hat] at hdirectory
      have hdirectory := Tree.node_eq_directory_iff.1 (Option.some.inj hdirectory)
      simp [hdirectory] at hfile
  next trail name hplace =>
    split at hopened
    next => cases hopened
    next =>
      obtain ⟨-, -, -, hat, -⟩ := h.of_place hplace
      refine hput hplace (fun hdirectory => ?_) hopened
      rw [Tree.node?, hat] at hdirectory
      cases hdirectory

/-- What is written to a file that was opened is written where its path leads. -/
theorem Sound.put_of_openFile {d d' : Disk} (h : d.Sound) {p : Path} {location : Location}
    (hopened : d.openFile p = (.ok location, d')) (content : Bytes) :
    Wrote location (.file content) d (d'.put location (.file content)) := by
  obtain ⟨-, hparent, hold, hwrote⟩ := h.of_openFile hopened
  exact hwrote.trans (put_wrote (.file content) (hwrote.hasParent hold hparent)
    (by rw [hwrote.node?_own]; simp) rfl)

/-! ### Directories on the way -/

/-- A directory where a beginning of the path leads. -/
def IsOnWay (d : Disk) (p : Path) (location : Location) (n : Node) : Prop :=
  n = .directory ∧ ∃ way, way <+: p.inner ∧ location = way.foldl onward (d.startOf p)

/-- The second path is a beginning of the first. -/
def IsAbove (p q : Path) : Prop := q.isAbsolute = p.isAbsolute ∧ q.inner <+: p.inner

theorem IsAbove.isOnWay {p q : Path} (h : IsAbove p q) {d : Disk} {location : Location} {n : Node}
    (hway : d.IsOnWay q location n) : d.IsOnWay p location n := by
  obtain ⟨hn, way, hbegins, hlocation⟩ := hway
  refine ⟨hn, way, hbegins.trans h.2, ?_⟩
  rw [hlocation, startOf, startOf, h.1]

theorem Grows.isOnWay_iff {may : Location → Node → Prop} {d d' : Disk} (h : Grows may d d')
    (p : Path) (location : Location) (n : Node) :
    d'.IsOnWay p location n ↔ d.IsOnWay p location n := by
  rw [IsOnWay, IsOnWay, h.startOf_eq]

/-- A parent has the components in front of the last one, which is not the root. -/
theorem components_of_parent? {p q : Path} (h : p.parent? = some q) :
    ∃ last, p.components = q.components ++ [last] ∧ last ≠ .root := by
  rcases List.eq_nil_or_concat p.components with hnil | ⟨before, last, hcomponents⟩
  · rw [Path.parent?, hnil] at h
    cases h
  · rw [List.concat_eq_append] at hcomponents
    have hlast : last ≠ .root := by
      rintro rfl
      rw [Path.parent?, hcomponents, List.reverse_concat] at h
      cases h
    obtain ⟨q', hq', hbefore⟩ := Path.parent?_eq_some hcomponents hlast
    obtain rfl : q = q' := Option.some.inj (h.symm.trans hq')
    exact ⟨last, by rw [hbefore, hcomponents], hlast⟩

theorem isAbove_of_parent? {p q : Path} (h : p.parent? = some q) : IsAbove p q := by
  obtain ⟨last, hcomponents, hlast⟩ := components_of_parent? h
  constructor
  · rw [Bool.eq_iff_iff, Path.isAbsolute_iff, Path.isAbsolute_iff, hcomponents]
    cases q.components <;> simp [hlast]
  · rw [Path.inner_eq_filter, Path.inner_eq_filter p, hcomponents, List.filter_append]
    exact List.prefix_append _ _

/-- A directory that was made is at the end of its way, and leads there. -/
theorem Sound.leads_of_makeDirectory {d d' : Disk} (h : d.Sound) {p : Path}
    (hmade : d.makeDirectory p = (.ok (), d')) : d'.Leads p ∧ Grows (d.IsOnWay p) d d' := by
  obtain ⟨happroaches, hnone, hwrote⟩ := h.of_makeDirectory hmade
  have hgrows := hwrote.grows fun old hold => by rw [hnone] at hold; cases hold
  refine ⟨Tree.Passes.clears (fun way hway hne => ?_) ?_, hgrows.mono ?_⟩
  · rw [hgrows.startOf_eq]
    exact hgrows.directory (happroaches way hway hne)
  · rw [hgrows.startOf_eq]
    exact hwrote.node?_own
  · rintro location n ⟨rfl, rfl⟩ -
    exact ⟨rfl, p.inner, List.prefix_rfl, rfl⟩

/-- The empty path leads to the working directory. -/
theorem Sound.leads_of_empty {d : Disk} (h : d.Sound) {p : Path} (hempty : p.bytes = []) :
    d.Leads p := by
  obtain ⟨bytes⟩ := p
  obtain rfl : bytes = [] := hempty
  intro way hway
  obtain rfl : way = [] := List.prefix_nil.1 hway
  exact h.node?_start _

/-- What creates the first directory grows the disk on the way, and leaves to create what is missing
behind that one. -/
theorem Sound.of_createFirst {d d' : Disk} (h : d.Sound) {fuel : Nat} {missing missing' : List Path}
    {p : Path} (hfirst : d.createFirst fuel missing p = (.ok missing', d')) :
    Grows (d.IsOnWay p) d d' ∧
      ((missing' = missing ∧ (fuel ≠ 0 → d'.Leads p)) ∨
        ∃ above, missing' = above ++ p :: missing ∧ ∀ q ∈ above, IsAbove p q) := by
  -- nothing is written before a directory can be made, so the disk is the same at every parent
  induction fuel generalizing missing p with
  | zero =>
    cases hfirst
    exact ⟨.refl d, .inl ⟨rfl, fun hne => absurd rfl hne⟩⟩
  | succ fuel ih =>
    rw [createFirst] at hfirst
    split at hfirst
    next hempty =>
      cases hfirst
      exact ⟨.refl d, .inl ⟨rfl, fun _ => h.leads_of_empty (List.isEmpty_iff.1 hempty)⟩⟩
    next hempty =>
    split at hfirst
    next d₁ hmade =>
      cases hfirst
      obtain ⟨hleads, hgrows⟩ := h.leads_of_makeDirectory hmade
      exact ⟨hgrows, .inl ⟨rfl, fun _ => hleads⟩⟩
    next =>
      split at hfirst
      next =>
        cases hfirst
        exact ⟨.refl d, .inr ⟨[], rfl, fun q hq => absurd hq List.not_mem_nil⟩⟩
      next parent hparent =>
        -- the parent comes in front of the path, and so does what is above it
        have habove := isAbove_of_parent? hparent
        obtain ⟨hgrows, hrest⟩ := ih hfirst
        refine ⟨hgrows.mono fun _ _ hway _ => habove.isOnWay hway, .inr ?_⟩
        rcases hrest with ⟨rfl, -⟩ | ⟨above, rfl, hall⟩
        · exact ⟨[], rfl, fun q hq => absurd hq List.not_mem_nil⟩
        · refine ⟨above ++ [parent], by simp, fun q hq => ?_⟩
          rcases List.mem_append.1 hq with hq | hq
          · exact ⟨(hall q hq).1.trans habove.1, (hall q hq).2.trans habove.2⟩
          · rwa [List.mem_singleton.1 hq]
    next =>
      split at hfirst
      next hdirectory =>
        cases hfirst
        exact ⟨.refl d, .inl ⟨rfl, fun _ => (h.leads_of_isDirectory hdirectory).2⟩⟩
      next => cases hfirst

/-- Directories that are created one after the other lead there in the end. -/
theorem Sound.of_createEach {d d' : Disk} (h : d.Sound) {p : Path} {missing : List Path}
    (hmissing : ∀ q ∈ missing, IsAbove p q) (hcreated : d.createEach missing = (.ok (), d')) :
    Grows (d.IsOnWay p) d d' ∧ ∀ q ∈ missing, d'.Leads q := by
  induction missing generalizing d with
  | nil =>
    cases hcreated
    exact ⟨.refl _, fun q hq => absurd hq List.not_mem_nil⟩
  | cons q rest ih =>
    rw [List.forall_mem_cons] at hmissing
    -- the first directory is there in both cases, and stays there while the others are created
    have hrest {d₁ : Disk} (hgrows : Grows (d.IsOnWay q) d d₁) (hleads : d₁.Leads q)
        (hcreated : d₁.createEach rest = (.ok (), d')) :
        Grows (d.IsOnWay p) d d' ∧ ∀ q' ∈ q :: rest, d'.Leads q' := by
      obtain ⟨hgrows', hleads'⟩ := ih (hgrows.sound h) hmissing.2 hcreated
      refine ⟨?_, List.forall_mem_cons.2 ⟨hgrows'.leads hleads, hleads'⟩⟩
      exact (hgrows.mono fun _ _ hway _ => hmissing.1.isOnWay hway).trans
        (hgrows'.mono fun _ _ hway _ => (hgrows.isOnWay_iff p _ _).1 hway)
    rw [createEach] at hcreated
    split at hcreated
    next d₁ hmade =>
      obtain ⟨hleads, hgrows⟩ := h.leads_of_makeDirectory hmade
      exact hrest hgrows hleads hcreated
    next fault d₁ hfailed =>
      split at hcreated
      next hthere =>
        rw [Bool.and_eq_true] at hthere
        exact hrest (.refl d) (h.leads_of_isDirectory hthere.2).2 hcreated
      next => cases hcreated

/-- An attempt that was successful has had the result that it reports. -/
theorem of_attempting {attempt : Attempt} {result : Result Unit} {d' : Disk}
    (h : attempting attempt result = (.ok (), d')) : result = (.ok (), d') := by
  unfold attempting at h
  split at h
  next => cases h; rfl
  next => cases h

/-- A directory that is created with those above it leads there, and only directories on its way are
new. -/
theorem Sound.of_createDirAll {d d' : Disk} (h : d.Sound) {p : Path}
    (hcreated : d.createDirAll p = (.ok (), d')) : d'.Leads p ∧ Grows (d.IsOnWay p) d d' := by
  have hall : d.createAll p = (.ok (), d') := of_attempting hcreated
  unfold createAll at hall
  split at hall
  next => cases hall
  next missing d₁ hfirst =>
    obtain ⟨hgrows, ⟨rfl, hleads⟩ | ⟨above, rfl, habove⟩⟩ := h.of_createFirst hfirst
    · cases hall
      exact ⟨hleads (Nat.succ_ne_zero _), hgrows⟩
    · have hmissing : ∀ q ∈ above ++ [p], IsAbove p q := by
        intro q hq
        rcases List.mem_append.1 hq with hq | hq
        · exact habove q hq
        · rw [List.mem_singleton.1 hq]
          exact ⟨rfl, List.prefix_rfl⟩
      obtain ⟨hgrows', hleads⟩ := (hgrows.sound h).of_createEach hmissing hall
      exact ⟨hleads p (by simp),
        hgrows.trans (hgrows'.mono fun _ _ hway _ => (hgrows.isOnWay_iff p _ _).1 hway)⟩

/-- In a directory only one directory is created. -/
theorem Sound.of_createDirAll_join {d d' : Disk} (h : d.Sound) {p : Path} (hleads : d.Leads p)
    {name : Bytes} (hname : IsFileName name)
    (hcreated : d.createDirAll (p.join ⟨name⟩) = (.ok (), d')) :
    d'.Leads (p.join ⟨name⟩) ∧
      Grows (fun location n => location = d.locationOf p ++ [name] ∧ n = .directory) d d' := by
  obtain ⟨hthere, hgrows⟩ := h.of_createDirAll hcreated
  obtain ⟨hjoin, hstart, hlocation⟩ := d.join_fileName p hname
  refine ⟨hthere, hgrows.mono ?_⟩
  rintro location n ⟨rfl, way, hway, rfl⟩ hnew
  rw [hjoin, List.prefix_concat_iff] at hway
  rw [hstart] at hnew ⊢
  rcases hway with rfl | hway
  · refine ⟨?_, rfl⟩
    rw [← hlocation, locationOf, hjoin, hstart]
  · -- the directories above were there before
    exact absurd (hleads way hway) hnew

/-- In a directory a directory can be created, unless there is a file, if paths may have any
length. -/
theorem Sound.createDirAll_join {d : Disk} (h : d.Sound) (hlimit : d.pathLimit = none) {p : Path}
    (hleads : d.Leads p) {name : Bytes} (hname : IsFileName name)
    (hfile : ∀ content, d.root.node? (d.locationOf p ++ [name]) ≠ some (.file content)) :
    ∃ d', d.createDirAll (p.join ⟨name⟩) = (.ok (), d') := by
  obtain ⟨place, hplace⟩ := h.place_join hlimit hleads hname
  obtain ⟨hempty, -, -, hat, -⟩ := h.of_place hplace
  have hfirst : ∃ d', d.createFirst ((p.join ⟨name⟩).components.length + 1) [] (p.join ⟨name⟩) =
      (.ok [], d') := by
    rw [createFirst, if_neg (by simpa using hempty)]
    cases place with
    | missing trail last => exact ⟨_, by simp only [makeDirectory, hplace]; rfl⟩
    | found trail t =>
      -- what is there is a directory, which is as good as a new one
      have hdirectory : d.root.node? (d.locationOf (p.join ⟨name⟩)) = some .directory := by
        cases hnode : d.root.node? (d.locationOf (p.join ⟨name⟩)) with
        | none => rw [Tree.node?, hat] at hnode; cases hnode
        | some n =>
          cases n with
          | directory => rfl
          | file content =>
            rw [(d.join_fileName p hname).2.2] at hnode
            exact absurd hnode (hfile content)
      have hthere := (h.tree_of_place hplace hdirectory).1
      exact ⟨d, by simp only [makeDirectory, hplace, hthere, if_true]⟩
  obtain ⟨d', hfirst⟩ := hfirst
  exact ⟨d', by simp only [createDirAll, createAll, hfirst, createEach, attempting]⟩

/-- Creating the parents of a name in a directory changes nothing. -/
theorem Sound.of_createParents_join {d d' : Disk} (h : d.Sound) {p : Path} (hleads : d.Leads p)
    {name : Bytes} (hname : IsFileName name)
    (hcreated : d.createParents (p.join ⟨name⟩) = (.ok (), d')) :
    Grows (fun _ _ => False) d d' := by
  have hcomponents : (p.join ⟨name⟩).components = p.components ++ [.normal name] := by
    obtain ⟨hrelative, hlead, hinner⟩ := Path.inner_bytes hname.inner
    have hsame : (⟨name⟩ : Path).components = [.normal name] := by
      rw [Path.components_eq]
      exact congrArg₂ (· ++ ·) hlead hinner
    rw [Path.components_join_of_lead p hname.isAbsolute hlead, hsame]
  obtain ⟨q, hparent, hq⟩ := Path.parent?_eq_some hcomponents (by simp)
  unfold createParents at hcreated
  rw [hparent] at hcreated
  dsimp only at hcreated
  split at hcreated
  next => cases hcreated; exact .refl d
  next =>
    -- the parent leads where the directory's path does, and there is a directory all the way
    obtain ⟨-, hgrows⟩ := h.of_createDirAll hcreated
    refine hgrows.mono ?_
    rintro location n ⟨rfl, way, hway, rfl⟩ hnew
    rw [Path.inner_eq_filter, hq, ← Path.inner_eq_filter] at hway
    rw [d.startOf_of_components hq] at hnew
    exact hnew (hleads way hway)

/-! ### Copies of files -/

/-- What is read is the file to which a path leads. -/
theorem Sound.of_readBytes {d : Disk} (h : d.Sound) {p : Path} {content : Bytes}
    (hread : d.readBytes p = .ok content) :
    d.root.node? (d.locationOf p) = some (.file content) := by
  unfold readBytes at hread
  split at hread
  next => cases hread
  next => cases hread
  next content' htree =>
    cases hread
    exact Tree.at?_eq_file_iff.1 (h.of_tree htree).2.2

/-- The bytes of a file are copied, unless it is copied onto itself. -/
theorem Sound.of_copyBytes {d d' : Disk} (h : d.Sound) {source target : Path}
    (hcopied : d.copyBytes source target = (.ok (), d')) :
    ∃ content, d.root.node? (d.locationOf source) = some (.file content) ∧
      d.root.node? (d.locationOf target) ≠ some .directory ∧
        Wrote (d.locationOf target)
          (.file (if d.locationOf source = d.locationOf target then [] else content)) d d' := by
  unfold copyBytes at hcopied
  split at hcopied
  next => cases hcopied
  next => cases hcopied
  next content htree =>
  split at hcopied
  next => cases hcopied
  next location d₁ hopened =>
  split at hcopied
  next => cases hcopied
  next content' hread =>
    cases hcopied
    have hput := h.put_of_openFile hopened content'
    obtain ⟨rfl, -, hold, hwrote⟩ := h.of_openFile hopened
    have hsource := Tree.at?_eq_file_iff.1 (h.of_tree htree).2.2
    -- the source is read when the target is empty already
    have hnow := (hwrote.sound h).of_readBytes hread
    have hlocation : d₁.locationOf source = d.locationOf source := by
      rw [locationOf, locationOf, startOf, startOf, hwrote.cwd_eq]
    rw [hlocation, hwrote.node?_eq] at hnow
    refine ⟨content, hsource, hold, ?_⟩
    have hcontent : content' =
        if d.locationOf source = d.locationOf target then [] else content := by
      split at hnow
      next hsame => rw [if_pos hsame]; simpa using hnow.symm
      next hother => rw [if_neg hother]; simpa using hnow.symm.trans hsource
    rwa [← hcontent]

/-- In a directory only the copy of the file is written. -/
theorem Sound.of_copyFile_join {d d' : Disk} (h : d.Sound) {source p : Path} (hleads : d.Leads p)
    {name : Bytes} (hname : IsFileName name)
    (hcopied : d.copyFile source (p.join ⟨name⟩) = (.ok (), d')) :
    let own := d.locationOf p ++ [name]
    ∃ content, d.root.node? (d.locationOf source) = some (.file content) ∧
      let copy := Node.file (if d.locationOf source = own then [] else content)
      d'.root.node? own = some copy ∧ Grows (fun location n => location = own ∧ n = copy) d d' := by
  intro own
  unfold copyFile at hcopied
  split at hcopied
  next => cases hcopied
  next d₁ hparents =>
    have hbytes : d₁.copyBytes source (p.join ⟨name⟩) = (.ok (), d') := of_attempting hcopied
    have hsame := h.of_createParents_join hleads hname hparents
    have hunchanged (location : Location) : d₁.root.node? location = d.root.node? location :=
      hsame.node?_eq fun n hfalse => hfalse
    have hown : d₁.locationOf (p.join ⟨name⟩) = own := by
      rw [hsame.locationOf_eq, (d.join_fileName p hname).2.2]
    obtain ⟨content, hsource, hold, hwrote⟩ := (hsame.sound h).of_copyBytes hbytes
    rw [hown, hsame.locationOf_eq] at hwrote
    rw [hown] at hold
    rw [hsame.locationOf_eq, hunchanged] at hsource
    refine ⟨content, hsource, hwrote.node?_own, ?_⟩
    refine (hsame.mono fun _ _ hfalse _ => absurd hfalse id).trans (hwrote.grows ?_)
    intro old hthere
    constructor
    · rintro ⟨⟩
    · rintro rfl
      exact absurd hthere hold

end ContainerBuild.Disk
