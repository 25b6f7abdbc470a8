import ContainerBuild.Disk
import ContainerBuild.Proofs.Disk.Locations
import ContainerBuild.Proofs.Path.Joining

/-!
# Where paths lead on a disk

Without links, a path leads to a location that can be told from its components: names go down, and
two dots go up. If the system walks a path, then it passes directories only and ends at that
location, and it does walk the path of a name in a directory that it has walked to.

* `Disk.Sound` — the names on a disk can be written in paths.
* `Disk.locationOf` — where a path leads, if there are directories all the way.
* `Disk.Sound.of_place` — what it means that a path is walked.
* `Disk.Sound.place_join` — a name in a directory is walked to.
-/

namespace ContainerBuild

open ContainerBuild.Path (Component)

/-! ### Trails -/

namespace Disk

/-- Each entry of the trail is one of the directory in front of it. -/
def Trail.IsTrail (root : Tree) : Trail → Prop
  | [] => True
  | (name, t) :: before => (here root before).child? name = some t ∧ Trail.IsTrail root before

theorem Trail.location_cons (name : Bytes) (t : Tree) (before : Trail) :
    Trail.location ((name, t) :: before) = before.location ++ [name] := by
  simp [Trail.location]

theorem Trail.location_tail (trail : Trail) :
    Trail.location trail.tail = trail.location.dropLast := by
  cases trail with
  | nil => rfl
  | cons entry before => rw [location_cons, List.dropLast_concat, List.tail_cons]

theorem Trail.IsTrail.tail {root : Tree} {trail : Trail} (h : trail.IsTrail root) :
    Trail.IsTrail root trail.tail := by
  cases trail with
  | nil => exact h
  | cons entry before => exact h.2

/-- A trail leads to what is at its location. -/
theorem Trail.IsTrail.at?_location {root : Tree} {trail : Trail} (h : trail.IsTrail root) :
    root.at? trail.location = some (here root trail) := by
  induction trail with
  | nil => rfl
  | cons entry before ih =>
    obtain ⟨name, t⟩ := entry
    rw [location_cons, Tree.at?_append, ih h.2]
    show ((here root before).child? name).bind (fun c => c.at? []) = some t
    rw [h.1]
    rfl

/-- Every location that a tree has is at the end of a trail. -/
theorem trailTo_location {root t : Tree} {trail : Trail} (h : trail.IsTrail root)
    {location : Location} (hat : (here root trail).at? location = some t) :
    (trailTo root trail location).IsTrail root ∧
      (trailTo root trail location).location = trail.location ++ location := by
  induction location generalizing trail with
  | nil => exact ⟨h, (List.append_nil _).symm⟩
  | cons name rest ih =>
    obtain ⟨c, hchild, hat⟩ := Option.bind_eq_some_iff.1 hat
    have hnext : Trail.IsTrail root ((name, c) :: trail) := ⟨hchild, h⟩
    obtain ⟨htrail, hlocation⟩ := ih hnext hat
    rw [trailTo, hchild]
    refine ⟨htrail, ?_⟩
    rw [hlocation, Trail.location_cons, List.append_assoc, List.singleton_append]

/-! ### Following components -/

/-- Where one component leads from a location. -/
def onward (location : Location) : Component → Location
  | .root => []
  | .current => location
  | .parent => location.dropLast
  | .normal name => location ++ [name]

end Disk

open Disk (onward)

/-- There are directories where each beginning of the components leads, except all of them. -/
def Tree.Passes (root : Tree) (start : Location) (cs : List Component) : Prop :=
  ∀ way, way <+: cs → way ≠ cs → root.node? (way.foldl onward start) = some .directory

/-- There are directories where each beginning of the components leads. -/
def Tree.Clears (root : Tree) (start : Location) (cs : List Component) : Prop :=
  ∀ way, way <+: cs → root.node? (way.foldl onward start) = some .directory

namespace Tree

variable {root : Tree} {start : Location} {cs cs' : List Component}

theorem Passes.append (h : root.Passes start cs) (h' : root.Passes (cs.foldl onward start) cs') :
    root.Passes start (cs ++ cs') := by
  intro way hway hne
  rcases List.prefix_or_prefix_of_prefix hway (List.prefix_append cs cs') with
    hshorter | ⟨rest, rfl⟩
  · by_cases hall : way = cs
    · -- the second components are not all there, so the first lead to a directory
      subst hall
      exact h' [] List.nil_prefix fun hnil => hne (by rw [← hnil, List.append_nil])
    · exact h way hshorter hall
  · rw [List.foldl_append]
    exact h' rest ((List.prefix_append_right_inj cs).1 hway) fun heq => hne (by rw [heq])

theorem Passes.clears (h : root.Passes start cs)
    (hend : root.node? (cs.foldl onward start) = some .directory) : root.Clears start cs := by
  intro way hway
  by_cases hall : way = cs
  · rwa [hall]
  · exact h way hway hall

theorem Clears.behind (h : root.Clears start (cs ++ cs')) :
    root.Clears (cs.foldl onward start) cs' := by
  intro way hway
  rw [← List.foldl_append]
  exact h (cs ++ way) ((List.prefix_append_right_inj cs).2 hway)

end Tree

namespace Disk

/-! ### Walking -/

/-- Where the place is. -/
def Place.location : Place → Location
  | found trail _ => trail.location
  | missing trail name => trail.location ++ [name]

/-- What is at the place. -/
def Place.tree? : Place → Option Tree
  | found _ t => some t
  | missing _ _ => none

/-- The name at the end of the components that are walked, where nothing has that name. -/
def Place.IsNew (cs : List Component) : Place → Prop
  | found _ _ => True
  | missing _ name => name.length ≤ nameLimit ∧ ∃ before, cs = before ++ [.normal name]

/-- A segment leads on from a directory, unless it is a name that is too long or missing there. -/
theorem walk_cons_cases {root : Tree} {trail : Trail} (htrail : trail.IsTrail root)
    (hhere : root.node? trail.location = some .directory) {segment : Bytes} (hne : segment ≠ []) :
    (∃ next : Trail, next.IsTrail root ∧
      next.location = (Path.body [segment]).foldl onward trail.location ∧
        ∀ rest, walk root trail (segment :: rest) = walk root next rest) ∨
    (Path.body [segment] = [.normal segment] ∧ nameLimit < segment.length ∧
      ∀ rest, walk root trail (segment :: rest) = .error .nameTooLong) ∨
    (Path.body [segment] = [.normal segment] ∧ segment.length ≤ nameLimit ∧
      root.at? (trail.location ++ [segment]) = none ∧
        ∀ rest, walk root trail (segment :: rest) =
          if rest = [] then .ok (.missing trail segment) else .error .noSuchFile) := by
  obtain ⟨entries, hentries⟩ : ∃ entries, here root trail = .directory entries := by
    rw [Tree.node?, htrail.at?_location] at hhere
    have hroot : (here root trail).node? [] = some .directory := hhere
    exact Tree.eq_directory_of_node? hroot
  by_cases hdot : segment = Path.dot
  · subst hdot
    exact .inl ⟨trail, htrail, rfl, fun rest => by rw [walk, hentries]; rfl⟩
  by_cases hdots : segment = Path.dots
  · subst hdots
    exact .inl ⟨trail.tail, htrail.tail, trail.location_tail, fun rest => by
      rw [walk, hentries]; rfl⟩
  have hbody : Path.body [segment] = [.normal segment] := by
    simp [Path.body, Path.component?, hne, hdot, hdots]
  by_cases hlong : nameLimit < segment.length
  · refine .inr (.inl ⟨hbody, hlong, fun rest => ?_⟩)
    simp only [walk, hentries, if_neg hdot, if_neg hdots, if_pos hlong]
  cases hlookup : entries.lookup segment with
  | some t =>
    refine .inl ⟨(segment, t) :: trail, ⟨?_, htrail⟩, ?_, fun rest => ?_⟩
    · rw [hentries]
      exact hlookup
    · rw [hbody]
      exact Trail.location_cons segment t trail
    · simp only [walk, hentries, if_neg hdot, if_neg hdots, if_neg hlong, hlookup]
  | none =>
    refine .inr (.inr ⟨hbody, Nat.not_lt.1 hlong, ?_, fun rest => ?_⟩)
    · rw [Tree.at?_append, htrail.at?_location, hentries]
      simp [Tree.at?, Tree.child?, hlookup]
    · cases rest <;> simp [walk, hentries, hdot, hdots, hlong, hlookup]

theorem body_cons_eq (segment : Bytes) (rest : List Bytes) :
    Path.body (segment :: rest) = Path.body [segment] ++ Path.body rest :=
  Path.body_append [segment] rest

/-- Segments that can be walked lead through directories to where their components lead. -/
theorem of_walk {root : Tree} {trail : Trail} (htrail : trail.IsTrail root) {segments : List Bytes}
    (hsegments : [] ∉ segments) {place : Place} (h : walk root trail segments = .ok place) :
    root.Passes trail.location (Path.body segments) ∧
      place.location = (Path.body segments).foldl onward trail.location ∧
        root.at? place.location = place.tree? ∧ place.IsNew (Path.body segments) := by
  -- on the segments, for every trail: what is left is walked from where the first one leads
  induction segments generalizing trail with
  | nil =>
    cases h
    exact ⟨fun way hway hne => absurd (List.prefix_nil.1 hway) hne, rfl, htrail.at?_location,
      trivial⟩
  | cons segment rest ih =>
    rw [List.mem_cons, not_or] at hsegments
    obtain ⟨hempty, hrest⟩ := hsegments
    have hhere : root.node? trail.location = some .directory := by
      rw [Tree.node?, htrail.at?_location]
      cases hhere : here root trail with
      | directory entries => rfl
      | file content =>
        rw [walk, hhere] at h
        cases h
    have hfirst : root.Passes trail.location (Path.body [segment]) := by
      intro way hway hne
      -- a segment stands for one component at most, so no beginning but the empty one is shorter
      have hlength : (Path.body [segment]).length ≤ 1 := List.length_filterMap_le _ _
      have hshorter : way.length ≠ (Path.body [segment]).length := mt hway.eq_of_length hne
      have hle := hway.length_le
      obtain rfl : way = [] := List.eq_nil_of_length_eq_zero (by omega)
      exact hhere
    rw [body_cons_eq]
    rcases walk_cons_cases htrail hhere (Ne.symm hempty) with
      ⟨next, hnext, hlocation, hwalk⟩ | ⟨-, -, hwalk⟩ | ⟨hbody, hshort, hnone, hwalk⟩
    · rw [hwalk] at h
      obtain ⟨hpasses, hend, hat, hnew⟩ := ih hnext hrest h
      rw [hlocation] at hpasses hend
      rw [List.foldl_append]
      refine ⟨hfirst.append hpasses, hend, hat, ?_⟩
      cases place with
      | found => trivial
      | missing trail' name =>
        obtain ⟨hshort, before, hbefore⟩ := hnew
        exact ⟨hshort, Path.body [segment] ++ before, by rw [hbefore, List.append_assoc]⟩
    · rw [hwalk] at h
      cases h
    · rw [hwalk] at h
      split at h
      next hlast =>
        cases h
        rw [hlast, hbody]
        rw [hbody] at hfirst
        exact ⟨hfirst, rfl, hnone, hshort, [], rfl⟩
      next => cases h

/-- A name of a file: a segment that is neither empty nor dots, and that the system takes. -/
structure IsFileName (name : Bytes) : Prop where
  /-- The name is a component of its own. -/
  inner : (Component.normal name).IsInner
  /-- The system ends names at a zero byte. -/
  noZero : 0 ∉ name
  /-- The name is not too long. -/
  short : name.length ≤ nameLimit

/-- Segments lead on through directories to where their components lead. -/
theorem walk_of_clears {root : Tree}
    (hnames : ∀ location, root.node? location ≠ none → ∀ name ∈ location, IsFileName name)
    {trail : Trail} (htrail : trail.IsTrail root) {segments : List Bytes}
    (hsegments : [] ∉ segments) (hclears : root.Clears trail.location (Path.body segments)) :
    ∃ next : Trail, next.IsTrail root ∧
      next.location = (Path.body segments).foldl onward trail.location ∧
        ∀ rest, walk root trail (segments ++ rest) = walk root next rest := by
  induction segments generalizing trail with
  | nil => exact ⟨trail, htrail, rfl, fun rest => rfl⟩
  | cons segment rest ih =>
    rw [List.mem_cons, not_or] at hsegments
    obtain ⟨hempty, hrest⟩ := hsegments
    rw [body_cons_eq] at hclears ⊢
    -- where the first segment leads there is a directory, so it is neither too long nor missing
    have hfirst := hclears (Path.body [segment]) (List.prefix_append _ _)
    rcases walk_cons_cases htrail (hclears [] List.nil_prefix) (Ne.symm hempty) with
      ⟨next, hnext, hlocation, hwalk⟩ | ⟨hbody, hlong, -⟩ | ⟨hbody, -, hnone, -⟩
    · have hbehind := hclears.behind
      rw [← hlocation] at hbehind
      obtain ⟨last, hlast, hend, hon⟩ := ih hnext hrest hbehind
      refine ⟨last, hlast, ?_, fun more => ?_⟩
      · rw [hend, hlocation, List.foldl_append]
      · rw [List.cons_append, hwalk, hon]
    · rw [hbody] at hfirst
      have hname := hnames (trail.location ++ [segment]) (hfirst ▸ Option.some_ne_none _) segment
        (List.mem_append_right _ List.mem_cons_self)
      exact absurd hname.short (Nat.not_le.2 hlong)
    · rw [hbody] at hfirst
      change (root.at? (trail.location ++ [segment])).map Tree.node = _ at hfirst
      rw [hnone] at hfirst
      cases hfirst

/-! ### Places of paths -/

/-- There is a working directory, and the names on the disk can be written in paths. -/
structure Sound (d : Disk) : Prop where
  /-- The working directory is a directory. -/
  cwd : d.root.node? d.cwd = some .directory
  /-- Directories and files have names of files. -/
  names : ∀ location, d.root.node? location ≠ none → ∀ name ∈ location, IsFileName name

/-- Where a path starts. -/
def startOf (d : Disk) (p : Path) : Location := if p.isAbsolute then [] else d.cwd

/-- Where a path leads, if there are directories all the way. -/
def locationOf (d : Disk) (p : Path) : Location := p.inner.foldl onward (d.startOf p)

/-- There are directories where each beginning of the path leads, except all of it. -/
def Approaches (d : Disk) (p : Path) : Prop := d.root.Passes (d.startOf p) p.inner

/-- The path leads through directories to a directory. -/
def Leads (d : Disk) (p : Path) : Prop := d.root.Clears (d.startOf p) p.inner

theorem Sound.node?_start {d : Disk} (h : d.Sound) (p : Path) :
    d.root.node? (d.startOf p) = some .directory := by
  unfold startOf
  split
  · by_cases hcwd : d.cwd = []
    · rw [← hcwd]
      exact h.cwd
    · have hbelow : d.root.node? ([] ++ d.cwd) ≠ none := h.cwd ▸ Option.some_ne_none _
      exact Tree.node?_append hbelow hcwd
  · exact h.cwd

/-- Where a path leads depends on its components only. -/
theorem startOf_of_components (d : Disk) {p q : Path} (h : p.components = q.components) :
    d.startOf p = d.startOf q := by
  have habsolute : p.isAbsolute = q.isAbsolute := by
    rw [Bool.eq_iff_iff, Path.isAbsolute_iff, Path.isAbsolute_iff, h]
  rw [startOf, startOf, habsolute]

/-- The walk of a path starts at the end of a trail. -/
theorem Sound.exists_trail {d : Disk} (h : d.Sound) (p : Path) :
    ∃ trail : Trail, (if p.isAbsolute then [] else trailTo d.root [] d.cwd) = trail ∧
      trail.IsTrail d.root ∧ trail.location = d.startOf p := by
  unfold startOf
  split
  · exact ⟨[], rfl, trivial, rfl⟩
  · obtain ⟨t, hcwd, -⟩ := Option.map_eq_some_iff.1 h.cwd
    have hstart : Trail.IsTrail d.root [] := trivial
    exact ⟨_, rfl, trailTo_location hstart hcwd⟩

theorem body_filter (segments : List Bytes) :
    Path.body (segments.filter (· != [])) = Path.body segments := by
  induction segments with
  | nil => rfl
  | cons segment rest ih =>
    by_cases hempty : segment = []
    · subst hempty
      exact ih
    · rw [List.filter_cons_of_pos (by simpa using hempty), body_cons_eq, ih, ← body_cons_eq]

/-- A path is walked if it is neither empty nor too long and has no zero byte. -/
theorem place_eq_ok_iff {d : Disk} {p : Path} {place : Place} :
    d.place p = .ok place ↔
      0 ∉ p.bytes ∧ p.bytes ≠ [] ∧ d.pathLimit.any (· < p.bytes.length) = false ∧
        walk d.root (if p.isAbsolute then [] else trailTo d.root [] d.cwd)
          (p.segments.filter (· != [])) = .ok place := by
  unfold Disk.place
  split
  next hzero => simpa using fun h => absurd (List.contains_iff_mem.1 hzero) h
  next hzero =>
  split
  next hempty => simpa using fun _ h => absurd (List.isEmpty_iff.1 hempty) h
  next hempty =>
  split
  next hlong => simp [hlong]
  next hlong => simp_all

/-- A path that is walked leads through directories to where its components lead. -/
theorem Sound.of_place {d : Disk} (h : d.Sound) {p : Path} {place : Place}
    (hplace : d.place p = .ok place) :
    p.bytes ≠ [] ∧ d.Approaches p ∧ place.location = d.locationOf p ∧
      d.root.at? (d.locationOf p) = place.tree? ∧
        ∀ trail name, place = .missing trail name → ∃ before,
          p.inner = before ++ [.normal name] ∧ IsFileName name := by
  obtain ⟨hzero, hempty, -, hwalk⟩ := place_eq_ok_iff.1 hplace
  obtain ⟨trail, htrail, histrail, hstart⟩ := h.exists_trail p
  rw [htrail] at hwalk
  obtain ⟨hpasses, hend, hat, hnew⟩ := of_walk histrail (by simp) hwalk
  rw [body_filter, hstart] at hpasses hend
  refine ⟨hempty, hpasses, hend, by rw [← hat, hend]; rfl, ?_⟩
  rintro trail' name rfl
  obtain ⟨hshort, before, hbefore⟩ := hnew
  rw [body_filter] at hbefore
  have hmem : Component.normal name ∈ p.inner := by
    show _ ∈ Path.body p.segments
    simp [hbefore]
  exact ⟨before, hbefore, Path.isInner_of_mem_inner hmem,
    fun hbyte => hzero (Path.zero_mem_bytes_iff.2 ⟨name, hmem, hbyte⟩), hshort⟩

/-- What a path leads to is at the location to which its components lead. -/
theorem Sound.of_tree {d : Disk} (h : d.Sound) {p : Path} {t : Tree} (htree : d.tree p = .ok t) :
    p.bytes ≠ [] ∧ d.Approaches p ∧ d.root.at? (d.locationOf p) = some t := by
  unfold Disk.tree at htree
  split at htree
  next => cases htree
  next => cases htree
  next trail t' hplace =>
    obtain ⟨hempty, happroaches, -, hat, -⟩ := h.of_place hplace
    split at htree
    · cases htree
    · cases htree
      exact ⟨hempty, happroaches, hat⟩

theorem exists_place_of_isDirectory {d : Disk} {p : Path} (hp : d.isDirectory p = true) :
    ∃ place, d.place p = .ok place := by
  cases hplace : d.place p with
  | ok place => exact ⟨place, rfl⟩
  | error fault => simp [Disk.isDirectory, Disk.tree, hplace] at hp

/-- A path that is walked to a directory is a path of this directory. -/
theorem Sound.tree_of_place {d : Disk} (h : d.Sound) {p : Path} {place : Place}
    (hplace : d.place p = .ok place)
    (hdirectory : d.root.node? (d.locationOf p) = some .directory) :
    d.isDirectory p = true ∧ ∃ t, d.tree p = .ok t := by
  obtain ⟨-, -, -, hat, -⟩ := h.of_place hplace
  rw [Tree.node?, hat] at hdirectory
  cases place with
  | missing trail name => cases hdirectory
  | found trail t =>
    have ht := Tree.node_eq_directory_iff.1 (Option.some.inj hdirectory)
    have htree : d.tree p = .ok t := by simp [Disk.tree, hplace, ht]
    exact ⟨by simp [Disk.isDirectory, htree, ht], t, htree⟩

/-- A path of a directory leads there. -/
theorem Sound.leads_of_isDirectory {d : Disk} (h : d.Sound) {p : Path}
    (hp : d.isDirectory p = true) : p.bytes ≠ [] ∧ d.Leads p := by
  unfold Disk.isDirectory at hp
  split at hp
  next t htree =>
    obtain ⟨hempty, happroaches, hat⟩ := h.of_tree htree
    refine ⟨hempty, Tree.Passes.clears happroaches ?_⟩
    show (d.root.at? (d.locationOf p)).map Tree.node = _
    rw [hat, Option.map_some, Tree.node_eq_directory_iff.2 hp]
  next => cases hp

/-! ### Names in a directory -/

theorem IsFileName.isAbsolute {name : Bytes} (h : IsFileName name) :
    (⟨name⟩ : Path).isAbsolute = false :=
  (Path.inner_bytes h.inner).1

/-- Joining the name of a file leads on from where a path leads. -/
theorem join_fileName (d : Disk) (p : Path) {name : Bytes} (hname : IsFileName name) :
    (p.join ⟨name⟩).inner = p.inner ++ [.normal name] ∧
      d.startOf (p.join ⟨name⟩) = d.startOf p ∧
        d.locationOf (p.join ⟨name⟩) = d.locationOf p ++ [name] := by
  have hjoin : (p.join ⟨name⟩).inner = p.inner ++ [.normal name] := by
    rw [Path.inner_join p hname.isAbsolute]
    exact congrArg (p.inner ++ ·) (Path.inner_bytes hname.inner).2.2
  have hstart : d.startOf (p.join ⟨name⟩) = d.startOf p := by
    rw [startOf, startOf, Path.isAbsolute_join p hname.isAbsolute]
  refine ⟨hjoin, hstart, ?_⟩
  rw [locationOf, hjoin, hstart, List.foldl_append]
  rfl

/-- The names in a path that leads somewhere are names of files. -/
theorem Sound.isFileName_of_leads {d : Disk} (h : d.Sound) {p : Path} (hleads : d.Leads p)
    {name : Bytes} (hmem : Component.normal name ∈ p.inner) : IsFileName name := by
  obtain ⟨before, after, hinner⟩ := List.append_of_mem hmem
  have hway := hleads (before ++ [.normal name]) ⟨after, by simp [hinner]⟩
  rw [List.foldl_append] at hway
  exact h.names _ (hway ▸ Option.some_ne_none _) name (List.mem_append_right _ List.mem_cons_self)

/-- A path that leads through directories is walked to their end. -/
theorem Sound.walk_of_leads {d : Disk} (h : d.Sound) {p : Path} (hleads : d.Leads p) {q : Path}
    (hstart : d.startOf q = d.startOf p) :
    ∃ next : Trail, next.IsTrail d.root ∧ next.location = d.locationOf p ∧
      ∀ rest, walk d.root (if q.isAbsolute then [] else trailTo d.root [] d.cwd)
        (p.segments.filter (· != []) ++ rest) = walk d.root next rest := by
  obtain ⟨trail, htrail, histrail, hlocation⟩ := h.exists_trail q
  rw [hstart] at hlocation
  have hclears : d.root.Clears trail.location (Path.body (p.segments.filter (· != []))) := by
    rw [body_filter, hlocation]
    exact hleads
  obtain ⟨next, hnext, hend, hon⟩ := walk_of_clears h.names histrail (by simp) hclears
  rw [body_filter, hlocation] at hend
  rw [htrail]
  exact ⟨next, hnext, hend, hon⟩

/-- Every path that leads somewhere is walked, if paths may have any length. -/
theorem Sound.place_of_leads {d : Disk} (h : d.Sound) (hlimit : d.pathLimit = none) {p : Path}
    (hleads : d.Leads p) (hp : p.bytes ≠ []) : ∃ place, d.place p = .ok place := by
  have hzero : 0 ∉ p.bytes := by
    rw [Path.zero_mem_bytes_iff]
    rintro ⟨name, hmem, hzero⟩
    exact (h.isFileName_of_leads hleads hmem).noZero hzero
  obtain ⟨next, -, -, hon⟩ := h.walk_of_leads hleads (q := p) rfl
  have hwalk := hon []
  rw [List.append_nil] at hwalk
  exact ⟨_, place_eq_ok_iff.2 ⟨hzero, hp, by rw [hlimit]; rfl, hwalk⟩⟩

/-- Every name can be walked to in a directory, if paths may have any length. -/
theorem Sound.place_join {d : Disk} (h : d.Sound) (hlimit : d.pathLimit = none) {p : Path}
    (hleads : d.Leads p) {name : Bytes} (hname : IsFileName name) :
    ∃ place, d.place (p.join ⟨name⟩) = .ok place := by
  obtain ⟨hjoin, hstart, -⟩ := d.join_fileName p hname
  have hzero : 0 ∉ (p.join ⟨name⟩).bytes := by
    rw [Path.zero_mem_bytes_iff, hjoin]
    rintro ⟨name', hmem, hzero⟩
    rcases List.mem_append.1 hmem with hmem | hmem
    · exact (h.isFileName_of_leads hleads hmem).noZero hzero
    · obtain rfl : name' = name := by simpa using hmem
      exact hname.noZero hzero
  have hempty : (p.join ⟨name⟩).bytes ≠ [] := by
    rw [Path.join_eq p hname.isAbsolute]
    simp [hname.inner.1]
  -- the walk comes to the directory, and one name is left
  obtain ⟨next, hnext, hend, hon⟩ := h.walk_of_leads hleads hstart
  have hhere : d.root.node? next.location = some .directory := by
    rw [hend]
    exact hleads _ List.prefix_rfl
  obtain ⟨place, hplace⟩ : ∃ place, walk d.root next [name] = .ok place := by
    rcases walk_cons_cases hnext hhere hname.inner.1 with
      ⟨last, -, -, hwalk⟩ | ⟨-, hlong, -⟩ | ⟨-, -, -, hwalk⟩
    · exact ⟨_, hwalk []⟩
    · exact absurd hname.short (Nat.not_le.2 hlong)
    · exact ⟨_, hwalk []⟩
  refine ⟨place, place_eq_ok_iff.2 ⟨hzero, hempty, by rw [hlimit]; rfl, ?_⟩⟩
  rw [Path.segments_join_name p hname.inner, hon, hplace]

end Disk

end ContainerBuild
