import ContainerBuild.Proofs.Disk.Copying
import ContainerBuild.Proofs.Disk.Soundness
import Mathlib.Data.List.Infix

/-!
# When copies of directories end

If the target of a copy lies inside the source, then the copy finds what it has just created, at
every depth, and it never comes to an end unless something fails. Otherwise what it creates inside
the source, if anything, lies no deeper than what was there, so the copy ends. A complete copy holds
every file of the source, unless files are copied into the source on the way.

* `Disk.Sound.copyDirWithin_ne_ok` — a copy of a directory into itself is never complete.
* `Disk.Sound.copyDirWithin_ends` — every other copy ends.
* `Disk.Sound.copyDirWithin_of_limit` — every copy ends where there is a longest path.
* `Disk.Sound.file_of_copyDirWithin` — what is in the target after a complete copy.
* `Disk.Sound.copyDir_ends` — which copies end, and what is complete then.
* `Disk.copyDir_intoItself` — a copy that does not end, and one that loses a file.
-/

namespace ContainerBuild.Disk

variable {src dst rest : Location} {source target : Path} {d d' : Disk}

/-! ### Copies of a directory into itself -/

/-- Whatever is written may be. -/
theorem allows_all (src dst : Location) :
    Allows src dst (fun _ _ => True) (fun _ => True) :=
  ⟨fun _ _ _ _ => trivial, fun _ _ _ _ => trivial, fun _ _ _ _ _ => trivial⟩

/-- If the target lies inside the source, then the names in the source cannot all be copied: the
first one on the way to the target leads to another copy of this kind. -/
theorem Copying.forNames_ne_ok {way : Location} (hway : way ≠ []) {t : Tree} {depth : Nat}
    (h : Copying src (src ++ way) [] source target d) (hat : d.root.at? (src ++ []) = some t) :
    forNames (copyEntry depth source target) d t.names ≠ some (.ok (), d') := by
  -- on the depth, for every source: the copy that is found inside is one level less deep
  induction depth using Nat.strongRecOn generalizing src way source target d d' t with
  | ind depth ih =>
    intro hrun
    obtain ⟨name, inner, rfl⟩ := List.exists_cons_of_ne_nil hway
    -- the target is there, so the source has the first name on the way to it
    have hthere : d.root.node? (src ++ [name] ++ inner) = some .directory := by
      have htarget : d.root.node? (d.locationOf target) = some .directory :=
        h.target_leads _ List.prefix_rfl
      rw [h.target_eq] at htarget
      simpa using htarget
    have hname : d.root.node? (src ++ [name]) = some .directory := by
      by_cases hinner : inner = []
      · simpa [hinner] using hthere
      · exact Tree.node?_append (hthere ▸ Option.some_ne_none _) hinner
    have hmem : name ∈ t.names := by
      rw [Tree.mem_names_iff hat, List.append_nil, hname]
      exact Option.some_ne_none _
    have hall := allows_all src (src ++ name :: inner)
    -- no step for this name is successful
    refine absurd rfl ((of_forNames (Grows (fun _ _ => True) d) (fun other _ => other ≠ name)
      (fun other hother e e' hgrows hstep => ?_) (.refl d) hrun).2.1 name hmem)
    obtain ⟨hcopying, -, hlisted⟩ := hall.step h trivial hat hother hgrows
    refine ⟨hgrows.trans (hall.copyEntry_grows hcopying trivial hlisted hstep), ?_,
      fun _ hne => hne⟩
    rintro rfl
    rcases hcopying.of_copyEntry hlisted hstep with
      ⟨content, hfile, -⟩ | ⟨k, d₁, t', rfl, -, -, hinner, hat', hrun'⟩
    · rw [List.nil_append, hgrows.directory hname] at hfile
      cases hfile
    · -- the copy of this name has its target inside its source too
      have hshifted := hinner.shift
      rw [List.nil_append] at hshifted hat'
      rw [← List.append_nil (src ++ [other])] at hat'
      have hway' : src ++ other :: inner ++ [other] = src ++ [other] ++ (inner ++ [other]) := by
        simp
      rw [hway'] at hshifted
      exact ih k (Nat.lt_succ_self k) (by simp) hshifted hat' hrun'

/-- A copy of a directory into itself is never complete. -/
theorem Sound.copyDirWithin_ne_ok (h : d.Sound)
    (hinside : d.locationOf source <+: d.locationOf target ∧
      d.locationOf source ≠ d.locationOf target) (depth : Nat) :
    copyDirWithin depth d source target ≠ some (.ok (), d') := by
  intro hcopied
  obtain ⟨k, d₁, t, rfl, -, hcopying, hat, hrun⟩ := h.of_copyDirWithin hcopied
  obtain ⟨⟨way, hway⟩, hne⟩ := hinside
  rw [← hway] at hcopying hne
  exact hcopying.forNames_ne_ok (by rintro rfl; exact hne (List.append_nil _).symm) hat hrun

/-! ### Copies that end -/

/-- No location below the source is longer than the height. -/
def Bounded (src : Location) (height : Nat) (d : Disk) : Prop :=
  ∀ rest, d.root.node? (src ++ rest) ≠ none → rest.length ≤ height

/-- The location lies below the target, no deeper than the height. -/
def WritesWithin (dst : Location) (height : Nat) (location : Location) (_ : Node) : Prop :=
  ∃ rest, location = dst ++ rest ∧ rest.length ≤ height

/-- Unless the target lies inside the source, what is copied into the source lies no deeper there
than where it is copied from. -/
theorem allows_bounded (houtside : ¬(src <+: dst ∧ src ≠ dst)) (height : Nat) :
    Allows src dst (WritesWithin dst height) (Bounded src height) where
  kept := by
    intro d d' hbounded hgrows rest hthere
    by_cases hold : d.root.node? (src ++ rest) = none
    · obtain ⟨n, hn⟩ := Option.ne_none_iff_exists'.1 hthere
      obtain ⟨origin, hlocation, hheight⟩ := hgrows.changed _ n hn (by simp [hold])
      -- the target is no longer than the source, so what lies behind it is no shorter
      have hlength : dst.length ≤ src.length := by
        by_contra hlonger
        have hbegins : src <+: dst := List.prefix_of_prefix_length_le (List.prefix_append src rest)
          (hlocation ▸ List.prefix_append dst origin) (by omega)
        exact houtside ⟨hbegins, by rintro rfl; omega⟩
      have hlengths := congrArg List.length hlocation
      simp only [List.length_append] at hlengths
      omega
    · exact hbounded rest hold
  directory := fun d rest hbounded hthere => ⟨rest, rfl, hbounded rest (by simp [hthere])⟩
  file := fun d rest content hbounded hthere => ⟨rest, rfl, hbounded rest (by simp [hthere])⟩

/-- Every copy ends of which the target does not lie inside the source. -/
theorem Sound.copyDirWithin_ends (h : d.Sound)
    (houtside : ¬(d.locationOf source <+: d.locationOf target ∧
      d.locationOf source ≠ d.locationOf target)) :
    ∃ depth outcome, copyDirWithin depth d source target = some outcome := by
  rcases h.copyDirWithin_cases source target with
    ⟨fault, d', hfails⟩ | ⟨d₁, t, -, hcopying, hat, hsteps⟩
  · exact ⟨1, _, hfails 0⟩
  -- the height of what is there when the target was created is never exceeded
  obtain ⟨height, hheight⟩ := d₁.root.exists_height
  have hbounded : Bounded (d.locationOf source) height d₁ := by
    intro rest hrest
    have hlength := hheight _ hrest
    rw [List.length_append] at hlength
    omega
  have hallows := allows_bounded houtside height
  refine ⟨height + 1, ?_⟩
  rw [hsteps]
  -- a location that is longer leaves less room below the height
  refine hallows.forNames_ends hcopying hbounded hat fun e name hcopying' hbounded' hlisted =>
    hallows.copyEntry_ends (fun rest _ => height - rest.length) ?_ hcopying' hbounded'
      hlisted (Nat.sub_le _ _)
  intro rest source target e name hcopying hbounded hlisted hdirectory
  rw [List.append_assoc] at hlisted
  have hlength := hbounded _ hlisted
  rw [List.length_append, List.length_singleton] at hlength ⊢
  omega

/-- A path to which a name was joined is longer, and it is not too long if it leads somewhere. -/
theorem length_join_of_isDirectory {limit : Nat} (hlimit : d.pathLimit = some limit) {p : Path}
    {name : Bytes} (hname : IsFileName name) (hdirectory : d.isDirectory (p.join ⟨name⟩) = true) :
    p.bytes.length < (p.join ⟨name⟩).bytes.length ∧ (p.join ⟨name⟩).bytes.length ≤ limit := by
  constructor
  · have hpos : 0 < name.length := List.length_pos_iff.2 hname.inner.1
    rw [Path.join_eq p hname.isAbsolute, List.length_append]
    rcases p.stem_cases with ⟨hp, hstem⟩ | ⟨before, hstem, ⟨hp, -⟩ | hp⟩
    · simpa [hp, hstem] using hpos
    · simp only [hp, hstem, List.length_append]
      omega
    · simp only [hp, hstem]
      omega
  · obtain ⟨place, hplace⟩ := exists_place_of_isDirectory hdirectory
    have hshort := (place_eq_ok_iff.1 hplace).2.2.1
    simpa [hlimit] using hshort

/-- If there is a longest path that the system takes, then every copy ends, as `copyDir` says. -/
theorem Sound.copyDirWithin_of_limit (h : d.Sound) {limit : Nat}
    (hlimit : d.pathLimit = some limit) (source target : Path) :
    copyDirWithin (limit + 2) d source target = some (d.copyDir source target) := by
  suffices hends : ∃ outcome, copyDirWithin (limit + 2) d source target = some outcome by
    obtain ⟨outcome, hended⟩ := hends
    rw [copyDir, hlimit, Option.getD_some, hended]
  rcases h.copyDirWithin_cases source target with
    ⟨fault, d', hfails⟩ | ⟨d₁, t, hgrows, hcopying, hat, hsteps⟩
  · exact ⟨_, hfails _⟩
  have hallows : Allows (d.locationOf source) (d.locationOf target) (fun _ _ => True)
      (fun e => e.pathLimit = some limit) :=
    ⟨fun _ _ hlimit hgrows => hgrows.pathLimit_eq.trans hlimit, fun _ _ _ _ => trivial,
      fun _ _ _ _ _ => trivial⟩
  rw [hsteps]
  refine hallows.forNames_ends hcopying (hgrows.pathLimit_eq.trans hlimit) hat
    fun e name hcopying' hlimit' hlisted =>
      hallows.copyEntry_ends (fun _ p => limit - p.bytes.length) ?_ hcopying' hlimit'
        hlisted (by omega)
  -- the path of the source grows with every directory
  intro rest source target e name hcopying hlimit hlisted hdirectory
  have hlength := length_join_of_isDirectory hlimit (hcopying.isFileName hlisted) hdirectory
  omega

/-! ### What a complete copy holds -/

/-- No file of the source is copied into the source. -/
def SparesSource (src dst : Location) (start : Disk) : Prop :=
  ∀ rest content, start.root.node? (src ++ rest) = some (.file content) → ¬src <+: dst ++ rest

/-- The source has the files that it had at the start. -/
def HasFilesOf (src : Location) (start d : Disk) : Prop :=
  ∀ rest content, d.root.node? (src ++ rest) = some (.file content) ↔
    start.root.node? (src ++ rest) = some (.file content)

/-- A directory, or a file that the source had at the start at the same location below it. -/
def IsCopyOf (src dst : Location) (start : Disk) (location : Location) (n : Node) : Prop :=
  n = .directory ∨ ∃ rest content, location = dst ++ rest ∧
    start.root.node? (src ++ rest) = some (.file content) ∧ n = .file content

theorem SparesSource.ne {start : Disk} (h : SparesSource src dst start) {content : Bytes}
    (hfile : start.root.node? (src ++ rest) = some (.file content)) : src ++ rest ≠ dst ++ rest :=
  fun heq => h rest content hfile (heq ▸ List.prefix_append src rest)

/-- If no file of the source is copied into the source, then its files stay what they were, and only
these are copied. -/
theorem SparesSource.allows {start : Disk} (h : SparesSource src dst start) :
    Allows src dst (IsCopyOf src dst start) (HasFilesOf src start) where
  kept := by
    intro d d' hfiles hgrows rest content
    -- no file in the source is new
    have hold {content : Bytes} (hfile : d'.root.node? (src ++ rest) = some (.file content)) :
        d.root.node? (src ++ rest) = some (.file content) := by
      by_contra hne
      rcases hgrows.changed _ _ hfile hne with hdirectory | ⟨rest', content', hlocation, hthere, -⟩
      · cases hdirectory
      · exact h rest' content' hthere (hlocation ▸ List.prefix_append src rest)
    rw [← hfiles]
    refine ⟨hold, fun hfile => ?_⟩
    obtain ⟨n, hn, hkind⟩ := hgrows.kept _ _ hfile
    cases n with
    | directory => exact absurd (hkind.1 rfl) (by simp)
    | file content' => rw [hn, ← hold hn, hfile]
  directory := fun _ _ _ _ => .inl rfl
  file := by
    intro d rest content hfiles hfile
    have hstart := (hfiles rest content).1 hfile
    exact .inr ⟨rest, content, rfl, hstart, by rw [if_neg (h.ne hstart)]⟩

/-- The files that the source had at the start, at a location or below it, are in the target. -/
def HasCopies (src dst : Location) (start : Disk) (rest : Location) (d : Disk) : Prop :=
  ∀ below content, start.root.node? (src ++ (rest ++ below)) = some (.file content) →
    d.root.node? (dst ++ (rest ++ below)) = some (.file content)

/-- Files that were copied stay the copies that they are. -/
theorem Grows.hasCopies {start : Disk} (h : Grows (IsCopyOf src dst start) d d')
    (hcopies : HasCopies src dst start rest d) : HasCopies src dst start rest d' := by
  intro below content hstart
  have hcopy := hcopies below content hstart
  obtain ⟨n, hn, hkind⟩ := h.kept _ _ hcopy
  by_contra hne
  have hchanged : d.root.node? (dst ++ (rest ++ below)) ≠ some n := by
    rw [hcopy, ← hn]
    exact Ne.symm hne
  -- another file that is copied there would be the same file of the source
  rcases h.changed _ n hn hchanged with rfl | ⟨rest', content', hlocation, hstart', rfl⟩
  · exact absurd (hkind.1 rfl) (by simp)
  · obtain rfl : rest ++ below = rest' := List.append_cancel_left hlocation
    rw [hstart] at hstart'
    exact hne (hn.trans hstart'.symm)

/-- If each step for a name copies the files at this name and below it, then all files below the
directory are copied. -/
theorem SparesSource.of_forNames {start : Disk} (hspares : SparesSource src dst start) {depth : Nat}
    {t : Tree} (h : Copying src dst rest source target d) (hfiles : HasFilesOf src start d)
    (hat : d.root.at? (src ++ rest) = some t)
    (hstep : ∀ e e' name, Copying src dst rest source target e → HasFilesOf src start e →
      e.root.node? (src ++ rest ++ [name]) ≠ none →
        copyEntry depth source target e name = some (.ok (), e') →
          HasCopies src dst start (rest ++ [name]) e')
    (hrun : forNames (copyEntry depth source target) d t.names = some (.ok (), d'))
    {below : Location} (hbelow : below ≠ []) {content : Bytes}
    (hstart : start.root.node? (src ++ (rest ++ below)) = some (.file content)) :
    d'.root.node? (dst ++ (rest ++ below)) = some (.file content) := by
  have hallows := hspares.allows
  obtain ⟨name, inner, rfl⟩ := List.exists_cons_of_ne_nil hbelow
  -- the file is still there when the directory is listed, so its first name is listed
  have hlisted : name ∈ t.names := by
    have hfile := (hfiles _ content).2 hstart
    have hsplit : src ++ (rest ++ name :: inner) = src ++ rest ++ [name] ++ inner := by simp
    rw [hsplit] at hfile
    exact (Tree.mem_names_iff hat name).2
      (Tree.node?_ne_none_of_append (hfile ▸ Option.some_ne_none _))
  have hdone := (Disk.of_forNames (Grows (IsCopyOf src dst start) d)
    (fun other => HasCopies src dst start (rest ++ [other]))
    (fun other hother e e' hgrows hstepped => by
      obtain ⟨hcopying, hfiles', hthere⟩ := hallows.step h hfiles hat hother hgrows
      have hwritten := hallows.copyEntry_grows hcopying hfiles' hthere hstepped
      exact ⟨hgrows.trans hwritten, hstep e e' other hcopying hfiles' hthere hstepped,
        fun _ hcopies => hwritten.hasCopies hcopies⟩)
    (.refl d) hrun).2.1 name hlisted inner content
  simpa using hdone (by simpa using hstart)

/-- A step that was successful has copied the files at its name and below it. -/
theorem SparesSource.of_copyEntry {start : Disk} (hspares : SparesSource src dst start)
    {depth : Nat} {name : Bytes} (h : Copying src dst rest source target d)
    (hfiles : HasFilesOf src start d) (hname : d.root.node? (src ++ rest ++ [name]) ≠ none)
    (hcopied : copyEntry depth source target d name = some (.ok (), d')) :
    HasCopies src dst start (rest ++ [name]) d' := by
  -- the files that the source had at the start stay there, so each level can rely on them
  induction depth using Nat.strongRecOn generalizing rest source target d d' name with
  | ind depth ih =>
    intro below content hstart
    have hfile := (hfiles _ content).2 hstart
    rcases h.of_copyEntry hname hcopied with
      ⟨content', hfile', hcopy, -⟩ | ⟨k, d₁, t, rfl, hthere, hgrows, hinner, hat, hrun⟩
    · -- below a file there is nothing
      obtain rfl : below = [] := by
        by_contra hne
        rw [← List.append_assoc] at hfile
        rw [Tree.node?_append (hfile ▸ Option.some_ne_none _) hne] at hfile'
        cases hfile'
      rw [List.append_nil] at hstart hfile ⊢
      rw [hfile] at hfile'
      cases hfile'
      rw [hcopy, if_neg (hspares.ne hstart)]
    · have hbelow : below ≠ [] := by
        rintro rfl
        rw [List.append_nil, hthere] at hfile
        cases hfile
      have hfirst : Grows (IsCopyOf src dst start) d d₁ := hgrows.mono fun _ _ hown _ => .inl hown.2
      exact hspares.of_forNames hinner (hspares.allows.kept d d₁ hfiles hfirst) hat
        (fun e e' other hcopying hfiles' hlisted hstep =>
          ih k (Nat.lt_succ_self k) hcopying hfiles' hlisted hstep) hrun hbelow hstart

/-- A complete copy has every file of the source, if no file of the source is copied into it. -/
theorem Sound.file_of_copyDirWithin (h : d.Sound)
    (hspares : SparesSource (d.locationOf source) (d.locationOf target) d) {depth : Nat}
    (hcopied : copyDirWithin depth d source target = some (.ok (), d')) {content : Bytes}
    (hfile : d.root.node? (d.locationOf source ++ rest) = some (.file content)) :
    d'.root.node? (d.locationOf target ++ rest) = some (.file content) := by
  obtain ⟨k, d₁, t, rfl, hgrows, hcopying, hat, hrun⟩ := h.of_copyDirWithin hcopied
  have hfirst : Grows (IsCopyOf (d.locationOf source) (d.locationOf target) d) d d₁ :=
    hgrows.mono fun _ _ hway _ => .inl hway.1
  have hfiles := hspares.allows.kept d d₁ (fun _ _ => Iff.rfl) hfirst
  have hbelow : rest ≠ [] := by
    -- the source itself is a directory
    rintro rfl
    have hdirectory := hcopying.source_leads _ List.prefix_rfl
    have hstill := (hfiles [] content).2 hfile
    rw [← hcopying.source_eq] at hstill
    exact absurd (hdirectory.symm.trans hstill) (by simp)
  exact hspares.of_forNames hcopying hfiles hat
    (fun e e' name hcopying' hfiles' hlisted hstep =>
      hspares.of_copyEntry hcopying' hfiles' hlisted hstep) hrun hbelow hfile

/-! ### Copies that cannot fail -/

/-- There are directories only. -/
def NoFiles (d : Disk) : Prop := ∀ location n, d.root.node? location = some n → n = .directory

theorem allows_directories (src dst : Location) :
    Allows src dst (fun _ n => n = .directory) (fun d => d.NoFiles ∧ d.pathLimit = none) where
  kept := by
    rintro d d' ⟨hnone, hlimit⟩ hgrows
    refine ⟨fun location n hn => ?_, hgrows.pathLimit_eq.trans hlimit⟩
    by_cases hold : d.root.node? location = some n
    · exact hnone location n hold
    · exact hgrows.changed location n hn hold
  directory := fun _ _ _ _ => rfl
  file := fun d rest content hinv hfile => absurd (hinv.1 _ _ hfile) (by simp)

/-- Without files, and if paths may have any length, no copy of a directory fails. -/
theorem Sound.copyDirWithin_ne_error (h : d.Sound) (hfiles : d.NoFiles)
    (hlimit : d.pathLimit = none) (hsource : d.isDirectory source = true) {p : Path}
    (hleads : d.Leads p) {name : Bytes} (hname : IsFileName name) (depth : Nat)
    (fault : StoreFault) :
    copyDirWithin depth d source (p.join ⟨name⟩) ≠ some (.error fault, d') := by
  induction depth generalizing d d' source p name fault with
  | zero => simp [copyDirWithin]
  | succ depth ih =>
    have hallows := allows_directories (d.locationOf source) (d.locationOf (p.join ⟨name⟩))
    -- the target can be created, and the source can be listed then
    obtain ⟨d₁, hcreated⟩ := h.createDirAll_join hlimit hleads hname fun content hfile => by
      cases hfiles _ _ hfile
    obtain ⟨hempty, hlisted⟩ := h.leads_of_isDirectory hsource
    obtain ⟨hgrows, hcopying⟩ := h.copying hsource hcreated
    have hinv := hallows.kept d d₁ ⟨hfiles, hlimit⟩ (hgrows.mono fun _ _ hway _ => hway.1)
    obtain ⟨place, hplace⟩ := hcopying.sound.place_of_leads hinv.2 hcopying.source_leads hempty
    obtain ⟨-, t, htree⟩ :=
      hcopying.sound.tree_of_place hplace (hcopying.source_leads _ List.prefix_rfl)
    have hat := hcopying.at?_of_tree htree
    rw [copyDirWithin_succ hsource hcreated htree]
    refine forNames_ne_error (Grows (fun _ n => n = .directory) d₁)
      (fun other hother e hgrows' => ?_) (.refl d₁) fault
    obtain ⟨hcopying', hinv', hthere⟩ := hallows.step hcopying hinv hat hother hgrows'
    refine ⟨fun fault e' hstep => ?_, fun e' hstep =>
      hgrows'.trans (hallows.copyEntry_grows hcopying' hinv' hthere hstep)⟩
    -- every name is that of a directory, of which the copy does not fail either
    have hother := hcopying'.isFileName hthere
    have hdirectory : e.root.node? (e.locationOf (source.join ⟨other⟩)) = some .directory := by
      obtain ⟨n, hn⟩ := Option.ne_none_iff_exists'.1 hthere
      rw [(e.join_fileName source hother).2.2, hcopying'.source_eq, hn, hinv'.1 _ n hn]
    obtain ⟨place', hplace'⟩ :=
      hcopying'.sound.place_join hinv'.2 hcopying'.source_leads hother
    have hinner := (hcopying'.sound.tree_of_place hplace' hdirectory).1
    have hentry : copyEntry depth source (p.join ⟨name⟩) e other =
        copyDirWithin depth e (source.join ⟨other⟩) ((p.join ⟨name⟩).join ⟨other⟩) := if_pos hinner
    rw [hentry] at hstep
    exact ih hcopying'.sound hinv'.1 hinv'.2 hinner hcopying'.target_leads hother fault hstep

/-! ### All copies -/

/-- On every disk a copy ends, with the same outcome at every depth that is enough, unless its
target lies inside its source. Then it is never complete, whatever the depth. A complete copy has,
at the same location below the target, every file that was in the source at the start, if no file of
the source is copied into the source, as when neither lies inside the other. -/
theorem Sound.copyDir_ends (h : d.Sound) (source target : Path) :
    let src := d.locationOf source
    let dst := d.locationOf target
    (¬(src <+: dst ∧ src ≠ dst) →
      ∃ depth outcome, ∀ more, copyDirWithin (depth + more) d source target = some outcome) ∧
    (src <+: dst ∧ src ≠ dst →
      ∀ depth d', copyDirWithin depth d source target ≠ some (.ok (), d')) ∧
    ∀ depth d', copyDirWithin depth d source target = some (.ok (), d') →
      (∀ rest content, d.root.at? (src ++ rest) = some (.file content) → ¬src <+: dst ++ rest) →
        ∀ rest content, d.root.at? (src ++ rest) = some (.file content) →
          d'.root.at? (dst ++ rest) = some (.file content) := by
  intro src dst
  refine ⟨fun houtside => ?_, fun hinside depth d' => h.copyDirWithin_ne_ok hinside depth, ?_⟩
  · obtain ⟨depth, outcome, hended⟩ := h.copyDirWithin_ends houtside
    exact ⟨depth, outcome, copyDirWithin_mono hended⟩
  · intro depth d' hcopied hspares rest content hfile
    rw [Tree.at?_eq_file_iff] at hfile ⊢
    refine h.file_of_copyDirWithin (fun rest content hfile => ?_) hcopied hfile
    exact hspares rest content (Tree.at?_eq_file_iff.2 hfile)

/-- A file at `a/b/f`, on a disk without a limit for paths. -/
def oneFile : Disk := (({ pathLimit := none } : Disk).writeText (.ofString "a/b/f") "1").2

/-- The directory `a/b` is copied to the one above it, which ends, and the complete copy has its
file. -/
theorem Sound.copyDir_ends_above :
    oneFile.Sound ∧
      (∃ depth outcome, ∀ more, copyDirWithin (depth + more) oneFile (.ofString "a/b")
        (.ofString "a") = some outcome) ∧
      ∃ depth d', copyDirWithin depth oneFile (.ofString "a/b") (.ofString "a") =
        some (.ok (), d') ∧ d'.root.at? [[0x61], [0x66]] = some (.file [0x31]) := by
  have hsound : oneFile.Sound := (Reachable.writeText (.new none) _ _).sound
  obtain ⟨hends, -, hcomplete⟩ := hsound.copyDir_ends (.ofString "a/b") (.ofString "a")
  have hsource : oneFile.locationOf (.ofString "a/b") = [[0x61], [0x62]] := by decide +kernel
  have htarget : oneFile.locationOf (.ofString "a") = [[0x61]] := by decide +kernel
  rw [hsource, htarget] at hends hcomplete
  obtain ⟨⟨result, d'⟩, hcopied, hok⟩ : ∃ outcome, copyDirWithin 2 oneFile (.ofString "a/b")
      (.ofString "a") = some outcome ∧ outcome.1 = .ok () :=
    Option.map_eq_some_iff.1 (by decide +kernel)
  obtain rfl : result = .ok () := hok
  refine ⟨hsound, hends (by decide), 2, d', hcopied, ?_⟩
  refine hcomplete 2 d' hcopied (fun rest content hfile habove => ?_) [[0x66]] [0x31] ?_
  · -- a file below `a/b/b` would be copied there, and there is none
    obtain ⟨t, hat, hnames⟩ : ∃ t, oneFile.root.at? [[0x61], [0x62]] = some t ∧
        t.names = [[0x66]] := Option.map_eq_some_iff.1 (by decide +kernel)
    obtain ⟨rest', rfl⟩ : ∃ rest', rest = [0x62] :: rest' := by
      obtain ⟨rest', heq⟩ := habove
      exact ⟨rest', (List.cons.inj heq).2.symm⟩
    have hfile : oneFile.root.node? ([[0x61], [0x62]] ++ [[0x62]] ++ rest') ≠ none :=
      Tree.at?_eq_file_iff.1 hfile ▸ Option.some_ne_none _
    have hlisted := (Tree.mem_names_iff hat [0x62]).2 (Tree.node?_ne_none_of_append hfile)
    rw [hnames] at hlisted
    exact absurd hlisted (by decide)
  · exact Tree.at?_eq_file_iff.2 (by decide +kernel)

/-- The empty directory `s`, on a disk without a limit for paths. -/
def oneDirectory : Disk := (({ pathLimit := none } : Disk).createDirAll (.ofString "s")).2

theorem oneDirectory_noFiles : oneDirectory.NoFiles := by
  have hempty : NoFiles { pathLimit := none } := by
    intro location n hn
    cases location with
    | nil => exact (Option.some.inj hn).symm
    | cons name rest => cases hn
  have hcreated : ({ pathLimit := none } : Disk).createDirAll (.ofString "s") =
      (.ok (), oneDirectory) := Prod.ext (by decide +kernel) rfl
  have hgrows := ((new_sound none).of_createDirAll hcreated).2
  exact ((allows_directories [] []).kept _ _ ⟨hempty, rfl⟩
    (hgrows.mono fun _ _ hway _ => hway.1)).1

/-- Files `a/b/x` and `a/b/b/x`, on a disk without a limit for paths. -/
def twoFiles : Disk :=
  ((({ pathLimit := none } : Disk).writeText (.ofString "a/b/x") "1").2.writeText
    (.ofString "a/b/b/x") "2").2

/-- A copy of the empty directory `s` to `s/x` does not end at any depth. A copy of `a/b` to `a` is
complete, but the file `a/b/x` is lost: the copy of `a/b/b/x` has taken its place before it was
copied. -/
theorem copyDir_intoItself :
    (oneDirectory.Reachable ∧ oneDirectory.pathLimit = none ∧
      oneDirectory.isDirectory (.ofString "s") = true ∧
      ∀ depth, copyDirWithin depth oneDirectory (.ofString "s") (.ofString "s/x") = none) ∧
    twoFiles.Reachable ∧ twoFiles.readText (.ofString "a/b/x") = .ok "1" ∧
      (twoFiles.copyDir (.ofString "a/b") (.ofString "a")).1 = .ok () ∧
      (twoFiles.copyDir (.ofString "a/b") (.ofString "a")).2.readText (.ofString "a/x") =
        .ok "2" := by
  have hreached : oneDirectory.Reachable := .createDirAll (.new none) _
  have hdirectory : oneDirectory.isDirectory (.ofString "s") = true := by decide +kernel
  have hlimit : oneDirectory.pathLimit = none := by decide +kernel
  refine ⟨⟨hreached, hlimit, hdirectory, fun depth => ?_⟩,
    .writeText (.writeText (.new none) _ _) _ _, by decide +kernel, by decide +kernel,
    by decide +kernel⟩
  cases hcopied : copyDirWithin depth oneDirectory (.ofString "s") (.ofString "s/x") with
  | none => rfl
  | some outcome =>
    exfalso
    have hsound := hreached.sound
    rcases outcome with ⟨fault | _, d'⟩
    · -- it cannot fail, because there are directories only
      have hname : IsFileName [0x78] :=
        ⟨by unfold Path.Component.IsInner; decide, by decide, by decide⟩
      exact hsound.copyDirWithin_ne_error oneDirectory_noFiles hlimit hdirectory
        (hsound.leads_of_isDirectory hdirectory).2 hname depth fault hcopied
    · -- it cannot be complete, because the target lies inside the source
      have hinside : oneDirectory.locationOf (.ofString "s") <+:
          oneDirectory.locationOf (.ofString "s/x") ∧
            oneDirectory.locationOf (.ofString "s") ≠
              oneDirectory.locationOf (.ofString "s/x") := by
        decide +kernel
      exact hsound.copyDirWithin_ne_ok hinside depth hcopied

end ContainerBuild.Disk
