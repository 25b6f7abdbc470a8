import ContainerBuild.Proofs.Disk.Writing

/-!
# Copies in progress

A directory is listed when the target is there, and each directory that is found is copied in turn.
What a copy writes is decided entry by entry: a directory where the source has one, and a file with
the content of the source's file, each at the same location below the target.

* `Disk.of_forNames` — what a loop over names has done if it was successful.
* `Disk.copyDirWithin_mono` — a copy that has ended is the same at every greater depth.
* `Disk.Copying.of_copyEntry` — what a step of a copy has done if it was successful.
* `Disk.Allows.copyEntry_grows` — what a copy may write, from what it may write for each entry.
* `Disk.Allows.copyEntry_ends` — a copy ends if what it comes to leaves less and less room.
* `Disk.Sound.copyDirWithin_cases` — how a copy starts.
-/

namespace ContainerBuild.Disk

/-! ### Loops -/

section Loops

variable {step step' : Disk → Bytes → Option Outcome} {names : List Bytes} {d d' : Disk}
  (Inv : Disk → Prop)

theorem forNames_mono (hstep : ∀ d name outcome, step d name = some outcome →
    step' d name = some outcome) {outcome : Outcome} (h : forNames step d names = some outcome) :
    forNames step' d names = some outcome := by
  induction names generalizing d with
  | nil => exact h
  | cons name rest ih =>
    rw [forNames] at h ⊢
    split at h
    next => cases h
    next heq => rw [hstep _ _ _ heq]; exact h
    next heq => rw [hstep _ _ _ heq]; exact ih h

/-- A loop ends if each of its steps does, as long as those before were successful. -/
theorem forNames_ends (hstep : ∀ name ∈ names, ∀ d, Inv d → ∃ outcome,
    step d name = some outcome ∧ ∀ d', outcome = (.ok (), d') → Inv d') (h : Inv d) :
    ∃ outcome, forNames step d names = some outcome := by
  induction names generalizing d with
  | nil => exact ⟨_, rfl⟩
  | cons name rest ih =>
    rw [List.forall_mem_cons] at hstep
    obtain ⟨⟨result, d₁⟩, heq, hnext⟩ := hstep.1 d h
    rw [forNames, heq]
    cases result with
    | error fault => exact ⟨_, rfl⟩
    | ok => exact ih hstep.2 (hnext d₁ rfl)

/-- A loop does not fail if none of its steps does. -/
theorem forNames_ne_error (hstep : ∀ name ∈ names, ∀ d, Inv d →
    (∀ fault d', step d name ≠ some (.error fault, d')) ∧
      ∀ d', step d name = some (.ok (), d') → Inv d') (h : Inv d) (fault : StoreFault) :
    forNames step d names ≠ some (.error fault, d') := by
  induction names generalizing d with
  | nil => simp [forNames]
  | cons name rest ih =>
    rw [List.forall_mem_cons] at hstep
    obtain ⟨hnot, hnext⟩ := hstep.1 d h
    rw [forNames]
    split
    next => simp
    next heq => exact absurd heq (hnot _ _)
    next heq => exact ih hstep.2 (hnext _ heq)

/-- A loop that was successful has taken every step, and what a step has done is still done. -/
theorem of_forNames (Done : Bytes → Disk → Prop) (hstep : ∀ name ∈ names, ∀ d d', Inv d →
    step d name = some (.ok (), d') →
      Inv d' ∧ Done name d' ∧ ∀ other, Done other d → Done other d') (h : Inv d)
    (hrun : forNames step d names = some (.ok (), d')) :
    Inv d' ∧ (∀ name ∈ names, Done name d') ∧ ∀ other, Done other d → Done other d' := by
  induction names generalizing d with
  | nil =>
    cases hrun
    exact ⟨h, fun name hmem => absurd hmem List.not_mem_nil, fun other hother => hother⟩
  | cons name rest ih =>
    rw [List.forall_mem_cons] at hstep
    rw [forNames] at hrun
    split at hrun
    next => cases hrun
    next => cases hrun
    next d₁ heq =>
      obtain ⟨hinv, hdone, hkept⟩ := hstep.1 d d₁ h heq
      obtain ⟨hinv', hall, hkept'⟩ := ih hstep.2 hinv hrun
      exact ⟨hinv', List.forall_mem_cons.2 ⟨hkept' name hdone, hall⟩,
        fun other hother => hkept' other (hkept other hother)⟩

end Loops

/-! ### Steps of a copy -/

/-- The step of a copy that is taken for a name in the source. -/
def copyEntry (depth : Nat) (source target : Path) (d : Disk) (name : Bytes) : Option Outcome :=
  let inner := source.join ⟨name⟩
  let copy := target.join ⟨name⟩
  if d.isDirectory inner then copyDirWithin depth d inner copy else some (d.copyFile inner copy)

/-- Once the target is there, a step is taken for each name in the source. -/
theorem copyDirWithin_succ {d d₁ : Disk} {source target : Path} {t : Tree}
    (hdirectory : d.isDirectory source = true) (hcreated : d.createDirAll target = (.ok (), d₁))
    (htree : d₁.tree source = .ok t) (depth : Nat) :
    copyDirWithin (depth + 1) d source target =
      forNames (copyEntry depth source target) d₁ t.names := by
  simp only [copyDirWithin, hdirectory, hcreated, htree]
  rfl

/-- A copy fails at its start, or comes to the names in the source. -/
theorem copyDirWithin_cases (d : Disk) (source target : Path) :
    (∃ fault d', ∀ depth, copyDirWithin (depth + 1) d source target = some (.error fault, d')) ∨
      ∃ d₁ t, d.isDirectory source = true ∧ d.createDirAll target = (.ok (), d₁) ∧
        d₁.tree source = .ok t := by
  cases hdirectory : d.isDirectory source with
  | false => exact .inl ⟨_, _, fun depth => by simp only [copyDirWithin, hdirectory]; rfl⟩
  | true =>
  rcases hcreated : d.createDirAll target with ⟨fault | _, d₁⟩
  · exact .inl ⟨_, _, fun depth => by simp only [copyDirWithin, hdirectory, hcreated]; rfl⟩
  cases htree : d₁.tree source with
  | error fault =>
    exact .inl ⟨_, _, fun depth => by simp only [copyDirWithin, hdirectory, hcreated, htree]; rfl⟩
  | ok t => exact .inr ⟨d₁, t, rfl, rfl, htree⟩

/-- A copy that has ended is the same at every greater depth. -/
theorem copyDirWithin_mono {depth : Nat} {d : Disk} {source target : Path} {outcome : Outcome}
    (h : copyDirWithin depth d source target = some outcome) (more : Nat) :
    copyDirWithin (depth + more) d source target = some outcome := by
  induction depth generalizing d source target outcome with
  | zero => cases h
  | succ depth ih =>
    rw [Nat.add_right_comm]
    rcases copyDirWithin_cases d source target with
      ⟨fault, d', hfails⟩ | ⟨d₁, t, hdirectory, hcreated, htree⟩
    · rw [hfails] at h ⊢
      exact h
    · rw [copyDirWithin_succ hdirectory hcreated htree] at h ⊢
      -- the same names are listed, and each directory among them is copied one level less deep
      refine forNames_mono (fun e name outcome hstep => ?_) h
      unfold copyEntry at hstep ⊢
      dsimp only at hstep ⊢
      split at hstep
      next hinner => rw [if_pos hinner]; exact ih hstep
      next hinner => rw [if_neg hinner]; exact hstep

/-! ### Copies in progress -/

/-- A copy from one location to another has come to the location `rest` below both, and the target
is there. -/
structure Copying (src dst rest : Location) (source target : Path) (d : Disk) : Prop where
  sound : d.Sound
  source_leads : d.Leads source
  source_eq : d.locationOf source = src ++ rest
  target_leads : d.Leads target
  target_eq : d.locationOf target = dst ++ rest

namespace Copying

variable {src dst rest : Location} {source target : Path} {d d' d₁ : Disk} {name : Bytes}
  {may : Location → Node → Prop}

theorem grows (h : Copying src dst rest source target d) (hgrows : Grows may d d') :
    Copying src dst rest source target d' where
  sound := hgrows.sound h.sound
  source_leads := hgrows.leads h.source_leads
  source_eq := (hgrows.locationOf_eq source).trans h.source_eq
  target_leads := hgrows.leads h.target_leads
  target_eq := (hgrows.locationOf_eq target).trans h.target_eq

/-- What is below both locations may be counted as part of them. -/
theorem shift (h : Copying src dst rest source target d) :
    Copying (src ++ rest) (dst ++ rest) [] source target d where
  sound := h.sound
  source_leads := h.source_leads
  source_eq := by rw [h.source_eq, List.append_nil]
  target_leads := h.target_leads
  target_eq := by rw [h.target_eq, List.append_nil]

theorem isFileName (h : Copying src dst rest source target d)
    (hname : d.root.node? (src ++ rest ++ [name]) ≠ none) : IsFileName name :=
  h.sound.names _ hname name (by simp)

/-- The source is listed where the copy has come to. -/
theorem at?_of_tree (h : Copying src dst rest source target d) {t : Tree}
    (htree : d.tree source = .ok t) : d.root.at? (src ++ rest) = some t := by
  rw [← h.source_eq]
  exact (h.sound.of_tree htree).2.2

/-- A copy of a directory in the source fails at its start, or goes on there when the directory is
there in the target. -/
theorem copyDirWithin_cases (h : Copying src dst rest source target d)
    (hname : d.root.node? (src ++ rest ++ [name]) ≠ none)
    (hdirectory : d.isDirectory (source.join ⟨name⟩) = true) :
    let own := rest ++ [name]
    let inner := source.join ⟨name⟩
    let copy := target.join ⟨name⟩
    d.root.node? (src ++ own) = some .directory ∧
      ((∃ fault d', ∀ depth, copyDirWithin (depth + 1) d inner copy = some (.error fault, d')) ∨
        ∃ d₁ t, Grows (fun location n => location = dst ++ own ∧ n = .directory) d d₁ ∧
          Copying src dst own inner copy d₁ ∧ d₁.root.at? (src ++ own) = some t ∧
            ∀ depth, copyDirWithin (depth + 1) d inner copy =
              forNames (copyEntry depth inner copy) d₁ t.names) := by
  intro own inner copy
  have hfile := h.isFileName hname
  obtain ⟨-, hleads⟩ := h.sound.leads_of_isDirectory hdirectory
  have hsource : d.locationOf inner = src ++ own := by
    rw [(d.join_fileName source hfile).2.2, h.source_eq, List.append_assoc]
  have htarget : d.locationOf copy = dst ++ own := by
    rw [(d.join_fileName target hfile).2.2, h.target_eq, List.append_assoc]
  refine ⟨hsource ▸ hleads _ List.prefix_rfl, ?_⟩
  rcases Disk.copyDirWithin_cases d inner copy with hfails | ⟨d₁, t, -, hcreated, htree⟩
  · exact .inl hfails
  obtain ⟨hthere, hgrows⟩ := h.sound.of_createDirAll_join h.target_leads hfile hcreated
  rw [h.target_eq, List.append_assoc] at hgrows
  have hcopying : Copying src dst own inner copy d₁ :=
    ⟨hgrows.sound h.sound, hgrows.leads hleads, by rw [hgrows.locationOf_eq, hsource], hthere,
      by rw [hgrows.locationOf_eq, htarget]⟩
  exact .inr ⟨d₁, t, hgrows, hcopying, hcopying.at?_of_tree htree,
    copyDirWithin_succ hdirectory hcreated htree⟩

/-- A step that was successful has copied a file, or has created a directory and copied what it
holds. -/
theorem of_copyEntry (h : Copying src dst rest source target d)
    (hname : d.root.node? (src ++ rest ++ [name]) ≠ none) {depth : Nat}
    (hcopied : copyEntry depth source target d name = some (.ok (), d')) :
    let own := rest ++ [name]
    (∃ content, d.root.node? (src ++ own) = some (.file content) ∧
      let copy := Node.file (if src ++ own = dst ++ own then [] else content)
      d'.root.node? (dst ++ own) = some copy ∧
        Grows (fun location n => location = dst ++ own ∧ n = copy) d d') ∨
    ∃ k d₁ t, depth = k + 1 ∧ d.root.node? (src ++ own) = some .directory ∧
      Grows (fun location n => location = dst ++ own ∧ n = .directory) d d₁ ∧
        Copying src dst own (source.join ⟨name⟩) (target.join ⟨name⟩) d₁ ∧
          d₁.root.at? (src ++ own) = some t ∧
            forNames (copyEntry k (source.join ⟨name⟩) (target.join ⟨name⟩)) d₁ t.names =
              some (.ok (), d') := by
  intro own
  unfold copyEntry at hcopied
  dsimp only at hcopied
  split at hcopied
  next hdirectory =>
    cases depth with
    | zero => cases hcopied
    | succ k =>
      obtain ⟨hthere, ⟨fault, d', hfails⟩ | ⟨d₁, t, hgrows, hcopying, hat, hsteps⟩⟩ :=
        h.copyDirWithin_cases hname hdirectory
      · rw [hfails] at hcopied
        cases hcopied
      · rw [hsteps] at hcopied
        exact .inr ⟨k, d₁, t, rfl, hthere, hgrows, hcopying, hat, hcopied⟩
  next =>
    have hfile := h.isFileName hname
    have hdone := h.sound.of_copyFile_join h.target_leads hfile (Option.some.inj hcopied)
    rw [(d.join_fileName source hfile).2.2, h.source_eq, h.target_eq, List.append_assoc,
      List.append_assoc] at hdone
    exact .inl hdone

end Copying

/-! ### What a copy may write -/

/-- Copying an entry writes only what may be written, and this keeps what is known of the disk. -/
structure Allows (src dst : Location) (may : Location → Node → Prop) (Inv : Disk → Prop) :
    Prop where
  kept : ∀ d d', Inv d → Grows may d d' → Inv d'
  directory : ∀ d rest, Inv d → d.root.node? (src ++ rest) = some .directory →
    may (dst ++ rest) .directory
  file : ∀ d rest content, Inv d → d.root.node? (src ++ rest) = some (.file content) →
    may (dst ++ rest) (.file (if src ++ rest = dst ++ rest then [] else content))

namespace Allows

variable {src dst rest : Location} {may : Location → Node → Prop} {Inv : Disk → Prop}
  {source target : Path} {d d' : Disk}

/-- At every step of a copy, the copy is in progress, what is known of the disk still is, and the
name that was listed is there. -/
theorem step (h : Allows src dst may Inv) (hcopying : Copying src dst rest source target d)
    (hinv : Inv d) {t : Tree} (hat : d.root.at? (src ++ rest) = some t) {name : Bytes}
    (hname : name ∈ t.names) (hgrows : Grows may d d') :
    Copying src dst rest source target d' ∧ Inv d' ∧
      d'.root.node? (src ++ rest ++ [name]) ≠ none :=
  ⟨hcopying.grows hgrows, h.kept d d' hinv hgrows,
    hgrows.node?_ne_none ((Tree.mem_names_iff hat name).1 hname)⟩

/-- A step that was successful has written only what may be written. -/
theorem copyEntry_grows (h : Allows src dst may Inv) {depth : Nat} {name : Bytes}
    (hcopying : Copying src dst rest source target d) (hinv : Inv d)
    (hname : d.root.node? (src ++ rest ++ [name]) ≠ none)
    (hcopied : copyEntry depth source target d name = some (.ok (), d')) : Grows may d d' := by
  -- a step for a directory takes steps at the depth below it, at a location below its own
  induction depth using Nat.strongRecOn generalizing rest source target d d' name with
  | ind depth ih =>
    rcases hcopying.of_copyEntry hname hcopied with
      ⟨content, hfile, -, hgrows⟩ | ⟨k, d₁, t, rfl, hthere, hgrows, hinner, hat, hrun⟩
    · refine hgrows.mono ?_
      rintro location n ⟨rfl, rfl⟩ -
      exact h.file d _ content hinv hfile
    · have hfirst : Grows may d d₁ := hgrows.mono (by
        rintro location n ⟨rfl, rfl⟩ -
        exact h.directory d _ hinv hthere)
      -- each step in the directory writes what may be written, so all of them do
      have hsteps := of_forNames (Grows may d₁) (fun _ _ => True)
        (fun name' hname' e e' hgrows' hstep => by
          obtain ⟨hcopying', hinv', hlisted⟩ :=
            h.step hinner (h.kept d d₁ hinv hfirst) hat hname' hgrows'
          have hstepped := ih k (Nat.lt_succ_self k) hcopying' hinv' hlisted hstep
          exact ⟨hgrows'.trans hstepped, trivial, fun _ _ => trivial⟩)
        (.refl d₁) hrun
      exact hfirst.trans hsteps.1

/-- What is listed in a directory is copied to the end if each step ends. -/
theorem forNames_ends (h : Allows src dst may Inv)
    (hcopying : Copying src dst rest source target d) (hinv : Inv d) {t : Tree}
    (hat : d.root.at? (src ++ rest) = some t) {depth : Nat}
    (hends : ∀ e name, Copying src dst rest source target e → Inv e →
      e.root.node? (src ++ rest ++ [name]) ≠ none →
        ∃ outcome, copyEntry depth source target e name = some outcome) :
    ∃ outcome, forNames (copyEntry depth source target) d t.names = some outcome := by
  refine Disk.forNames_ends (Grows may d) (fun name hname e hgrows => ?_) (.refl d)
  obtain ⟨hcopying', hinv', hlisted⟩ := h.step hcopying hinv hat hname hgrows
  obtain ⟨outcome, hstep⟩ := hends e name hcopying' hinv' hlisted
  refine ⟨outcome, hstep, fun e' heq => hgrows.trans ?_⟩
  exact h.copyEntry_grows hcopying' hinv' hlisted (heq ▸ hstep)

/-- A step ends if each directory that a copy comes to leaves less room than the one before. -/
theorem copyEntry_ends (h : Allows src dst may Inv) (room : Location → Path → Nat)
    (hroom : ∀ rest source target d name, Copying src dst rest source target d → Inv d →
      d.root.node? (src ++ rest ++ [name]) ≠ none → d.isDirectory (source.join ⟨name⟩) = true →
        room (rest ++ [name]) (source.join ⟨name⟩) < room rest source)
    {depth : Nat} {name : Bytes} (hcopying : Copying src dst rest source target d) (hinv : Inv d)
    (hname : d.root.node? (src ++ rest ++ [name]) ≠ none) (hdepth : room rest source ≤ depth) :
    ∃ outcome, copyEntry depth source target d name = some outcome := by
  -- the depth that is left is always enough for the room that is left
  induction depth generalizing rest source target d name with
  | zero =>
    unfold copyEntry
    dsimp only
    split
    next hdirectory =>
      have hless := hroom rest source target d name hcopying hinv hname hdirectory
      omega
    next => exact ⟨_, rfl⟩
  | succ depth ih =>
    unfold copyEntry
    dsimp only
    split
    next hdirectory =>
      have hless := hroom rest source target d name hcopying hinv hname hdirectory
      obtain ⟨hthere, ⟨fault, d', hfails⟩ | ⟨d₁, t, hgrows, hinner, hat, hsteps⟩⟩ :=
        hcopying.copyDirWithin_cases hname hdirectory
      · exact ⟨_, hfails depth⟩
      · have hinv₁ := h.kept d d₁ hinv (hgrows.mono (by
          rintro location n ⟨rfl, rfl⟩ -
          exact h.directory d _ hinv hthere))
        rw [hsteps]
        -- whatever the other steps have written, each name leaves less room than this one
        exact h.forNames_ends hinner hinv₁ hat fun e other hcopying' hinv' hlisted =>
          ih hcopying' hinv' hlisted (by omega)
    next => exact ⟨_, rfl⟩

end Allows

/-! ### Whole copies -/

/-- When the target was created, the copy is in progress. -/
theorem Sound.copying {d d₁ : Disk} (h : d.Sound) {source target : Path}
    (hdirectory : d.isDirectory source = true)
    (hcreated : d.createDirAll target = (.ok (), d₁)) :
    Grows (d.IsOnWay target) d d₁ ∧
      Copying (d.locationOf source) (d.locationOf target) [] source target d₁ := by
  obtain ⟨-, hleads⟩ := h.leads_of_isDirectory hdirectory
  obtain ⟨hthere, hgrows⟩ := h.of_createDirAll hcreated
  refine ⟨hgrows, hgrows.sound h, hgrows.leads hleads, ?_, hthere, ?_⟩
  · rw [hgrows.locationOf_eq, List.append_nil]
  · rw [hgrows.locationOf_eq, List.append_nil]

/-- A copy fails at its start, or takes a step for each name in the source when the target is
there. -/
theorem Sound.copyDirWithin_cases {d : Disk} (h : d.Sound) (source target : Path) :
    (∃ fault d', ∀ depth, copyDirWithin (depth + 1) d source target = some (.error fault, d')) ∨
      ∃ d₁ t, Grows (d.IsOnWay target) d d₁ ∧
        Copying (d.locationOf source) (d.locationOf target) [] source target d₁ ∧
          d₁.root.at? (d.locationOf source ++ []) = some t ∧
            ∀ depth, copyDirWithin (depth + 1) d source target =
              forNames (copyEntry depth source target) d₁ t.names := by
  rcases Disk.copyDirWithin_cases d source target with
    hfails | ⟨d₁, t, hdirectory, hcreated, htree⟩
  · exact .inl hfails
  obtain ⟨hgrows, hcopying⟩ := h.copying hdirectory hcreated
  exact .inr ⟨d₁, t, hgrows, hcopying, hcopying.at?_of_tree htree,
    copyDirWithin_succ hdirectory hcreated htree⟩

/-- A complete copy has created the target and taken a step for each name in the source. -/
theorem Sound.of_copyDirWithin {d d' : Disk} (h : d.Sound) {source target : Path} {depth : Nat}
    (hcopied : copyDirWithin depth d source target = some (.ok (), d')) :
    ∃ k d₁ t, depth = k + 1 ∧ Grows (d.IsOnWay target) d d₁ ∧
      Copying (d.locationOf source) (d.locationOf target) [] source target d₁ ∧
        d₁.root.at? (d.locationOf source ++ []) = some t ∧
          forNames (copyEntry k source target) d₁ t.names = some (.ok (), d') := by
  cases depth with
  | zero => cases hcopied
  | succ k =>
    rcases h.copyDirWithin_cases source target with
      ⟨fault, d', hfails⟩ | ⟨d₁, t, hgrows, hcopying, hat, hsteps⟩
    · rw [hfails] at hcopied
      cases hcopied
    · rw [hsteps] at hcopied
      exact ⟨k, d₁, t, rfl, hgrows, hcopying, hat, hcopied⟩

end ContainerBuild.Disk
