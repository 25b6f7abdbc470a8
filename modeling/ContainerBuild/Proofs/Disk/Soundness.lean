import ContainerBuild.Proofs.Disk.Writing

/-!
# Disks that are reached

Names come onto a disk from paths that the system has walked, so they can be written in paths again,
and the working directory stays a directory. Each operation of a file store keeps that, whether it
succeeds or fails, and so do all of them one after the other.

* `Disk.createDirAll_sound`, `Disk.writeText_sound`, `Disk.copyFile_sound`, `Disk.copyDir_sound` —
  the operations keep a sound disk sound.
* `Disk.Reachable.sound` — every disk is sound that comes about by them.
-/

namespace ContainerBuild.Disk

variable {d : Disk}

/-- A disk on which nothing is. -/
theorem new_sound (pathLimit : Option Nat) : Sound { pathLimit := pathLimit } where
  cwd := rfl
  names := by
    intro location h name hname
    cases location with
    | nil => cases hname
    | cons first rest => exact absurd rfl h

theorem attempting_snd (attempt : Attempt) (result : Result Unit) :
    (attempting attempt result).2 = result.2 := by
  rcases result with ⟨fault | _, d⟩ <;> rfl

/-! ### Directories -/

theorem createFirst_sound (h : d.Sound) (fuel : Nat) (missing : List Path) (p : Path) :
    (d.createFirst fuel missing p).2.Sound := by
  induction fuel generalizing missing p with
  | zero => exact h
  | succ fuel ih =>
    rw [createFirst]
    split
    next => exact h
    next =>
    split
    next d' hmade => exact (h.of_makeDirectory hmade).2.2.sound h
    next =>
      split
      next => exact h
      next => exact ih _ _
    next => split <;> exact h

theorem createEach_sound (h : d.Sound) (missing : List Path) : (d.createEach missing).2.Sound := by
  induction missing generalizing d with
  | nil => exact h
  | cons p rest ih =>
    rw [createEach]
    split
    next d' hmade => exact ih ((h.of_makeDirectory hmade).2.2.sound h)
    next =>
      split
      next => exact ih h
      next => exact h

theorem createDirAll_sound (h : d.Sound) (p : Path) : (d.createDirAll p).2.Sound := by
  rw [createDirAll, attempting_snd, createAll]
  have hfirst := createFirst_sound h (p.components.length + 1) [] p
  split
  next heq => rwa [heq] at hfirst
  next heq =>
    rw [heq] at hfirst
    exact createEach_sound hfirst _

theorem createParents_sound (h : d.Sound) (p : Path) : (d.createParents p).2.Sound := by
  unfold createParents
  split
  next => exact h
  next =>
    split
    next => exact h
    next => exact createDirAll_sound h _

/-! ### Files -/

theorem openFile_sound (h : d.Sound) (p : Path) : (d.openFile p).2.Sound := by
  rcases hopened : d.openFile p with ⟨fault | location, d'⟩
  · have hsame : d' = d := by
      unfold openFile at hopened
      split at hopened
      next => cases hopened; rfl
      all_goals
        split at hopened
        next => cases hopened; rfl
        next => cases hopened
    rwa [hsame]
  · exact (h.of_openFile hopened).2.2.2.sound h

theorem writeBytes_sound (h : d.Sound) (p : Path) (content : Bytes) :
    (d.writeBytes p content).2.Sound := by
  have hopen := openFile_sound h p
  unfold writeBytes
  split
  next heq => rwa [heq] at hopen
  next heq => exact (h.put_of_openFile heq content).sound h

theorem copyBytes_sound (h : d.Sound) (source target : Path) :
    (d.copyBytes source target).2.Sound := by
  have hopen := openFile_sound h target
  unfold copyBytes
  split
  next => exact h
  next => exact h
  next =>
    split
    next heq => rwa [heq] at hopen
    next heq =>
      split
      next => rwa [heq] at hopen
      next => exact (h.put_of_openFile heq _).sound h

theorem writeText_sound (h : d.Sound) (p : Path) (content : String) :
    (d.writeText p content).2.Sound := by
  have hparents := createParents_sound h p
  unfold writeText
  split
  next heq => rwa [heq] at hparents
  next heq =>
    rw [heq] at hparents
    rw [attempting_snd]
    exact writeBytes_sound hparents p _

theorem copyFile_sound (h : d.Sound) (source target : Path) :
    (d.copyFile source target).2.Sound := by
  have hparents := createParents_sound h target
  unfold copyFile
  split
  next heq => rwa [heq] at hparents
  next heq =>
    rw [heq] at hparents
    rw [attempting_snd]
    exact copyBytes_sound hparents source target

/-! ### Copies of directories -/

/-- A loop keeps a disk sound if its steps do. -/
theorem forNames_sound {step : Disk → Bytes → Option Outcome}
    (hstep : ∀ d name outcome, d.Sound → step d name = some outcome → outcome.2.Sound)
    (h : d.Sound) {names : List Bytes} {outcome : Outcome}
    (hrun : forNames step d names = some outcome) : outcome.2.Sound := by
  induction names generalizing d with
  | nil => cases hrun; exact h
  | cons name rest ih =>
    rw [forNames] at hrun
    split at hrun
    next => cases hrun
    next heq => cases hrun; exact hstep _ _ _ h heq
    next heq => exact ih (hstep _ _ _ h heq) hrun

theorem copyDirWithin_sound (h : d.Sound) {depth : Nat} {source target : Path} {outcome : Outcome}
    (hcopied : copyDirWithin depth d source target = some outcome) : outcome.2.Sound := by
  induction depth generalizing d source target outcome with
  | zero => cases hcopied
  | succ depth ih =>
    have hcreated := createDirAll_sound h target
    rw [copyDirWithin] at hcopied
    split at hcopied
    next => cases hcopied; exact h
    next =>
    split at hcopied
    next heq => rw [heq] at hcreated; cases hcopied; exact hcreated
    next heq =>
    rw [heq] at hcreated
    split at hcopied
    next => cases hcopied; exact hcreated
    next =>
      refine forNames_sound (fun e name outcome he hstep => ?_) hcreated hcopied
      dsimp only at hstep
      split at hstep
      next => exact ih he hstep
      next => cases hstep; exact copyFile_sound he _ _

theorem copyDir_sound (h : d.Sound) (source target : Path) : (d.copyDir source target).2.Sound := by
  unfold copyDir
  split
  next heq => exact copyDirWithin_sound h heq
  next => exact h

/-- The disks that come about from one on which nothing is by the operations of a file store. -/
inductive Reachable : Disk → Prop where
  | new (pathLimit : Option Nat) : Reachable { pathLimit := pathLimit }
  | createDirAll {d : Disk} (h : Reachable d) (p : Path) : Reachable (d.createDirAll p).2
  | writeText {d : Disk} (h : Reachable d) (p : Path) (content : String) :
      Reachable (d.writeText p content).2
  | copyFile {d : Disk} (h : Reachable d) (source target : Path) :
      Reachable (d.copyFile source target).2
  | copyDir {d : Disk} (h : Reachable d) (source target : Path) :
      Reachable (d.copyDir source target).2

/-- Every disk is sound that comes about by the operations of a file store. -/
theorem Reachable.sound (h : d.Reachable) : d.Sound := by
  -- the answers do not matter: an operation that has failed leaves a sound disk too
  induction h with
  | new pathLimit => exact new_sound pathLimit
  | createDirAll _ p ih => exact createDirAll_sound ih p
  | writeText _ p content ih => exact writeText_sound ih p content
  | copyFile _ source target ih => exact copyFile_sound ih source target
  | copyDir _ source target ih => exact copyDir_sound ih source target

end ContainerBuild.Disk
