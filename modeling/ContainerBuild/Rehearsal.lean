import ContainerBuild.Run.Script
import ContainerBuild.Store.Memory
import ContainerBuild.Workspace

/-! # Rehearsals

A workspace that touches nothing: files are stored in memory and runs follow a script.
-/

namespace ContainerBuild

/-- A file store in memory, a script of runs, and a journal. -/
structure Rehearsal where
  /-- The files. -/
  memory : Memory := {}
  /-- The runs. -/
  script : Script := {}
  /-- The events. -/
  journal : Journal := []
  deriving Inhabited

namespace Rehearsal

/-- Takes down an event. -/
def note (r : Rehearsal) (e : Event) : Rehearsal := { r with journal := r.journal ++ [.event e] }

/-- Puts the store that an operation left in place of the old one. -/
def withMemory {α : Type} (r : Rehearsal) (result : α × Memory) : α × Rehearsal :=
  (result.1, { r with memory := result.2 })

/-- Runs a command by the script. -/
def run (c : Command) (o : RunOptions) (r : Rehearsal) : Except RunError Output × Rehearsal :=
  let events := ((r.script.next.finish c).ignoredEvent? o).toList
  ((r.script.run c o).1,
    { r with
      script := (r.script.run c o).2
      journal := r.journal ++ events.map .event })

instance : Workspace Rehearsal where
  contains p r := r.memory.contains p
  isDirectory p r := r.memory.isDirectory p
  readText p r := r.memory.readText p
  createDirAll p r := r.withMemory (r.memory.createDirAll p)
  writeText p content r := r.withMemory (r.memory.writeText p content)
  copyFile source target r := r.withMemory (r.memory.copyFile source target)
  copyDir source target r := r.withMemory (r.memory.copyDir source target)
  run := run
  record e r := r.note e

end Rehearsal

end ContainerBuild
