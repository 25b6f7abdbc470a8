import ContainerBuild.Draft.Build

/-!
# Observed workspaces

Which operations a program attempts is not visible in the workspace that it leaves: a write that
fails, or that is never made, leaves the same files. An observed workspace behaves as the one that
it wraps and takes down every operation by which that one can change, successful or not.

* `Request` — an operation that was asked of a workspace.
* `Observed ω` — a workspace `ω` with the requests made so far.
* `Draft.build_observed` — observing a build changes neither its answer, nor the draft, nor the
  workspace.
-/

namespace ContainerBuild

/-- An operation by which a workspace can change. -/
inductive Request where
  /-- Create a directory and those above it. -/
  | createDirAll (path : Path)
  /-- Write a file. -/
  | writeText (path : Path) (content : String)
  /-- Copy a file. -/
  | copyFile (source target : Path)
  /-- Copy what a directory holds. -/
  | copyDir (source target : Path)
  /-- Run a command. -/
  | run (command : Command) (options : RunOptions)
  deriving DecidableEq, Repr

/-- A workspace with what was asked of it. -/
structure Observed (ω : Type) where
  /-- The workspace. -/
  world : ω
  /-- The requests, the first one first. -/
  requests : List Request

namespace Observed

variable {ω α : Type}

/-- A workspace of which nothing was asked. -/
def of (world : ω) : Observed ω := ⟨world, []⟩

/-- Takes down a request and keeps its result. -/
def ask (o : Observed ω) (request : Request) (result : α × ω) : α × Observed ω :=
  (result.1, ⟨result.2, o.requests ++ [request]⟩)

/-- A result without what was taken down. -/
def forget (result : α × Observed ω) : α × ω := (result.1, result.2.world)

@[simp] theorem forget_mk (a : α) (o : Observed ω) : forget (a, o) = (a, o.world) := rfl

instance [Workspace ω] : Workspace (Observed ω) where
  contains p o := Workspace.contains p o.world
  isDirectory p o := Workspace.isDirectory p o.world
  readText p o := Workspace.readText p o.world
  createDirAll p o := o.ask (.createDirAll p) (Workspace.createDirAll p o.world)
  writeText p content o := o.ask (.writeText p content) (Workspace.writeText p content o.world)
  copyFile source target o :=
    o.ask (.copyFile source target) (Workspace.copyFile source target o.world)
  copyDir source target o :=
    o.ask (.copyDir source target) (Workspace.copyDir source target o.world)
  run c options o := o.ask (.run c options) (Workspace.run c options o.world)
  record e o := { o with world := Workspace.record e o.world }

variable [Workspace ω]

@[simp] theorem writeText_eq (p : Path) (content : String) (o : Observed ω) :
    Workspace.writeText p content o =
      o.ask (.writeText p content) (Workspace.writeText p content o.world) := rfl

@[simp] theorem run_eq (c : Command) (options : RunOptions) (o : Observed ω) :
    Workspace.run c options o = o.ask (.run c options) (Workspace.run c options o.world) := rfl

@[simp] theorem record_eq (e : Event) (o : Observed ω) :
    Workspace.record e o = ⟨Workspace.record e o.world, o.requests⟩ := rfl

end Observed

/-- The request by which an entry is placed at a path. -/
def StagedEntry.request (path : Path) : StagedEntry → Request
  | file source _ => .copyFile source path
  | directory source _ => .copyDir source path
  | document _ value => .writeText path value.pretty

namespace Draft

open Observed

variable {ω : Type} [Workspace ω]

/-- Placing an entry is one request. -/
theorem place_observed (entry : StagedEntry) (path : Path) (o : Observed ω) :
    place entry path o = o.ask (entry.request path) (place entry path o.world) := by
  cases entry <;> rfl

/-- Observing the staging of entries changes nothing else. -/
theorem stage_observed (d : Draft) (entries : List StagedEntry) (o : Observed ω) :
    forget (d.stage entries o) = d.stage entries o.world := by
  induction entries generalizing o with
  | nil => rfl
  | cons entry rest ih =>
    simp only [stage, place_observed, record_eq, ask]
    cases d.recipe.stagingPath? entry.target with
    | none => rfl
    | some path =>
      dsimp only
      -- the placing is the same on both sides, so both go on or stop alike
      generalize place entry path (Workspace.record _ o.world) = placed
      obtain ⟨_ | ⟨⟩, w⟩ := placed
      · rfl
      · exact ih _

/-- Observing the writing of the manifest changes nothing else. -/
theorem writeManifest_observed (d : Draft) (content : String) (o : Observed ω) :
    forget (d.writeManifest content o) = d.writeManifest content o.world := by
  simp only [writeManifest, record_eq, writeText_eq, ask]
  generalize Workspace.writeText d.manifestPath content (_ : ω) = written
  obtain ⟨_ | ⟨⟩, w⟩ := written <;> rfl

/-- Observing the run of the build tool changes nothing else. -/
theorem runTool_observed (d : Draft) (o : Observed ω) :
    forget (d.runTool o) = d.runTool o.world := by
  simp only [runTool, record_eq, run_eq, ask]
  generalize Workspace.run d.buildCommand d.buildOptions (_ : ω) = ran
  obtain ⟨_ | _, w⟩ := ran <;> rfl

/-- Observing the steps of a build changes nothing else. -/
theorem materialize_observed (d : Draft) (o : Observed ω) :
    forget (d.materialize o) = d.materialize o.world := by
  simp only [materialize]
  cases d.preview with
  | error error => rfl
  | ok manifest =>
    simp only [← stage_observed]
    obtain ⟨_ | ⟨⟩, o₁⟩ := d.stage d.recipe.staged o
    · rfl
    · simp only [forget_mk, ← writeManifest_observed]
      obtain ⟨_ | ⟨⟩, o₂⟩ := d.writeManifest manifest.render o₁
      · rfl
      · exact runTool_observed d o₂

/-- Observing a build changes neither its answer, nor the draft, nor the workspace. -/
theorem build_observed (d : Draft) (o : Observed ω) :
    ((d.build o).1, (d.build o).2.1, (d.build o).2.2.world) = d.build o.world := by
  cases hstate : d.state with
  | created => simp [build, hstate]
  | finalized => simp [build, hstate]
  | sourceSet =>
    simp only [build, hstate, ← materialize_observed]
    rfl

/-- What a build of the draft asks of a workspace. -/
def buildRequests (d : Draft) (w : ω) : List Request := (d.build (Observed.of w)).2.2.requests

end Draft

end ContainerBuild
