import ContainerBuild.Image
import ContainerBuild.Json.Basic
import ContainerBuild.Path

/-! # Recipes

What goes into an image: three queues of instructions, the files to place beside the manifest, and
the directory that both are written to. Instructions and files are only ever added, so each keeps
the place in which it came.
-/

namespace ContainerBuild

/-- Something to place in the staging directory before the build tool runs. -/
inductive StagedEntry where
  /-- A copy of a file. -/
  | file (source target : Path)
  /-- A copy of what a directory holds. -/
  | directory (source target : Path)
  /-- A JSON document. -/
  | document (target : Path) (value : Json)

/-- Where the entry is placed, seen from the staging directory. -/
def StagedEntry.target : StagedEntry → Path
  | file _ target => target
  | directory _ target => target
  | document target _ => target

/-- What goes into an image. -/
structure Recipe where
  /-- The name of the image. -/
  name : String
  /-- The platform of the image. -/
  os : String
  /-- The staging directory. -/
  basePath : Path
  /-- The image that the installers run on, if it is not the one that is built on. -/
  installersImage : Option Image := none
  /-- The instructions of the installers stage. -/
  installers : List String := []
  /-- The instructions that build. -/
  build : List String := []
  /-- The instructions that clean up, which follow those that build. -/
  clean : List String := []
  /-- What is placed in the staging directory. -/
  staged : List StagedEntry := []

/-- One addition to a recipe. -/
inductive Step where
  /-- An instruction of the installers stage. -/
  | installer (line : String)
  /-- An instruction that builds. -/
  | build (line : String)
  /-- An instruction that cleans up. -/
  | clean (line : String)
  /-- The image that the installers run on; the last one counts. -/
  | installersImage (image : Image)
  /-- An entry of the staging directory. -/
  | stage (entry : StagedEntry)

namespace Recipe

/-- An empty recipe, staged in the directory of the image's name below the contexts root. -/
def create (name os : String) (contextsRoot : Path) : Recipe :=
  { name, os, basePath := contextsRoot.join (.ofString name) }

/-- The recipe with one step taken. -/
def take (r : Recipe) : Step → Recipe
  | .installer line => { r with installers := r.installers ++ [line] }
  | .build line => { r with build := r.build ++ [line] }
  | .clean line => { r with clean := r.clean ++ [line] }
  | .installersImage image => { r with installersImage := some image }
  | .stage entry => { r with staged := r.staged ++ [entry] }

/-- The recipe with all steps taken, in order. -/
def takeAll (r : Recipe) (steps : List Step) : Recipe := steps.foldl take r

/-- The number of instructions. -/
def size (r : Recipe) : Nat := r.installers.length + r.build.length + r.clean.length

/-- The parts joined to the staging directory. -/
def resolve (r : Recipe) (parts : List Path) : Path := r.basePath.joinAll parts

/-- Whether the target stays inside the staging directory: it has components, and all are normal
segments. -/
def isContained (target : Path) : Bool :=
  !target.components.isEmpty && target.components.all Path.Component.isNormal

/-- The place of a target in the staging directory, if it stays inside. -/
def stagingPath? (r : Recipe) (target : Path) : Option Path :=
  if isContained target then some (r.basePath.join target) else none

end Recipe

end ContainerBuild
