import ContainerBuild.Recipe

/-! # Manifests

The build file of an image, in one or two stages. Installers run in a stage of their own, which is
there only when there are installers; the main stage has the instructions that build and those that
clean up.
-/

namespace ContainerBuild

/-- One section of a manifest. -/
structure Stage where
  /-- The name of the image that the stage starts from. -/
  source : String
  /-- The name by which later stages can refer to this one. -/
  label : Option String := none
  /-- The instructions. -/
  instructions : List String := []
  deriving DecidableEq, Repr, Inhabited

/-- A build file. -/
structure Manifest where
  /-- The sections, in order. -/
  stages : List Stage
  deriving DecidableEq, Repr, Inhabited

/-- The line that opens the stage. -/
def Stage.header (s : Stage) : String :=
  match s.label with
  | some label => "FROM " ++ s.source ++ " AS " ++ label
  | none => "FROM " ++ s.source

namespace Manifest

/-- The name of the stage in which installers run. -/
def installersLabel : String := "installers"

/-- The manifest of a recipe whose image is built on `source`. -/
def ofRecipe (r : Recipe) (source : Image) : Manifest :=
  let main : Stage := { source := source.name, instructions := r.build ++ r.clean }
  if r.installers.isEmpty then ⟨[main]⟩
  else
    ⟨[⟨(r.installersImage.getD source).name, some installersLabel, r.installers⟩, main]⟩

/-- All lines, in order. -/
def lines (m : Manifest) : List String :=
  m.stages.flatMap fun stage => stage.header :: stage.instructions

/-- The text, without a line feed at its end. -/
def render (m : Manifest) : String := Text.joinLines m.lines

/-- Whether installers run in a stage of their own. -/
def hasInstallersStage (m : Manifest) : Bool :=
  m.stages.any fun stage => stage.label == some installersLabel

end Manifest

end ContainerBuild
