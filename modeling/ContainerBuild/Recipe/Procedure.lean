import ContainerBuild.Recipe
import ContainerBuild.Text.LowerCase

/-! # Procedures

A procedure adds steps to a recipe, and may look at the recipe to choose them. It is a contract that
it does nothing else: no line is taken back or moved once it was added. A procedure has no state, so
it can be applied to any number of recipes. Package installers are procedures that come with the
library.
-/

namespace ContainerBuild

/-- A named way to add steps to a recipe. That it does nothing else to the recipe is a contract, and
the type keeps it. -/
structure Procedure where
  /-- A short label. -/
  name : String
  /-- The steps that the procedure adds to a recipe. -/
  steps : Recipe → List Step

/-- The recipe with the steps of the procedure taken. -/
def Recipe.apply (r : Recipe) (p : Procedure) : Recipe := r.takeAll (p.steps r)

/-- A package that a script in the image installs. -/
structure Installer where
  /-- The program that runs the script. -/
  interpreter : String
  /-- The package. -/
  package : String
  deriving DecidableEq, Repr, Inhabited

namespace Installer

/-- The directory of the scripts inside an image. -/
def scriptsRoot : String := "C:/dockloader"

/-- The instruction that runs the script. -/
def instruction (i : Installer) : String :=
  "RUN " ++ i.interpreter ++ " " ++ scriptsRoot ++ "/" ++ i.package ++ "/install.js"

/-- The installer of Node. -/
def node : Installer := ⟨"node", "nodejs"⟩

/-- The installer with a short name, in letters of any case. -/
def named? (name : String) : Option Installer :=
  let key := Text.toLower name
  if key = "node" ∨ key = "nodejs" then some node else none

/-- The procedure that adds the installer's instruction to those that build. -/
def procedure (i : Installer) : Procedure := ⟨i.package, fun _ => [.build i.instruction]⟩

end Installer

end ContainerBuild
