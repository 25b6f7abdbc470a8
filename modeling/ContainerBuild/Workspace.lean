import ContainerBuild.Journal
import ContainerBuild.Json.Printer
import ContainerBuild.Run.Outcome
import ContainerBuild.Store.Fault

/-! # Workspaces

Where images are built: something that stores files, runs commands and takes down events. Every
operation answers and leaves the workspace in a new state, also when it fails.
-/

namespace ContainerBuild

/-- Something that stores files, runs commands and takes down events. -/
class Workspace (ω : Type) where
  /-- Whether something is stored at the path. -/
  contains : Path → ω → Bool
  /-- Whether a directory is stored at the path. -/
  isDirectory : Path → ω → Bool
  /-- The content of a file. -/
  readText : Path → ω → Except StoreFault String
  /-- Creates a directory and those above it. -/
  createDirAll : Path → ω → Except StoreFault Unit × ω
  /-- Writes a file, and creates the directories above it. -/
  writeText : Path → String → ω → Except StoreFault Unit × ω
  /-- Copies a file, and creates the directories above the copy. -/
  copyFile : Path → Path → ω → Except StoreFault Unit × ω
  /-- Copies what a directory holds into another one. -/
  copyDir : Path → Path → ω → Except StoreFault Unit × ω
  /-- Runs a command. -/
  run : Command → RunOptions → ω → Except RunError Output × ω
  /-- Takes down an event. -/
  record : Event → ω → ω

namespace Workspace

/-- Writes a JSON document over several lines. -/
def writeJson {ω : Type} [Workspace ω] (p : Path) (value : Json) (w : ω) :
    Except StoreFault Unit × ω :=
  writeText p value.pretty w

end Workspace

/-- The part of the program that reports on runs. -/
def runTarget : String := "imagescript::process::system"

/-- What is reported about a run that failed while failures do not count. -/
def Finished.ignoredEvent? (f : Finished) (o : RunOptions) : Option Event :=
  match f.error? with
  | none => none
  | some error =>
    if o.ignoresFailure then some ⟨.warn, runTarget, "[ignored] " ++ error.message, []⟩ else none

end ContainerBuild
