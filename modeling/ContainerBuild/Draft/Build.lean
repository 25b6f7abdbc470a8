import ContainerBuild.Draft
import ContainerBuild.Workspace

/-! # Building a draft

A build finalizes the draft, makes the manifest, places the staged entries in the order in which
they were staged, writes the manifest, and runs the build tool once. The first step that fails ends
the build, and what was written before stays.
-/

namespace ContainerBuild.Draft

variable {ω : Type} [Workspace ω]

open Workspace

/-- The part of the program that reports on drafts. -/
def eventTarget : String := "imagescript::image::builder"

/-- An event about a draft. -/
def event (d : Draft) (level : Level) (message : String) (fields : List (String × String)) :
    Event where
  level := level
  target := eventTarget
  message := message
  fields := ("image", d.image.name) :: fields

/-- Creates a draft and reports it. -/
def createIn (settings : Settings) (name os : String) (w : ω) : Except BuildError Draft × ω :=
  match create settings name os with
  | .error error => (.error error, w)
  | .ok d => (.ok d, record (d.event .debug "created image builder"
      [("os", os), ("path", d.recipe.basePath.quoted)]) w)

/-- What is reported when a source image was set on a draft, which became `d'` by that. -/
def sourceEvent (d d' : Draft) : Event :=
  let source := ("source", (d'.source?.map Image.name).getD "")
  match d.source? with
  | some previous =>
    d'.event .debug "replacing source image" [("previous", previous.name), source]
  | none => d'.event .debug "source image set" [source]

/-- Sets the image to build on and reports it. -/
def setSourceIn (d : Draft) (source : ImageSource) (w : ω) : Except BuildError Draft × ω :=
  match d.setSource source with
  | .error error => (.error error, w)
  | .ok d' => (.ok d', record (d.sourceEvent d') w)

/-- Applies a procedure and reports it, with the number of instructions that it added. Procedures
report nothing of their own. -/
def executeIn (d : Draft) (p : Procedure) (w : ω) : Except BuildError Draft × ω :=
  match d.execute p with
  | .error error => (.error error, w)
  | .ok d' => (.ok d', record (d'.event .debug "procedure applied"
      [("procedure", p.name), ("added", toString (d'.recipe.size - d.recipe.size))]) w)

/-- Places one entry at a path of the staging directory. -/
def place (entry : StagedEntry) (path : Path) (w : ω) : Except StoreFault Unit × ω :=
  match entry with
  | .file source _ => copyFile source path w
  | .directory source _ => copyDir source path w
  | .document _ value => writeJson path value w

/-- Places the entries, up to the first that cannot be placed. -/
def stage (d : Draft) : List StagedEntry → ω → Except BuildError Unit × ω
  | [], w => (.ok (), w)
  | entry :: rest, w =>
    match d.recipe.stagingPath? entry.target with
    | none => (.error (.badTarget entry.target), w)
    | some path =>
      let w := record (d.event .debug "staging file" [("target", path.quoted)]) w
      match place entry path w with
      | (.error cause, w) => (.error (.notWritten path cause), w)
      | (.ok (), w) => stage d rest w

/-- Writes the manifest's text. -/
def writeManifest (d : Draft) (content : String) (w : ω) : Except BuildError Unit × ω :=
  let w := record (d.event .info "writing manifest" [("path", d.manifestPath.quoted)]) w
  let w := record ⟨.debug, eventTarget, "synthesized manifest", [("manifest", content)]⟩ w
  match writeText d.manifestPath content w with
  | (.error cause, w) => (.error (.notWritten d.manifestPath cause), w)
  | (.ok (), w) => (.ok (), w)

/-- Runs the build tool. -/
def runTool (d : Draft) (w : ω) : Except BuildError Unit × ω :=
  let w := record (d.event .info "building image" [("command", d.buildCommand.display)]) w
  match run d.buildCommand d.buildOptions w with
  | (.error cause, w) => (.error (.toolFailed cause), w)
  | (.ok _, w) => (.ok (), record (d.event .info "image built" []) w)

/-- Makes the manifest, stages the recipe, writes the manifest and runs the build tool. -/
def materialize (d : Draft) (w : ω) : Except BuildError Unit × ω :=
  match d.preview with
  | .error error => (.error error, w)
  | .ok manifest =>
    match d.stage d.recipe.staged w with
    | (.error error, w) => (.error error, w)
    | (.ok (), w) =>
      match d.writeManifest manifest.render w with
      | (.error error, w) => (.error error, w)
      | (.ok (), w) => d.runTool w

/-- Builds the image. A draft for which a source image has been set is finalized before the first
step that can fail. -/
def build (d : Draft) (w : ω) : Except BuildError Unit × Draft × ω :=
  match d.state with
  | .created => (.error .noSource, d, w)
  | .finalized => (.error (.alreadyBuilt d.image.name), d, w)
  | .sourceSet =>
    -- from here on the draft is finalized, whatever fails
    let d := { d with state := .finalized }
    let (answer, w) := d.materialize w
    (answer, d, w)

end ContainerBuild.Draft
