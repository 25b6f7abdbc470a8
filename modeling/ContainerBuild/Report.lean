import ContainerBuild.Draft
import ContainerBuild.Json.Printer
import ContainerBuild.Yaml.Printer

/-! # Reports

All that is known about an image before it is built, and the settings, in the formats in which they
are shown.
-/

namespace ContainerBuild

/-- The formats of reports. -/
inductive Format where
  /-- JSON over several lines. -/
  | json
  /-- YAML. -/
  | yaml
  /-- Labelled lines. -/
  | human
  /-- The manifest alone. -/
  | dockerfile
  deriving DecidableEq, Repr, Inhabited

namespace Format

/-- The name of the format. -/
def name : Format → String
  | json => "json"
  | yaml => "yaml"
  | human => "human"
  | dockerfile => "dockerfile"

/-- All formats. -/
def all : List Format := [json, yaml, human, dockerfile]

/-- The format with a name. -/
def named? (name : String) : Option Format := all.find? fun f => f.name == name

end Format

/-- What a report that could not be written was about. -/
inductive Subject where
  /-- An image. -/
  | image
  /-- The settings. -/
  | settings
  deriving DecidableEq, Repr, Inhabited

/-- A report has a path that is no text, which the format cannot hold. -/
structure ReportFault where
  /-- What the report was about. -/
  subject : Subject
  /-- The name of the format. -/
  format : String
  deriving DecidableEq, Repr, Inhabited

/-- What went wrong, and what caused it. -/
def ReportFault.chain (f : ReportFault) : List String :=
  let subject := match f.subject with
    | .image => "report"
    | .settings => "config"
  ["Failed to serialize " ++ subject ++ " to " ++ f.format,
    "path contains invalid UTF-8 characters"]

/-- The fields in a format that holds only text. -/
def serialize (subject : Subject) (fields? : Option (List (String × Document))) (format : String)
    (write : List (String × Document) → String) : Except ReportFault String :=
  match fields? with
  | some fields => .ok (write fields)
  | none => .error ⟨subject, format⟩

/-- The fields as a JSON text. -/
def jsonText (fields : List (String × Document)) : String := (Document.record fields).toJson.pretty

/-- The image as a document. -/
def Image.document (image : Image) : Document :=
  let kind := match image.origin with
    | .imported => "imported"
    | .built => "built"
  .record [("kind", .text kind), ("name", .text image.name), ("os", .text image.os)]

/-- The manifest as a document. -/
def Manifest.document (m : Manifest) : Document :=
  .record [("stages", .list (m.stages.map fun stage => .record [
    ("source", .text stage.source), ("alias", .ofText? stage.label),
    ("instructions", .ofTexts stage.instructions)]))]

/-- All that is known about an image before it is built. -/
structure Report where
  /-- The image. -/
  image : Image
  /-- The image that it is built on. -/
  source : Image
  /-- Where the manifest is written. -/
  manifestPath : Path
  /-- The command that builds the image. -/
  buildCommand : String
  /-- The manifest. -/
  manifest : Manifest
  /-- The text of the manifest. -/
  content : String

namespace Report

/-- The report on a draft that has a source image. -/
def ofDraft (d : Draft) : Except BuildError Report :=
  match d.source? with
  | none => .error .noSource
  | some source =>
    let manifest := Manifest.ofRecipe d.recipe source
    .ok ⟨d.image, source, d.manifestPath, d.buildCommand.display, manifest, manifest.render⟩

/-- The report as a document, if the manifest's path is text. -/
def fields? (r : Report) : Option (List (String × Document)) :=
  r.manifestPath.text?.map fun path => [
    ("image", r.image.document), ("source", r.source.document), ("manifest_path", .text path),
    ("build_command", .text r.buildCommand), ("manifest", r.manifest.document),
    ("content", .text r.content)]

/-- The report on labelled lines, with the manifest indented below. -/
def human (r : Report) : String :=
  "Image: " ++ r.image.name ++ " (" ++ r.image.os ++ ")\n"
    ++ "From: " ++ r.source.name ++ "\n"
    ++ "Stages: " ++ toString r.manifest.stages.length ++ "\n"
    ++ "Manifest: " ++ r.manifestPath.display ++ "\n"
    ++ "Command: " ++ r.buildCommand ++ "\n\n"
    ++ String.join ((Text.lines r.content).map fun line => "  " ++ line ++ "\n")

/-- The report in a format. -/
def format (r : Report) : Format → Except ReportFault String
  | .json => serialize .image r.fields? "JSON" jsonText
  | .yaml => serialize .image r.fields? "YAML" Yaml.print
  | .human => .ok r.human
  | .dockerfile => .ok r.content

end Report

/-- The settings in a format. They have no manifest, so that format shows labelled lines. -/
def Settings.format (s : Settings) : Format → Except ReportFault String
  | .json => serialize .settings s.fields? "JSON" jsonText
  | .yaml => serialize .settings s.fields? "YAML" Yaml.print
  | .human | .dockerfile => .ok s.display

end ContainerBuild
