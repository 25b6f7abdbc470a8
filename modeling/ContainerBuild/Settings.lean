import ContainerBuild.Document
import ContainerBuild.Environment
import ContainerBuild.Path
import ContainerBuild.Text.LowerCase

/-! # Settings

Where images are staged, what the manifest is called, which tool builds, and how much is logged. The
environment overrides the built-in settings, variable by variable.
-/

namespace ContainerBuild

/-- The settings of a program run. -/
structure Settings where
  /-- The directory that holds the staging directories. -/
  contextsRoot : Path := .ofString ".dockercontexts"
  /-- The file name of the manifest. -/
  manifestName : String := "Dockerfile"
  /-- The program that builds an image. -/
  buildTool : String := "docker"
  /-- Whether the output of the build tool is captured. -/
  capturesOutput : Bool := false
  /-- The least level of the events that are logged. -/
  logLevel : String := "info"
  deriving DecidableEq, Repr, Inhabited

/-- What is wrong with settings. -/
inductive SettingsFault where
  /-- The contexts root is empty. -/
  | emptyContextsRoot
  /-- The manifest's name is blank. -/
  | blankManifestName
  /-- The manifest's name has a slash or a backslash. -/
  | manifestPath (name : String)
  /-- The build tool is blank. -/
  | blankBuildTool
  /-- The level is not the name of one. -/
  | unknownLevel (level : String)
  deriving DecidableEq, Repr, Inhabited

/-- The fault in words. -/
def SettingsFault.message : SettingsFault → String
  | emptyContextsRoot => "Configuration validation failed: Contexts root must not be empty"
  | blankManifestName => "Configuration validation failed: Manifest name must not be empty"
  | manifestPath name =>
    "Configuration validation failed: Manifest name must be a plain file name: " ++ name
  | blankBuildTool => "Configuration validation failed: Build tool must not be empty"
  | unknownLevel level => "Configuration validation failed: Invalid log level: " ++ level
      ++ ". Valid options: trace, debug, info, warn, error"

namespace Settings

/-- The built-in settings. -/
def builtin : Settings := {}

/-- The settings of an environment. -/
def ofEnvironment (e : Environment) : Settings where
  contextsRoot :=
    ((e.text? "IMAGESCRIPT_CONTEXTS_ROOT").map Path.ofString).getD builtin.contextsRoot
  manifestName := (e.text? "IMAGESCRIPT_MANIFEST_NAME").getD builtin.manifestName
  buildTool := (e.text? "IMAGESCRIPT_BUILD_TOOL").getD builtin.buildTool
  capturesOutput := (e.bool? "IMAGESCRIPT_CAPTURE_OUTPUT").getD builtin.capturesOutput
  logLevel := Text.toLower ((e.text? "IMAGESCRIPT_LOG_LEVEL").getD builtin.logLevel)

/-- The names of levels. -/
def levelNames : List String := ["trace", "debug", "info", "warn", "error"]

/-- Accepts settings that can be used; the first fault in the order of the fields counts. -/
def validate (s : Settings) : Except SettingsFault Unit :=
  if s.contextsRoot.bytes.isEmpty then .error .emptyContextsRoot
  else if Text.isAllBlank s.manifestName then .error .blankManifestName
  else if s.manifestName.toList.any (fun c => c == '/' || c == '\\') then
    .error (.manifestPath s.manifestName)
  else if Text.isAllBlank s.buildTool then .error .blankBuildTool
  else if !levelNames.contains s.logLevel then
    .error (.unknownLevel s.logLevel)
  else .ok ()

/-- The settings on lines of their own, under a heading. -/
def display (s : Settings) : String :=
  "ImageScript Configuration:\n"
    ++ "  Contexts Root: " ++ s.contextsRoot.display ++ "\n"
    ++ "  Manifest Name: " ++ s.manifestName ++ "\n"
    ++ "  Build Tool: " ++ s.buildTool ++ "\n"
    ++ "  Capture Output: " ++ toString s.capturesOutput ++ "\n"
    ++ "  Log Level: " ++ s.logLevel ++ "\n"

/-- The settings as a document, if the contexts root is text. -/
def fields? (s : Settings) : Option (List (String × Document)) :=
  s.contextsRoot.text?.map fun root => [
    ("contexts_root", .text root), ("manifest_name", .text s.manifestName),
    ("build_tool", .text s.buildTool), ("capture_output", .bool s.capturesOutput),
    ("log_level", .text s.logLevel)]

end Settings

end ContainerBuild
