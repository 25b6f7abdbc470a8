import ContainerBuild.Arguments
import ContainerBuild.Draft.Build
import ContainerBuild.Journal.LogSettings
import ContainerBuild.Program
import ContainerBuild.Report

/-! # The application

What the program does for a command line: it shows the manifest of an image, builds the image, or
shows the settings. Options override the environment, which overrides the built-in settings.
-/

namespace ContainerBuild.Application

/-- What the program leaves behind besides files and events. -/
structure Reply where
  /-- The exit code. -/
  code : Int
  /-- What is written to the standard output. -/
  stdout : String := ""
  deriving DecidableEq, Repr, Inhabited

/-- The settings for an image: those of the environment, with the options in place. -/
def settingsFor (e : Environment) (a : ImageArguments) (buildTool : Option String) : Settings :=
  let s := Settings.ofEnvironment e
  { s with
    contextsRoot := a.contextsRoot.getD s.contextsRoot
    buildTool := buildTool.getD s.buildTool }

/-- The procedure that selects the image on which installers run. -/
def selectInstallersImage (image : Image) : Procedure :=
  ⟨"installers-image", fun _ => [.installersImage image]⟩

/-- The draft with a selected image for installers, if one is given. -/
def withInstallersImage (a : ImageArguments) (d : Draft) : Except BuildError Draft :=
  match a.installersImage with
  | none => .ok d
  | some name =>
    match Image.imported name a.os with
    | .error fault => .error (.badName fault)
    | .ok image => d.execute (selectInstallersImage image)

/-- The draft of the image that the command line describes. Unlike the calls on a single draft, this
is pure: no events tell how the draft came about. -/
def describe (s : Settings) (a : ImageArguments) : Except BuildError Draft := do
  let d ← Draft.create s a.name a.os
  let d ← d.setSource (.named a.source)
  let d ← withInstallersImage a d
  a.installers.foldlM (fun d i => d.execute i.procedure) d

/-- The part of the program that reports what was done for a command line. -/
def eventTarget : String := "imagescript::cli::handlers"

/-- An event that reports an error and its causes. -/
def failure (what : String) (chain : List String) : Event where
  level := .error
  target := eventTarget
  message := what ++ ": ".intercalate chain

variable {ω : Type} [Workspace ω]

open Workspace

/-- Ends with an error that is reported. -/
def fail (what : String) (chain : List String) (w : ω) : Reply × ω :=
  ({ code := 1 }, record (failure what chain) w)

/-- Ends with a text that is shown on lines of its own. -/
def succeed (text : String) (w : ω) : Reply × ω := ({ code := 0, stdout := text ++ "\n" }, w)

/-- Shows the manifest of the image in a format. -/
def render (e : Environment) (a : ImageArguments) (format : Format) (w : ω) : Reply × ω :=
  let s := settingsFor e a none
  match s.validate with
  | .error fault => fail "" [fault.message] w
  | .ok () =>
    match describe s a >>= Report.ofDraft with
    | .error error => fail "Render failed: " error.chain w
    | .ok report =>
      match report.format format with
      | .error fault => fail "Render failed: " fault.chain w
      | .ok text => succeed text w

/-- Builds the image. -/
def build (e : Environment) (a : ImageArguments) (buildTool : Option String) (w : ω) : Reply × ω :=
  let s := settingsFor e a buildTool
  match s.validate with
  | .error fault => fail "" [fault.message] w
  | .ok () =>
    match describe s a with
    | .error error => fail "Build failed: " error.chain w
    | .ok d =>
      match d.build w with
      | (.error error, _, w) => fail "Build failed: " error.chain w
      | (.ok (), d, w) =>
        let message := "Built image " ++ d.image.name ++ " from " ++ d.manifestPath.display
        ({ code := 0 }, record ⟨.info, eventTarget, message, []⟩ w)

/-- Shows the settings in a format. -/
def config (e : Environment) (format : Format) (w : ω) : Reply × ω :=
  let s := Settings.ofEnvironment e
  match s.validate with
  | .error fault => fail "" [fault.message] w
  | .ok () =>
    match s.format format with
    | .error fault => fail "Failed to format configuration: " fault.chain w
    | .ok text => succeed text w

/-- Does what is asked for. -/
def perform (e : Environment) (task : Task) (w : ω) : Reply × ω :=
  match task with
  | .render a format => render e a format w
  | .build a buildTool => build e a buildTool w
  | .config format => config e format w

/-- The event at the start of the program. -/
def startEvent : Event where
  level := .debug
  target := Program.name
  message := Program.name ++ " v" ++ Program.version ++ " starting"

/-- Does what is asked for, and reports the start. -/
def run (e : Environment) (a : Arguments) (w : ω) : Reply × ω :=
  perform e a.task (record startEvent w)

/-- The name of the level of the log, unless a flag decides it. -/
def levelName? (e : Environment) (a : Arguments) : Option String :=
  match a.logLevel with
  | some name => some name
  | none => if a.isVerbose || a.isQuiet then none else some (LogSettings.levelName e)

/-- The settings of the log. -/
def logSettings (e : Environment) (a : Arguments) : LogSettings :=
  .ofLevel <|
    match levelName? e a with
    | some name => .ofName name
    | none => if a.isVerbose then .debug else .error

/-- What is reported about the settings of the log. -/
def logNotices (e : Environment) (a : Arguments) : Journal :=
  match levelName? e a with
  | some name => LogSettings.notices name
  | none => []

/-- The answer to a command line that is not carried out. Questions are answered on the standard
output. -/
def refuse (r : Arguments.Refusal) : Reply where
  code := r.exitCode
  stdout :=
    match r with
    | .displayVersion => Program.name ++ " " ++ Program.version ++ "\n"
    | .displayHelp => Program.help
    | _ => ""

end ContainerBuild.Application
