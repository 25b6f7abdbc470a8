import ContainerBuild.Path
import ContainerBuild.Recipe.Procedure
import ContainerBuild.Report

/-! # The grammar of the command line

The options of the program and of each of its commands, and the values they take.
-/

namespace ContainerBuild.Arguments

/-- Why a command line is not accepted, or answered with a text instead of being carried out. -/
inductive Refusal where
  /-- An option or the name of the image is missing. -/
  | missingRequiredArgument
  /-- An argument is no option of the command, or one too many. -/
  | unknownArgument
  /-- No command has the name. -/
  | invalidSubcommand
  /-- No command is named. -/
  | missingSubcommand
  /-- An option lacks its value, or cannot take it. -/
  | invalidValue
  /-- An installer is not known. -/
  | unknownInstaller (name : String)
  /-- An option is given twice, or together with one that it excludes. -/
  | argumentConflict
  /-- A value is given to an option that takes none. -/
  | tooManyValues
  /-- A value is no text. -/
  | invalidUtf8
  /-- Help is asked for. -/
  | displayHelp
  /-- The version is asked for. -/
  | displayVersion
  /-- Nothing is asked for. -/
  | displayHelpOnMissingArgumentOrSubcommand
  deriving DecidableEq, Repr, Inhabited

namespace Refusal

/-- The name of the kind of refusal. -/
def kind : Refusal → String
  | missingRequiredArgument => "MissingRequiredArgument"
  | unknownArgument => "UnknownArgument"
  | invalidSubcommand => "InvalidSubcommand"
  | missingSubcommand => "MissingSubcommand"
  | invalidValue => "InvalidValue"
  | unknownInstaller _ => "ValueValidation"
  | argumentConflict => "ArgumentConflict"
  | tooManyValues => "TooManyValues"
  | invalidUtf8 => "InvalidUtf8"
  | displayHelp => "DisplayHelp"
  | displayVersion => "DisplayVersion"
  | displayHelpOnMissingArgumentOrSubcommand => "DisplayHelpOnMissingArgumentOrSubcommand"

/-- What is wrong with a value, where the option itself says so. -/
def message? : Refusal → Option String
  | unknownInstaller name => some ("Unknown installer: " ++ name ++ ". Valid options: node")
  | _ => none

/-- The exit code: answers to a question succeed. -/
def exitCode : Refusal → Int
  | displayHelp | displayVersion => 0
  | _ => 2

end Refusal

/-- What an argument is about. -/
inductive Key where
  /-- The question for help. -/
  | help
  /-- The question for the version. -/
  | version
  /-- The level of the log. -/
  | logLevel
  /-- Whether faults are looked for. -/
  | verbose
  /-- Whether only errors are logged. -/
  | quiet
  /-- The name of the image. -/
  | name
  /-- The platform of the image. -/
  | os
  /-- The image to build on. -/
  | source
  /-- An installer to run. -/
  | installer
  /-- The image that installers run on. -/
  | installersImage
  /-- The directory of the staging directories. -/
  | contextsRoot
  /-- The format of the output. -/
  | format
  /-- The program that builds. -/
  | buildTool
  deriving DecidableEq, Repr, Inhabited

namespace Key

/-- The option's long name. The name of the image is no option. -/
def long? : Key → Option String
  | help => some "help"
  | version => some "version"
  | logLevel => some "log-level"
  | verbose => some "verbose"
  | quiet => some "quiet"
  | name => none
  | os => some "os"
  | source => some "from"
  | installer => some "installer"
  | installersImage => some "installers-image"
  | contextsRoot => some "contexts-root"
  | format => some "format"
  | buildTool => some "build-tool"

/-- The option's letter. -/
def short? : Key → Option Char
  | help => some 'h'
  | version => some 'V'
  | verbose => some 'v'
  | quiet => some 'q'
  | installer => some 'i'
  | format => some 'f'
  | _ => none

/-- Whether the option takes a value. -/
def takesValue : Key → Bool
  | help | version | verbose | quiet => false
  | _ => true

/-- Whether the option may be given more than once. -/
def isRepeatable : Key → Bool
  | installer => true
  | _ => false

end Key

/-- The value of an argument. -/
inductive Value where
  /-- That a flag is given. -/
  | given
  /-- A text. -/
  | text (s : String)
  /-- A path. -/
  | path (p : Path)
  /-- An installer. -/
  | installer (i : Installer)
  /-- A format. -/
  | format (f : Format)
  deriving DecidableEq, Repr, Inhabited

/-- Reads the value of an argument. -/
def Key.value (key : Key) (bytes : Bytes) : Except Refusal Value :=
  match key with
  | .contextsRoot => if bytes.isEmpty then .error .invalidValue else .ok (.path ⟨bytes⟩)
  | .format =>
    match (Utf8.decode? bytes).bind Format.named? with
    | some f => .ok (.format f)
    | none => .error .invalidValue
  | .installer =>
    match Utf8.decode? bytes with
    | none => .error .invalidUtf8
    | some word =>
      match Installer.named? word with
      | some i => .ok (.installer i)
      | none => .error (.unknownInstaller word)
  | _ =>
    match Utf8.decode? bytes with
    | some s => .ok (.text s)
    | none => .error .invalidUtf8

/-- The commands. -/
inductive Verb where
  /-- Shows the manifest. -/
  | render
  /-- Builds the image. -/
  | build
  /-- Shows the settings. -/
  | config
  deriving DecidableEq, Repr, Inhabited

namespace Verb

/-- The name of the command. -/
def name : Verb → String
  | render => "render"
  | build => "build"
  | config => "config"

/-- All commands. -/
def all : List Verb := [render, build, config]

/-- The command with a name. -/
def named? (name : String) : Option Verb := all.find? fun v => v.name == name

end Verb

/-- The options that every level takes. -/
def globalKeys : List Key := [.help, .logLevel, .verbose, .quiet]

/-- The options that describe an image. -/
def imageKeys : List Key := [.os, .source, .installer, .installersImage, .contextsRoot]

/-- Where an argument stands: before the command, or behind it. -/
inductive Scope where
  /-- Before the command. -/
  | program
  /-- Behind the command. -/
  | verb (v : Verb)
  deriving DecidableEq, Repr, Inhabited

namespace Scope

/-- The options that can be given. -/
def keys : Scope → List Key
  | program => .version :: globalKeys
  | verb .render => .format :: imageKeys ++ globalKeys
  | verb .build => .buildTool :: imageKeys ++ globalKeys
  | verb .config => .format :: globalKeys

/-- The argument without a name, if there is one. -/
def positional? : Scope → Option Key
  | verb .render | verb .build => some .name
  | _ => none

/-- The arguments that must be given. -/
def required : Scope → List Key
  | verb .render | verb .build => [.name, .source]
  | _ => []

/-- The option with a long name. -/
def long? (s : Scope) (name : String) : Option Key := s.keys.find? fun k => k.long? == some name

/-- The option with a letter. -/
def short? (s : Scope) (letter : Char) : Option Key := s.keys.find? fun k => k.short? == some letter

end Scope

end ContainerBuild.Arguments
