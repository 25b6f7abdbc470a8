import ContainerBuild.Text.LowerCase

/-! # The journal

Events that a run reports while it works, each with a level, the part of the program that reports
it, a message and named values; and the text that child processes and notices add in between. A
threshold leaves out the events below a level.
-/

namespace ContainerBuild

/-- How important an event is. -/
inductive Level where
  /-- Every step. -/
  | trace
  /-- Steps that help to find a fault. -/
  | debug
  /-- What is done. -/
  | info
  /-- What is amiss. -/
  | warn
  /-- What failed. -/
  | error
  deriving DecidableEq, Repr, Inhabited

namespace Level

/-- The name of the level in capitals. -/
def label : Level → String
  | trace => "TRACE"
  | debug => "DEBUG"
  | info => "INFO"
  | warn => "WARN"
  | error => "ERROR"

/-- The place of the level, from the least important. -/
def rank : Level → Nat
  | trace => 0
  | debug => 1
  | info => 2
  | warn => 3
  | error => 4

/-- The level with a name in letters of any case. -/
def named? (name : String) : Option Level :=
  match Text.toLower name with
  | "trace" => some trace
  | "debug" => some debug
  | "info" => some info
  | "warn" => some warn
  | "error" => some error
  | _ => none

/-- The level with a name, and the level of ordinary events if no level has it. -/
def ofName (name : String) : Level := (named? name).getD info

/-- What is reported about a name that no level has. -/
def unknownNotice (name : String) : String :=
  "Invalid log level '" ++ name
    ++ "', defaulting to INFO. Valid levels: trace, debug, info, warn, error\n"

end Level

/-- Something that a run reports. -/
structure Event where
  /-- How important it is. -/
  level : Level
  /-- The part of the program that reports it. -/
  target : String
  /-- What happened. -/
  message : String
  /-- Named values, in the order in which they are shown. -/
  fields : List (String × String) := []
  deriving DecidableEq, Repr, Inhabited

/-- An entry of a journal. -/
inductive JournalEntry where
  /-- An event. -/
  | event (event : Event)
  /-- Text that something else wrote to the same stream. -/
  | text (s : String)
  deriving DecidableEq, Repr, Inhabited

/-- What was reported, the first entry first. -/
abbrev Journal := List JournalEntry

end ContainerBuild
