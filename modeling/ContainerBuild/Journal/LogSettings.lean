import ContainerBuild.Environment
import ContainerBuild.Journal

/-! # Settings of the log

Which events are logged, and what is written of each.
-/

namespace ContainerBuild

/-- Which events are logged, and what is written of each. -/
structure LogSettings where
  /-- The least level. -/
  level : Level := .info
  /-- Whether each event is a JSON object. -/
  usesJson : Bool := false
  /-- Whether the part of the program is written. -/
  includesTarget : Bool := true
  /-- Whether the file and the line are written. -/
  includesLocation : Bool := false
  /-- Whether the number and the name of the thread are written. -/
  includesThread : Bool := false
  deriving DecidableEq, Repr, Inhabited

namespace LogSettings

/-- Settings with another level. -/
def ofLevel (level : Level) : LogSettings := { level }

/-- Settings for machines: JSON objects with all that is known. -/
def production : LogSettings :=
  { usesJson := true, includesLocation := true, includesThread := true }

/-- Settings for finding faults. -/
def development : LogSettings := ofLevel .debug

/-- The name of the level that the environment asks for. -/
def levelName (e : Environment) : String := (e.text? "IMAGESCRIPT_LOG_LEVEL").getD "info"

/-- The settings of an environment. -/
def ofEnvironment (e : Environment) : LogSettings where
  level := .ofName (levelName e)
  usesJson := (e.bool? "IMAGESCRIPT_LOG_JSON").getD false

/-- What is reported when the level with a name is asked for: nothing, unless no level has it. -/
def notices (name : String) : Journal :=
  if (Level.named? name).isSome then [] else [.text (Level.unknownNotice name)]

/-- The names of what is written of an event besides its level, target and values, sorted. -/
def extras (s : LogSettings) : List String :=
  (if s.includesLocation then ["filename", "line_number"] else [])
    ++ (if s.includesThread then ["threadId", "threadName"] else []) ++ ["timestamp"]

/-- The least level that is logged, if any is. The filter variable of the environment overrides
the settings; an empty filter leaves errors, and one that names no level leaves nothing. -/
def threshold (s : LogSettings) (e : Environment) : Option Level :=
  match e.text? "RUST_LOG" with
  | none => some s.level
  | some "" => some .error
  | some filter => Level.named? filter

end LogSettings

/-- Whether an event is logged. -/
def Event.isLogged (threshold : Option Level) (e : Event) : Bool :=
  threshold.any fun level => level.rank ≤ e.level.rank

/-- The entries without the events that are not logged. -/
def Journal.logged (threshold : Option Level) (journal : Journal) : Journal :=
  journal.filter fun
    | .event e => e.isLogged threshold
    | .text _ => true

/-- A character of a logged text: what would steer a terminal is escaped. -/
def logChar (c : Char) : List Char :=
  let hex (n : Nat) : Char := Char.ofNat (if n < 10 then 48 + n else 87 + n)
  if c == '\x1b' || c == '\x07' || c == '\x08' || c == '\x0c' || c == '\x7f' then
    ['\\', 'x', hex (c.toNat / 16), hex (c.toNat % 16)]
  else if 0x80 ≤ c.toNat && c.toNat ≤ 0x9F then
    ['\\', 'u', '\x7b', hex (c.toNat / 16), hex (c.toNat % 16), '\x7d']
  else [c]

/-- The event on a line, up to line breaks in its values, without the time. -/
def Event.line (e : Event) : String :=
  let message := String.ofList (e.message.toList.flatMap logChar)
  let fields := e.fields.map fun field => " " ++ field.1 ++ "=" ++ field.2
  e.level.label ++ " " ++ e.target ++ ": " ++ message ++ String.join fields

end ContainerBuild
