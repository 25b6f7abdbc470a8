import ContainerBuild.Text.Utf8

/-! # Environments

The variables that a process is started with. A value is a sequence of bytes; a variable whose value
is no text counts as unset where a text is asked for.
-/

namespace ContainerBuild

/-- The variables of a process, by name. -/
structure Environment where
  /-- Names and values. -/
  bindings : List (String × Bytes) := []
  deriving DecidableEq, Repr, Inhabited

namespace Environment

/-- The bytes of a variable, if it is set. -/
def bytes? (e : Environment) (name : String) : Option Bytes := e.bindings.lookup name

/-- The text of a variable, if it is set to bytes that are text. -/
def text? (e : Environment) (name : String) : Option String := (e.bytes? name).bind Utf8.decode?

/-- The truth value of a variable, if it is set to one. -/
def bool? (e : Environment) (name : String) : Option Bool :=
  match e.text? name with
  | some "true" => some true
  | some "false" => some false
  | _ => none

end Environment

end ContainerBuild
