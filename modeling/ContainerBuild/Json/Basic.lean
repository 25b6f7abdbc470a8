import ContainerBuild.Decimal.Shortest

/-! # JSON values

Values that a build context stages as files. A record keeps its fields in the order in which they
are written; `Json.ofFields` puts them into the order of their names.
-/

namespace ContainerBuild

/-- A number of a JSON value. -/
inductive Json.Number where
  /-- An integer of at most 64 bits, with or without a sign bit. -/
  | integer (n : Int)
  /-- Any other number. -/
  | real (x : Binary64)
  deriving DecidableEq, Repr

/-- A JSON value. -/
inductive Json where
  /-- The value `null`. -/
  | null
  /-- One of the two truth values. -/
  | bool (b : Bool)
  /-- A number. -/
  | number (n : Json.Number)
  /-- A text. -/
  | text (s : String)
  /-- A sequence of values. -/
  | list (items : List Json)
  /-- Named values. -/
  | record (fields : List (String × Json))
  deriving Inhabited

namespace Json

/-- The natural number as a value. -/
def ofNat (n : Nat) : Json := number (.integer n)

/-- Texts as a list. -/
def ofTexts (texts : List String) : Json := list (texts.map text)

/-- Puts a field at its place in a list that is sorted by name. A field of that name is replaced. -/
def insertField (name : String) (value : Json) : List (String × Json) → List (String × Json)
  | [] => [(name, value)]
  | field :: rest =>
    if name < field.1 then (name, value) :: field :: rest
    else if name = field.1 then (name, value) :: rest
    else field :: insertField name value rest

/-- The record of the fields, sorted by name; of two fields with one name the later counts. -/
def ofFields (fields : List (String × Json)) : Json :=
  record (fields.foldl (fun sorted field => insertField field.1 field.2 sorted) [])

/-- The value of a field, if there is one of that name. -/
def field? (name : String) : Json → Option Json
  | record fields => (fields.find? (·.1 == name)).map (·.2)
  | _ => none

/-- The text, if the value is one. -/
def text? : Json → Option String
  | text s => some s
  | _ => none

/-- The truth value, if the value is one. -/
def bool? : Json → Option Bool
  | bool b => some b
  | _ => none

/-- The items, if the value is a list. -/
def items? : Json → Option (List Json)
  | list items => some items
  | _ => none

/-- The fields, if the value is a record. -/
def fields? : Json → Option (List (String × Json))
  | record fields => some fields
  | _ => none

/-- The integer, if the value is one. -/
def integer? : Json → Option Int
  | number (.integer n) => some n
  | _ => none

end Json

end ContainerBuild
