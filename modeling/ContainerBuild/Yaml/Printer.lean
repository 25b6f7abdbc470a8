import ContainerBuild.Document
import ContainerBuild.Yaml.Scalar

/-! # YAML documents

Records and lists in block form. The items of a list stand at the indentation of the record that
holds it.
-/

namespace ContainerBuild.Yaml

/-- The text with a line feed at its end, unless it ends in a line break. -/
def endLine (s : List Char) : List Char :=
  if s.getLast?.any isBreak then s else s ++ ['\n']

/-- Spaces. -/
def spaces (n : Nat) : List Char := List.replicate n ' '

mutual

/-- What follows a name and its colon, up to the end of the last line. `indent` is the indentation
of the record. -/
def afterName (indent : Nat) : Document → List Char
  | .null => endLine " null".toList
  | .bool b => endLine (' ' :: (toString b).toList)
  | .text s => endLine (' ' :: scalar (indent + 2) s)
  | .list [] => endLine " []".toList
  | .list (item :: items) => '\n' :: itemLines indent (item :: items)
  | .record [] => endLine [' ', '\x7b', '\x7d']
  | .record (field :: fields) => '\n' :: fieldLines (indent + 2) (field :: fields)

/-- What follows the dash of an item, up to the end of the last line. The first part of a list or
record stands on the line of the dash. -/
def afterDash (indent : Nat) : Document → List Char
  | .null => endLine " null".toList
  | .bool b => endLine (' ' :: (toString b).toList)
  | .text s => endLine (' ' :: scalar (indent + 2) s)
  | .list [] => endLine " []".toList
  | .list (item :: items) => ' ' :: (itemLines (indent + 2) (item :: items)).drop (indent + 2)
  | .record [] => endLine [' ', '\x7b', '\x7d']
  | .record (field :: fields) =>
    ' ' :: (fieldLines (indent + 2) (field :: fields)).drop (indent + 2)

/-- The lines of the items of a list. -/
def itemLines (indent : Nat) : List Document → List Char
  | [] => []
  | item :: items => spaces indent ++ '-' :: afterDash indent item ++ itemLines indent items

/-- The lines of the fields of a record. -/
def fieldLines (indent : Nat) : List (String × Document) → List Char
  | [] => []
  | (name, value) :: fields =>
    spaces indent ++ name.toList ++ ':' :: afterName indent value ++ fieldLines indent fields

end

/-- The text of a record whose names need no quotes. -/
def print (fields : List (String × Document)) : String := String.ofList (fieldLines 0 fields)

end ContainerBuild.Yaml
