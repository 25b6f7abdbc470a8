import ContainerBuild.Json.Basic

/-! # Documents

The data of a report, before a format is chosen for it. Fields keep their order in every format.
-/

namespace ContainerBuild

/-- The data of a report. -/
inductive Document where
  /-- Nothing. -/
  | null
  /-- A truth value. -/
  | bool (b : Bool)
  /-- A text. -/
  | text (s : String)
  /-- A sequence. -/
  | list (items : List Document)
  /-- Named parts, in the order in which they are shown. -/
  | record (fields : List (String × Document))
  deriving Inhabited

namespace Document

/-- The text if there is one, and nothing otherwise. -/
def ofText? : Option String → Document
  | some s => text s
  | none => null

/-- Texts as a sequence. -/
def ofTexts (texts : List String) : Document := list (texts.map text)

mutual

/-- The document as a JSON value. -/
def toJson : Document → Json
  | null => .null
  | bool b => .bool b
  | text s => .text s
  | list items => .list (itemsToJson items)
  | record fields => .record (fieldsToJson fields)

/-- The items as JSON values. -/
def itemsToJson : List Document → List Json
  | [] => []
  | item :: items => item.toJson :: itemsToJson items

/-- The fields as JSON values. -/
def fieldsToJson : List (String × Document) → List (String × Json)
  | [] => []
  | (name, value) :: fields => (name, value.toJson) :: fieldsToJson fields

end

end Document

end ContainerBuild
