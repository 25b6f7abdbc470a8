import ContainerBuild.Json.Basic
import ContainerBuild.Text.Quoted

/-! # JSON texts

`Json.pretty` writes a value over several lines, indented by two spaces for each level, as staged
documents and reports have it. `Json.compact` writes it on one line without blanks.
-/

namespace ContainerBuild.Json

/-- How a real number is written. -/
structure RealFormat where
  /-- The least exponent of the first digit that is written without an exponent. -/
  leastPositional : Int
  /-- The greatest exponent of the first digit that is written without an exponent. -/
  greatestPositional : Int

/-- Numbers from `0.00001` up to below `10 ^ 16` are written without an exponent. -/
def realFormat : RealFormat := ⟨-5, 15⟩

/-- Zeros. -/
def zeros (n : Nat) : List Char := List.replicate n '0'

/-- The decimal with an exponent: one digit, the point and the other digits if there are any, and
the exponent with its sign. -/
def scientific (digits : List Char) (leading : Int) : List Char :=
  let mantissa :=
    match digits with
    | [] => ['0']
    | [d] => [d]
    | d :: rest => d :: '.' :: rest
  let sign := if leading < 0 then '-' else '+'
  mantissa ++ 'e' :: sign :: Nat.toDigits 10 leading.natAbs

/-- The decimal without an exponent, with at least one digit on both sides of the point. -/
def positional (digits : List Char) (leading : Int) : List Char :=
  if leading < 0 then '0' :: '.' :: zeros (leading.natAbs - 1) ++ digits
  else
    let whole := leading.natAbs + 1
    let fraction := if digits.length ≤ whole then ['0'] else digits.drop whole
    digits.take whole ++ zeros (whole - digits.length) ++ '.' :: fraction

/-- The shortest text that reads back as the number. -/
def realText (x : Binary64) : String :=
  let sign := if x.negative then ['-'] else []
  let d := Decimal.shortest x
  let digits := Nat.toDigits 10 d.digits
  let leading := (digits.length : Int) - 1 + d.exponent
  let body :=
    if realFormat.leastPositional ≤ leading ∧ leading ≤ realFormat.greatestPositional then
      positional digits leading
    else scientific digits leading
  String.ofList (sign ++ body)

/-- The text of a number. -/
def Number.text : Number → String
  | .integer n => toString n
  | .real x => realText x

/-- The written form of one character of a text. -/
def escapeChar (c : Char) : List Char :=
  if c == '\x22' then ['\\', '\x22']
  else if c == '\\' then ['\\', '\\']
  else if c == '\n' then ['\\', 'n']
  else if c == '\r' then ['\\', 'r']
  else if c == '\t' then ['\\', 't']
  else if c == '\x08' then ['\\', 'b']
  else if c == '\x0c' then ['\\', 'f']
  else if c.toNat < 0x20 then ['\\', 'u'] ++ Text.hexadecimal false 4 c.toNat
  else [c]

/-- A text between double quotes. -/
def quote (s : String) : String :=
  String.ofList ('\x22' :: s.toList.flatMap escapeChar ++ ['\x22'])

/-- A line break and the indentation of a level. -/
def newline (level : Nat) : String := String.ofList ('\n' :: List.replicate (2 * level) ' ')

mutual

/-- The value over several lines; `level` is the level of the line on which it starts. -/
def prettyAt (level : Nat) : Json → String
  | null => "null"
  | bool b => if b then "true" else "false"
  | number n => n.text
  | text s => quote s
  | list [] => "[]"
  | list (item :: items) =>
    "[" ++ newline (level + 1) ++ prettyAt (level + 1) item ++ prettyItems (level + 1) items
      ++ newline level ++ "]"
  | record [] => "\x7b\x7d"
  | record ((name, value) :: fields) =>
    "\x7b" ++ newline (level + 1) ++ quote name ++ ": " ++ prettyAt (level + 1) value
      ++ prettyFields (level + 1) fields ++ newline level ++ "\x7d"

/-- The items after the first, each on a line of its own. -/
def prettyItems (level : Nat) : List Json → String
  | [] => ""
  | item :: items => "," ++ newline level ++ prettyAt level item ++ prettyItems level items

/-- The fields after the first, each on a line of its own. -/
def prettyFields (level : Nat) : List (String × Json) → String
  | [] => ""
  | (name, value) :: fields =>
    "," ++ newline level ++ quote name ++ ": " ++ prettyAt level value ++ prettyFields level fields

end

/-- The value over several lines, without a line break at the end. -/
def pretty (value : Json) : String := prettyAt 0 value

mutual

/-- The value on one line. -/
def compact : Json → String
  | null => "null"
  | bool b => if b then "true" else "false"
  | number n => n.text
  | text s => quote s
  | list [] => "[]"
  | list (item :: items) => "[" ++ compact item ++ compactItems items ++ "]"
  | record [] => "\x7b\x7d"
  | record ((name, value) :: fields) =>
    "\x7b" ++ quote name ++ ":" ++ compact value ++ compactFields fields ++ "\x7d"

/-- The items after the first. -/
def compactItems : List Json → String
  | [] => ""
  | item :: items => "," ++ compact item ++ compactItems items

/-- The fields after the first. -/
def compactFields : List (String × Json) → String
  | [] => ""
  | (name, value) :: fields => "," ++ quote name ++ ":" ++ compact value ++ compactFields fields

end

end ContainerBuild.Json
