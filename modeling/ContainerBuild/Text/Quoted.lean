import ContainerBuild.Text.Printable
import ContainerBuild.Text.Utf8

/-! # Quoted texts

Error messages show foreign text so that it stays on one line and can be told apart. An image name
stands between single quotes, so it escapes both kinds of quotes, and a mark is escaped only where
no character precedes it. A path stands between double quotes, escapes only those, and escapes
marks everywhere; bytes that are no text appear as hexadecimal escapes.
-/

namespace ContainerBuild.Text

/-- The hexadecimal digit of a number below sixteen. -/
def hexDigit (capital : Bool) (n : Nat) : Char :=
  if n < 10 then Char.ofNat ('0'.toNat + n)
  else Char.ofNat ((if capital then 'A' else 'a').toNat + (n - 10))

/-- The number in hexadecimal, padded with zeros to `width` digits. -/
def hexadecimal (capital : Bool) (width n : Nat) : List Char :=
  let digits := (Nat.toDigits 16 n).map fun c =>
    hexDigit capital (if c.isDigit then c.toNat - '0'.toNat else c.toNat - 'a'.toNat + 10)
  List.replicate (width - digits.length) '0' ++ digits

/-- What an escaped text treats as special besides the characters that are never shown. -/
structure EscapeRule where
  /-- Whether single quotes are escaped. -/
  singleQuotes : Bool
  /-- Whether a mark is escaped after another character too. -/
  laterMarks : Bool

/-- The rule of malformed names: both quotes, marks only at the start. -/
def EscapeRule.name : EscapeRule := ⟨true, false⟩

/-- The rule of paths: double quotes only, marks everywhere. -/
def EscapeRule.path : EscapeRule := ⟨false, true⟩

/-- The character as an escape of its code point. -/
def escapePoint (c : Char) : List Char :=
  ['\\', 'u', '\x7b'] ++ hexadecimal false 1 c.toNat ++ ['\x7d']

/-- The escaped form of one character; `marks` tells whether a mark is escaped here. -/
def escapeChar (rule : EscapeRule) (marks : Bool) (c : Char) : List Char :=
  if c == '\x00' then ['\\', '0']
  else if c == '\t' then ['\\', 't']
  else if c == '\r' then ['\\', 'r']
  else if c == '\n' then ['\\', 'n']
  else if c == '\\' || c == '\x22' then ['\\', c]
  else if c == '\'' && rule.singleQuotes then ['\\', c]
  else if marks && isGraphemeExtender c then escapePoint c
  else if isPrintable c then [c]
  else escapePoint c

/-- The escaped form of a text. -/
def escape (rule : EscapeRule) (s : String) : String :=
  String.ofList <|
    match s.toList with
    | [] => []
    | c :: rest => escapeChar rule true c ++ rest.flatMap (escapeChar rule rule.laterMarks)

/-- Bytes between double quotes: what they spell in escaped form, and the other bytes in
hexadecimal. -/
def quoteBytes (bytes : Bytes) : String :=
  String.ofList <| '\x22' :: (Utf8.pieces bytes).flatMap (fun
    | .char c => escapeChar .path true c
    | .broken run => run.flatMap fun b => ['\\', 'x'] ++ hexadecimal true 2 b.toNat) ++ ['\x22']

end ContainerBuild.Text
