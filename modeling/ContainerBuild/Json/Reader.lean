import ContainerBuild.Json.Basic

/-! # Reading JSON

`Json.ofText?` reads a value from its text. Integers that fit 64 bits, with or without a sign bit,
stay integers; every other number becomes a binary one, from as many leading digits as fit 64 bits.
-/

namespace ContainerBuild.Json

/-- The greatest significand that is kept while digits are read. -/
def greatestSignificand : Nat := Nat.pow 2 64 - 1

/-- The value of a decimal digit. -/
def digitValue (c : Char) : Nat := c.toNat - '0'.toNat

/-- The value of a hexadecimal digit. -/
def hexValue? (c : Char) : Option Nat :=
  if c.isDigit then some (digitValue c)
  else if 'a' ≤ c ∧ c ≤ 'f' then some (c.toNat - 'a'.toNat + 10)
  else if 'A' ≤ c ∧ c ≤ 'F' then some (c.toNat - 'A'.toNat + 10)
  else none

/-- The text without the blanks at its start. -/
def skipBlanks (s : List Char) : List Char :=
  s.dropWhile fun c => c == ' ' || c == '\n' || c == '\t' || c == '\r'

/-- The leading digits of a text, and the rest. -/
def takeDigits (s : List Char) : List Char × List Char :=
  (s.takeWhile Char.isDigit, s.dropWhile Char.isDigit)

/-- A significand and a power of ten. -/
structure Significand where
  /-- The digits that are kept. -/
  digits : Nat
  /-- The power of ten that they are counted in. -/
  exponent : Int

/-- The significand with the digits of the integer part. From the first digit that does not fit,
digits count as zeros. -/
def Significand.ofWhole (n : Nat) : List Char → Significand
  | [] => ⟨n, 0⟩
  | c :: rest =>
    if 10 * n + digitValue c ≤ greatestSignificand then ofWhole (10 * n + digitValue c) rest
    else ⟨n, rest.length + 1⟩

/-- The significand with the digits of the fraction added, up to the first that does not fit. -/
def Significand.withFraction (s : Significand) : List Char → Significand
  | [] => s
  | c :: rest =>
    if 10 * s.digits + digitValue c ≤ greatestSignificand then
      withFraction ⟨10 * s.digits + digitValue c, s.exponent - 1⟩ rest
    else s

/-- The number that the digits spell. -/
def natOfDigits (digits : List Char) : Nat :=
  digits.foldl (fun n c => 10 * n + digitValue c) 0

/-- An integer, if it fits 64 bits with a sign bit or, not being negative, without one. A negative
zero is none. -/
def integerOf? (negative : Bool) (n : Nat) : Option Int :=
  if negative then if n = 0 ∨ Nat.pow 2 63 < n then none else some (-n)
  else if n ≤ greatestSignificand then some n else none

/-- Reads the exponent of a number, if there is one: its value and the rest. -/
def readExponent? : List Char → Option (Option Int × List Char)
  | c :: rest =>
    if c == 'e' || c == 'E' then
      let (negative, rest) :=
        match rest with
        | '-' :: rest => (true, rest)
        | '+' :: rest => (false, rest)
        | rest => (false, rest)
      let (digits, rest) := takeDigits rest
      if digits.isEmpty then none
      else
        let n : Int := natOfDigits digits
        some (some (if negative then -n else n), rest)
    else some (none, c :: rest)
  | [] => some (none, [])

/-- Reads the fraction of a number, if there is one: its digits and the rest. -/
def readFraction? : List Char → Option (Option (List Char) × List Char)
  | '.' :: rest =>
    let (digits, rest) := takeDigits rest
    if digits.isEmpty then none else some (some digits, rest)
  | rest => some (none, rest)

/-- The greatest exponent that changes a binary number of at most twenty digits. -/
def greatestExponent : Int := 100000

/-- The binary number of the parts of its text. -/
def realOf? (negative : Bool) (s : Significand) (exponent : Int) : Option Number :=
  let e := max (-greatestExponent) (min greatestExponent (s.exponent + exponent))
  (Binary64.ofDecimal? negative s.digits e).map .real

/-- Reads a number. -/
def readNumber? (s : List Char) : Option (Number × List Char) := do
  let (negative, s) :=
    match s with
    | '-' :: rest => (true, rest)
    | s => (false, s)
  let (whole, s) := takeDigits s
  if whole.isEmpty || (whole.head? == some '0' && 1 < whole.length) then none
  else
    let (fraction, s) ← readFraction? s
    let (exponent, s) ← readExponent? s
    let significand := Significand.ofWhole 0 whole
    match fraction, exponent with
    | none, none =>
      match integerOf? negative (natOfDigits whole) with
      | some n => some (.integer n, s)
      | none => (realOf? negative significand 0).map (·, s)
    | _, _ =>
      (realOf? negative (significand.withFraction (fraction.getD [])) (exponent.getD 0)).map (·, s)

/-- Reads the four digits of a code unit. -/
def readUnit? : List Char → Option (Nat × List Char)
  | a :: b :: c :: d :: rest => do
    let n := ((← hexValue? a) * 16 + (← hexValue? b)) * 256 + (← hexValue? c) * 16 + (← hexValue? d)
    some (n, rest)
  | _ => none

/-- Reads the character that an escaped code unit starts. The second half of a pair is never
alone. -/
def readEscapedPoint? (s : List Char) : Option (Char × List Char) := do
  let (unit, s) ← readUnit? s
  if unit < 0xD800 ∨ 0xE000 ≤ unit then some (Char.ofNat unit, s)
  else if 0xDC00 ≤ unit then none
  else
    match s with
    | '\\' :: 'u' :: s =>
      let (low, s) ← readUnit? s
      if 0xDC00 ≤ low ∧ low < 0xE000 then
        some (Char.ofNat (0x10000 + (unit - 0xD800) * 0x400 + (low - 0xDC00)), s)
      else none
    | _ => none

/-- The character that a single-letter escape stands for. -/
def escapedChar? : Char → Option Char
  | '\x22' => some '\x22'
  | '\\' => some '\\'
  | '/' => some '/'
  | 'b' => some '\x08'
  | 'f' => some '\x0c'
  | 'n' => some '\n'
  | 'r' => some '\r'
  | 't' => some '\t'
  | _ => none

/-- Reads the rest of a text up to its closing quote; `done` holds the characters before, last
first. -/
def readText? (fuel : Nat) (done : List Char) (s : List Char) : Option (String × List Char) :=
  match fuel, s with
  | 0, _ => none
  | _, [] => none
  | _, '\x22' :: rest => some (String.ofList done.reverse, rest)
  | fuel + 1, '\\' :: 'u' :: rest => do
    let (c, rest) ← readEscapedPoint? rest
    readText? fuel (c :: done) rest
  | fuel + 1, '\\' :: e :: rest => do
    let c ← escapedChar? e
    readText? fuel (c :: done) rest
  | fuel + 1, c :: rest =>
    if c.toNat < 0x20 || c == '\\' then none else readText? fuel (c :: done) rest

mutual

/-- Reads a value. -/
def readValue? (fuel : Nat) (s : List Char) : Option (Json × List Char) :=
  match fuel with
  | 0 => none
  | fuel + 1 =>
    match skipBlanks s with
    | 'n' :: 'u' :: 'l' :: 'l' :: rest => some (null, rest)
    | 't' :: 'r' :: 'u' :: 'e' :: rest => some (bool true, rest)
    | 'f' :: 'a' :: 'l' :: 's' :: 'e' :: rest => some (bool false, rest)
    | '\x22' :: rest => (readText? (rest.length + 1) [] rest).map fun (s, rest) => (text s, rest)
    | '[' :: rest =>
      match skipBlanks rest with
      | ']' :: rest => some (list [], rest)
      | rest => (readItems? fuel rest).map fun (items, rest) => (list items, rest)
    | '\x7b' :: rest =>
      match skipBlanks rest with
      | '\x7d' :: rest => some (record [], rest)
      | rest => (readFields? fuel rest).map fun (fields, rest) => (ofFields fields, rest)
    | rest => (readNumber? rest).map fun (n, rest) => (number n, rest)

/-- Reads the items of a list and its closing bracket. -/
def readItems? (fuel : Nat) (s : List Char) : Option (List Json × List Char) :=
  match fuel with
  | 0 => none
  | fuel + 1 => do
    let (item, s) ← readValue? fuel s
    match skipBlanks s with
    | ',' :: rest => (readItems? fuel rest).map fun (items, rest) => (item :: items, rest)
    | ']' :: rest => some ([item], rest)
    | _ => none

/-- Reads the fields of a record and its closing brace. -/
def readFields? (fuel : Nat) (s : List Char) : Option (List (String × Json) × List Char) :=
  match fuel with
  | 0 => none
  | fuel + 1 =>
    match skipBlanks s with
    | '\x22' :: rest => do
      let (name, rest) ← readText? (rest.length + 1) [] rest
      match skipBlanks rest with
      | ':' :: rest =>
        let (value, rest) ← readValue? fuel rest
        match skipBlanks rest with
        | ',' :: rest => (readFields? fuel rest).map fun (fields, rest) =>
            ((name, value) :: fields, rest)
        | '\x7d' :: rest => some ([(name, value)], rest)
        | _ => none
      | _ => none
    | _ => none

end

/-- The value that a text spells, if it is JSON. -/
def ofText? (s : String) : Option Json := do
  let (value, rest) ← readValue? (s.length + 1) s.toList
  if (skipBlanks rest).isEmpty then some value else none

end ContainerBuild.Json
