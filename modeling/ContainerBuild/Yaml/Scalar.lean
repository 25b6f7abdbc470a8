import ContainerBuild.Decimal.Binary64
import ContainerBuild.Text.Quoted

/-! # YAML scalars

A text is written plainly where a reader would take it for the same text. A text with line feeds
becomes a literal block; one that reads as a null, a truth value or a number, and one whose
characters mean something in their place, stands between single quotes; what neither form can hold
stands between double quotes with escapes.
-/

namespace ContainerBuild.Yaml

/-- The four ways to write a text. -/
inductive Style where
  /-- As it is. -/
  | plain
  /-- Between single quotes. -/
  | singleQuoted
  /-- Between double quotes. -/
  | doubleQuoted
  /-- As an indented block of lines. -/
  | literal
  deriving DecidableEq, Repr

/-- Whether the character breaks a line. -/
def isBreak (c : Char) : Bool :=
  c == '\n' || c == '\r' || c == '\u0085' || c == '\u2028' || c == '\u2029'

/-- Whether a word ends before the character, or at the end of the text. -/
def endsWord : Option Char → Bool
  | none => true
  | some c => c == ' ' || c == '\t' || c == '\x00' || isBreak c

/-- Whether the character may be written without an escape. -/
def isShown (c : Char) : Bool :=
  c == '\n' || (0x20 ≤ c.toNat && c.toNat ≤ 0x7E) || (0xA0 ≤ c.toNat && c.toNat ≤ 0xFFFD
    && c != '\uFEFF') || 0x10000 ≤ c.toNat

/-! ## Texts that read as something else -/

/-- The text without a leading sign. -/
def withoutSign : List Char → List Char
  | '+' :: rest => rest
  | '-' :: rest => rest
  | s => s

/-- Whether the text, apart from a sign, is a zero and further digits. -/
def isPaddedNumber (s : List Char) : Bool :=
  match withoutSign s with
  | '0' :: d :: rest => (d :: rest).all Char.isDigit
  | _ => false

/-- The value of a digit in a base of at most sixteen. -/
def digitValue? (base : Nat) (c : Char) : Option Nat :=
  let n :=
    if c.isDigit then c.toNat - '0'.toNat
    else if 'a' ≤ c ∧ c ≤ 'f' then c.toNat - 'a'.toNat + 10
    else if 'A' ≤ c ∧ c ≤ 'F' then c.toNat - 'A'.toNat + 10
    else base
  if n < base then some n else none

/-- The number that the digits spell, if there are digits and nothing else. -/
def natOfDigits? (base : Nat) (s : List Char) : Option Nat :=
  if s.isEmpty then none
  else s.foldlM (fun n c => (digitValue? base c).map (base * n + ·)) 0

/-- The number of a text without a sign, in one of the four bases. -/
def magnitude? : List Char → Option Nat
  | '0' :: 'x' :: rest => natOfDigits? 16 rest
  | '0' :: 'o' :: rest => natOfDigits? 8 rest
  | '0' :: 'b' :: rest => natOfDigits? 2 rest
  | s => if isPaddedNumber s then none else natOfDigits? 10 s

/-- Whether the text reads as an integer of at most 128 bits. -/
def isInteger : List Char → Bool
  | '-' :: rest => (magnitude? rest).any (· ≤ Nat.pow 2 127)
  | '+' :: rest => (magnitude? rest).any (· < Nat.pow 2 128)
  | s => (magnitude? s).any (· < Nat.pow 2 128)

/-- Whether a decimal with the digits and the exponent is less than what rounds to infinity. -/
def isFinite (digits : Nat) (exponent : Int) : Bool :=
  if digits == 0 then true
  else
    let leading := ((Nat.toDigits 10 digits).length : Int) - 1 + exponent
    if leading < 300 then true
    else if 400 < leading then false
    else
      let ratio := if exponent < 0 then (digits, Nat.pow 10 exponent.natAbs)
        else (digits * Nat.pow 10 exponent.natAbs, 1)
      (Binary64.ofRatio? ratio.1 ratio.2).isSome

/-- The exponent of a number's text, which is zero if there is none. -/
def exponent? : List Char → Option Int
  | [] => some 0
  | c :: rest =>
    if c == 'e' || c == 'E' then
      match rest with
      | '-' :: digits => (natOfDigits? 10 digits).map fun n => -(n : Int)
      | '+' :: digits => (natOfDigits? 10 digits).map Int.ofNat
      | digits => (natOfDigits? 10 digits).map Int.ofNat
    else none

/-- Whether the text without a sign is a finite decimal. -/
def isDecimal (s : List Char) : Bool :=
  let whole := s.takeWhile Char.isDigit
  let rest := s.dropWhile Char.isDigit
  let (fraction, rest) :=
    match rest with
    | '.' :: rest => (rest.takeWhile Char.isDigit, rest.dropWhile Char.isDigit)
    | rest => ([], rest)
  match natOfDigits? 10 (whole ++ fraction), exponent? rest with
  | some digits, some exponent => isFinite digits (exponent - fraction.length)
  | _, _ => false

/-- The words that read as infinity, without a sign. -/
def infinityWords : List String := [".inf", ".Inf", ".INF"]

/-- The words that read as no number at all. -/
def nanWords : List String := [".nan", ".NaN", ".NAN"]

/-- Whether the text reads as a number with a fraction or an exponent, infinity included. -/
def isReal (s : List Char) : Bool :=
  nanWords.contains (String.ofList s) || infinityWords.contains (String.ofList (withoutSign s))
    || isDecimal (withoutSign s)

/-- The words that read as a null or a truth value. -/
def reservedWords : List String :=
  ["", "null", "Null", "NULL", "~", "true", "True", "TRUE", "false", "False", "FALSE"]

/-- Whether a reader would take the plain text for something other than a text. -/
def isAmbiguous (s : String) : Bool :=
  reservedWords.contains s || isInteger s.toList || isPaddedNumber s.toList || isReal s.toList

/-! ## Texts whose characters mean something in their place -/

/-- The characters that cannot start a plain text. -/
def indicators : List Char :=
  ['#', ',', '[', ']', '\x7b', '\x7d', '&', '*', '!', '|', '>', '\'', '\x22', '%', '@', '\x60']

/-- Whether the start of the text means something. -/
def startsWithIndicator (s : List Char) : Bool :=
  ['-', '-', '-'].isPrefixOf s || ['.', '.', '.'].isPrefixOf s ||
    match s with
    | [] => false
    | c :: rest => indicators.contains c
        || ((c == '?' || c == ':' || c == '-') && endsWord rest.head?)

/-- Whether a later character means something: a colon at the end of a word, or a number sign at
the start of one. `before` is the character in front. -/
def hasIndicatorAfter (before : Char) : List Char → Bool
  | [] => false
  | c :: rest =>
    (c == ':' && endsWord rest.head?) || (c == '#' && endsWord (some before))
      || hasIndicatorAfter c rest

/-- Whether a character of the text means something in its place. -/
def hasIndicator : List Char → Bool
  | [] => false
  | c :: rest => startsWithIndicator (c :: rest) || hasIndicatorAfter c rest

/-- Whether a character with the first property stands directly before one with the second. -/
def hasPair (p q : Char → Bool) : List Char → Bool
  | a :: b :: rest => (p a && q b) || hasPair p q (b :: rest)
  | _ => false

/-- Whether the character is a space. -/
def isSpace (c : Char) : Bool := c == ' '

/-- Whether the text stays the same between single quotes. -/
def fitsSingleQuotes (s : List Char) : Bool :=
  s.all isShown && !hasPair isBreak isSpace s && !hasPair isSpace isBreak s

/-- Whether the text stays the same as a block. -/
def fitsBlock (s : List Char) : Bool :=
  s.all isShown && !hasPair isSpace isBreak s && !s.getLast?.any isSpace

/-- Whether the text stays the same without quotes. -/
def fitsPlain (s : List Char) : Bool :=
  s.all isShown && !s.any isBreak && !s.head?.any isSpace && !s.getLast?.any isSpace
    && !hasIndicator s

/-- The style of a text. -/
def Style.of (s : String) : Style :=
  let cs := s.toList
  if cs.contains '\n' then if fitsBlock cs then .literal else .doubleQuoted
  else if !isAmbiguous s && fitsPlain cs then .plain
  else if fitsSingleQuotes cs then .singleQuoted
  else .doubleQuoted

/-! ## The written forms -/

/-- The indentation that is written after a line break. -/
def indentation (indent : Nat) (broken : Bool) : List Char :=
  if broken then List.replicate indent ' ' else []

/-- The rest of a text between single quotes, with the closing quote; `broken` tells whether a line
has just been broken. -/
def singleQuotedRest (indent : Nat) (broken : Bool) : List Char → List Char
  | [] => indentation indent broken ++ ['\'']
  | c :: rest =>
    if isBreak c then c :: singleQuotedRest indent true rest
    else if c == ' ' then c :: singleQuotedRest indent broken rest
    else
      indentation indent broken ++ (if c == '\'' then ['\'', '\''] else [c])
        ++ singleQuotedRest indent false rest

/-- The text between single quotes. A quote is written twice, and the line after a break is
indented. -/
def singleQuoted (indent : Nat) (s : List Char) : List Char :=
  '\'' :: singleQuotedRest indent false s

/-- The letter of a short escape. -/
def escapeLetter? (c : Char) : Option Char :=
  [('\x00', '0'), ('\x07', 'a'), ('\x08', 'b'), ('\t', 't'), ('\n', 'n'), ('\x0b', 'v'),
    ('\x0c', 'f'), ('\r', 'r'), ('\x1b', 'e'), ('\x22', '\x22'), ('\\', '\\'), ('\u0085', 'N'),
    ('\u2028', 'L'), ('\u2029', 'P')].lookup c

/-- One character between double quotes. -/
def escapeChar (c : Char) : List Char :=
  match escapeLetter? c with
  | some letter => ['\\', letter]
  | none =>
    if isShown c then [c]
    else if c.toNat ≤ 0xFF then ['\\', 'x'] ++ Text.hexadecimal true 2 c.toNat
    else ['\\', 'u'] ++ Text.hexadecimal true 4 c.toNat

/-- The text between double quotes. -/
def doubleQuoted (s : List Char) : List Char :=
  '\x22' :: s.flatMap escapeChar ++ ['\x22']

/-- The marks after the bar of a block: the indentation if the text starts with a blank, and what
happens to the line breaks at its end. -/
def blockMarks (s : List Char) : List Char :=
  let width := if s.head?.any fun c => c == ' ' || isBreak c then ['2'] else []
  let ending :=
    match s.reverse with
    | [] => ['-']
    | c :: before =>
      if !isBreak c then ['-'] else if before.isEmpty || before.head?.any isBreak then ['+'] else []
  width ++ ending

/-- The rest of a block; `broken` tells whether a line has just been broken. -/
def literalRest (indent : Nat) (broken : Bool) : List Char → List Char
  | [] => []
  | c :: rest =>
    if isBreak c then c :: literalRest indent true rest
    else indentation indent broken ++ c :: literalRest indent false rest

/-- The text as a block; every line with characters is indented. -/
def literal (indent : Nat) (s : List Char) : List Char :=
  '|' :: blockMarks s ++ '\n' :: literalRest indent true s

/-- The written form of a text whose further lines have the indentation. -/
def scalar (indent : Nat) (s : String) : List Char :=
  match Style.of s with
  | .plain => s.toList
  | .singleQuoted => singleQuoted indent s.toList
  | .doubleQuoted => doubleQuoted s.toList
  | .literal => literal indent s.toList

end ContainerBuild.Yaml
