import ContainerBuild.Host.Program

/-! # Lines of a shell script

A script is a sequence of simple commands. Each is joined to the one before: it runs always, or
only after a success, or only after a failure. A word is made of literal parts and of values that
are looked up when the command runs.
-/

namespace ContainerBuild.Host

/-- A part of a word. -/
inductive Part where
  /-- Bytes that stand for themselves. -/
  | literal (bytes : Bytes)
  /-- The value of a variable or parameter. Without quotes it is split at blanks. -/
  | value (name : Bytes) (isQuoted : Bool)
  deriving DecidableEq, Repr

/-- The parts of a word. -/
abbrev Word := List Part

/-- What a stream is turned to. -/
inductive Redirect where
  /-- A stream writes to a file, at its end or in place of what it holds. -/
  | toFile (stream : Nat) (appends : Bool) (file : Word)
  /-- A stream writes where another one writes. -/
  | toStream (stream other : Nat)
  /-- The command reads from a file. -/
  | fromFile (file : Word)
  deriving DecidableEq, Repr

/-- When a command runs, by the status of the one before. -/
inductive Joint where
  /-- In any case. -/
  | always
  /-- After a success. -/
  | afterSuccess
  /-- After a failure. -/
  | afterFailure
  deriving DecidableEq, Repr

/-- A simple command. -/
structure Simple where
  /-- When it runs. -/
  joint : Joint := .always
  /-- The line on which it starts. -/
  line : Nat := 1
  /-- Its words. -/
  words : List Word := []
  /-- Where its streams are turned to. -/
  redirects : List Redirect := []
  deriving Repr

/-- A token of a script. -/
inductive Token where
  /-- A word. -/
  | word (w : Word)
  /-- The end of a line. -/
  | newline
  /-- An operator. -/
  | operator (bytes : Bytes)
  /-- An operator that turns a stream to a file or another stream. -/
  | redirect (stream : Nat) (bytes : Bytes)
  deriving DecidableEq, Repr

/-- Whether the byte is a letter or an underscore. -/
def isNameStart (b : UInt8) : Bool :=
  (byte 'a' ≤ b && b ≤ byte 'z') || (byte 'A' ≤ b && b ≤ byte 'Z') || b == byte '_'

/-- Whether the byte is a digit. -/
def isDigit (b : UInt8) : Bool := byte '0' ≤ b && b ≤ byte '9'

/-- Whether the byte may stand in a name. -/
def isNameByte (b : UInt8) : Bool := isNameStart b || isDigit b

/-- Whether the byte ends a word. -/
def endsWord (b : UInt8) : Bool := (bytes " \t\n;&|<>").contains b

/-- The name of the value behind a dollar sign and the rest, if there is one. -/
def readName? : Bytes → Option (Bytes × Bytes)
  | [] => none
  | b :: rest =>
    if b == 0x7B then
      some (rest.takeWhile (· != 0x7D), (rest.dropWhile (· != 0x7D)).drop 1)
    else if isNameStart b then
      some (b :: rest.takeWhile isNameByte, rest.dropWhile isNameByte)
    else if isDigit b || (bytes "$?#@*!-").contains b then some ([b], rest)
    else none

/-- The word with a byte at its end. -/
def pushByte (w : Word) (b : UInt8) : Word :=
  match w.reverse with
  | .literal l :: before => (Part.literal (l ++ [b]) :: before).reverse
  | _ => w ++ [.literal [b]]

/-- Reads up to the closing double quote. -/
def readDouble (fuel : Nat) (w : Word) (s : Bytes) : Word × Bytes :=
  match fuel, s with
  | 0, _ => (w, s)
  | _, [] => (w, [])
  | fuel + 1, b :: rest =>
    if b == byte '\x22' then (w, rest)
    else if b == byte '$' then
      match readName? rest with
      | some (name, rest) => readDouble fuel (w ++ [.value name true]) rest
      | none => readDouble fuel (pushByte w b) rest
    else if b == byte '\\' then
      match rest with
      | c :: rest' =>
        if (bytes "\x24\x22\x5c\x60").contains c then readDouble fuel (pushByte w c) rest'
        else readDouble fuel (pushByte w b) rest
      | [] => (pushByte w b, [])
    else readDouble fuel (pushByte w b) rest

/-- Reads a word up to its end. -/
def readWord (fuel : Nat) (w : Word) (s : Bytes) : Word × Bytes :=
  match fuel, s with
  | 0, _ => (w, s)
  | _, [] => (w, [])
  | fuel + 1, b :: rest =>
    if endsWord b then (w, b :: rest)
    else if b == byte '\'' then
      let quoted := rest.takeWhile (· != byte '\'')
      readWord fuel (w ++ [.literal quoted]) ((rest.dropWhile (· != byte '\'')).drop 1)
    else if b == byte '\x22' then
      let (w, rest) := readDouble fuel (w ++ [.literal []]) rest
      readWord fuel w rest
    else if b == byte '\\' then
      match rest with
      | c :: rest => readWord fuel (if c == 0x0A then w else pushByte w c) rest
      | [] => (w, [])
    else if b == byte '$' then
      match readName? rest with
      | some (name, rest) => readWord fuel (w ++ [.value name false]) rest
      | none => readWord fuel (pushByte w b) rest
    else readWord fuel (pushByte w b) rest

/-- Reads an operator that turns a stream, if the script starts with one. -/
def readRedirect? : Bytes → Option (Token × Bytes)
  | [] => none
  | b :: rest =>
    let (stream, s) := if isDigit b then (some (b.toNat - 48), rest) else (none, b :: rest)
    match s with
    | [] => none
    | op :: rest =>
      if op == byte '>' then
        match rest with
        | c :: rest' =>
          if c == byte '>' then some (.redirect (stream.getD 1) (bytes ">>"), rest')
          else if c == byte '&' then some (.redirect (stream.getD 1) (bytes ">&"), rest')
          else some (.redirect (stream.getD 1) (bytes ">"), rest)
        | [] => some (.redirect (stream.getD 1) (bytes ">"), [])
      else if op == byte '<' then some (.redirect (stream.getD 0) (bytes "<"), rest)
      else none

/-- The tokens of a script. -/
def tokens (fuel : Nat) (s : Bytes) : List Token :=
  match fuel, s with
  | 0, _ => []
  | _, [] => []
  | fuel + 1, b :: rest =>
    if b == 0x20 || b == 0x09 then tokens fuel rest
    else if b == 0x0A then .newline :: tokens fuel rest
    else if b == byte '#' then tokens fuel (rest.dropWhile (· != 0x0A))
    else if b == byte ';' then .operator [b] :: tokens fuel rest
    else if b == byte '&' || b == byte '|' then
      match rest with
      | c :: rest' =>
        if c == b then .operator [b, c] :: tokens fuel rest'
        else .operator [b] :: tokens fuel rest
      | [] => [.operator [b]]
    else
      match readRedirect? (b :: rest) with
      | some (token, rest) => token :: tokens fuel rest
      | none =>
        let (w, rest) := readWord (rest.length + 2) [] (b :: rest)
        .word w :: tokens fuel rest

/-- The number that a word spells, if it is literal. -/
def streamOf? : Word → Option Nat
  | [.literal [b]] => if isDigit b then some (b.toNat - 48) else none
  | _ => none

/-- The redirection of an operator and the word behind it. -/
def redirectOf (stream : Nat) (operator : Bytes) (w : Word) : Redirect :=
  if operator == bytes ">>" then .toFile stream true w
  else if operator == bytes "<" then .fromFile w
  else
    match operator == bytes ">&", streamOf? w with
    | true, some other => .toStream stream other
    | _, _ => .toFile stream false w

/-- Whether a command has neither words nor redirections. -/
def Simple.isEmpty (c : Simple) : Bool := c.words.isEmpty && c.redirects.isEmpty

/-- The commands of the tokens; `c` is the command that is being read. -/
def commands (c : Simple) : List Token → List Simple
  | [] => if c.isEmpty then [] else [c]
  | .word w :: rest => commands { c with words := c.words ++ [w] } rest
  | .redirect stream operator :: .word w :: rest =>
    commands { c with redirects := c.redirects ++ [redirectOf stream operator w] } rest
  | .redirect _ _ :: rest => commands c rest
  | .newline :: rest =>
    if c.isEmpty then commands { c with line := c.line + 1 } rest
    else c :: commands { line := c.line + 1 } rest
  | .operator operator :: rest =>
    let joint : Joint :=
      if operator == bytes "&&" then .afterSuccess
      else if operator == bytes "||" then .afterFailure
      else .always
    if c.isEmpty then commands { c with joint } rest
    else c :: commands { joint, line := c.line } rest

/-- The commands of a script. -/
def parseScript (script : Bytes) : List Simple := commands {} (tokens (script.length + 1) script)

end ContainerBuild.Host
