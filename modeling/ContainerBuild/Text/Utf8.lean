/-! # UTF-8

Bytes as text and text as bytes. `Utf8.pieces` cuts bytes into characters and into the longest
runs that begin a character and do not end one; `decode?` accepts exactly the bytes without such
runs, and `decodeLossy` shows each run as one replacement character.
-/

namespace ContainerBuild

/-- A sequence of bytes, as operating systems hand over names, arguments and file contents. -/
abbrev Bytes := List UInt8

namespace Utf8

/-- One step of reading bytes as UTF-8. -/
inductive Piece where
  /-- A well-formed character. -/
  | char (c : Char)
  /-- A run of bytes that is no character. -/
  | broken (bytes : Bytes)
  deriving DecidableEq, Repr

/-- The character, if the piece is one. -/
def Piece.char? : Piece → Option Char
  | char c => some c
  | broken _ => none

/-- The bytes that the piece stands for. -/
def Piece.bytes : Piece → Bytes
  | char c => String.utf8EncodeChar c
  | broken bytes => bytes

/-- Whether the byte continues a character, and lies between `low` and `high`. -/
def isTail (low high b : UInt8) : Bool := low ≤ b && b ≤ high

/-- The character whose leading byte contributes `lead` and whose other bytes follow. -/
def assemble (lead : Nat) (tails : Bytes) : Char :=
  Char.ofNat (tails.foldl (fun n b => n * 64 + (b.toNat - 0x80)) lead)

/-- The least and the greatest second byte of a character that starts with `a`. -/
def secondBounds (a : UInt8) : UInt8 × UInt8 :=
  if a == 0xE0 then (0xA0, 0xBF)
  else if a == 0xED then (0x80, 0x9F)
  else if a == 0xF0 then (0x90, 0xBF)
  else if a == 0xF4 then (0x80, 0x8F)
  else (0x80, 0xBF)

/-- The bytes cut into characters and broken runs. -/
def pieces : Bytes → List Piece
  | [] => []
  | a :: rest =>
    if a < 0x80 then .char (Char.ofNat a.toNat) :: pieces rest
    else if a < 0xC2 || 0xF4 < a then .broken [a] :: pieces rest
    else
      match rest with
      | [] => [.broken [a]]
      | b :: rest' =>
        if !isTail (secondBounds a).1 (secondBounds a).2 b then
          .broken [a] :: pieces (b :: rest')
        else if a < 0xE0 then .char (assemble (a.toNat - 0xC0) [b]) :: pieces rest'
        else
          match rest' with
          | [] => [.broken [a, b]]
          | c :: rest'' =>
            if !isTail 0x80 0xBF c then .broken [a, b] :: pieces (c :: rest'')
            else if a < 0xF0 then .char (assemble (a.toNat - 0xE0) [b, c]) :: pieces rest''
            else
              match rest'' with
              | [] => [.broken [a, b, c]]
              | d :: rest''' =>
                if !isTail 0x80 0xBF d then .broken [a, b, c] :: pieces (d :: rest''')
                else .char (assemble (a.toNat - 0xF0) [b, c, d]) :: pieces rest'''

/-- The text that the bytes spell, if they are well formed. -/
def decode? (bytes : Bytes) : Option String :=
  ((pieces bytes).mapM Piece.char?).map String.ofList

/-- The text that the bytes spell, with a replacement character for each broken run. -/
def decodeLossy (bytes : Bytes) : String :=
  String.ofList ((pieces bytes).map fun piece => piece.char?.getD '\uFFFD')

/-- The bytes that spell the text. -/
def encode (s : String) : Bytes := s.toList.flatMap String.utf8EncodeChar

end Utf8

end ContainerBuild
