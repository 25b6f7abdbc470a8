import ContainerBuild.Text.CodePoints

/-! # White space

The characters with the Unicode property `White_Space`, and texts without the white space at
their ends.
-/

namespace ContainerBuild.Text

/-- The code points with the property `White_Space`. -/
def blanks : CodePoints := [
  (0x9, 0xD), (0x20, 0x20), (0x85, 0x85), (0xA0, 0xA0), (0x1680, 0x1680), (0x2000, 0x200A),
  (0x2028, 0x2029), (0x202F, 0x202F), (0x205F, 0x205F), (0x3000, 0x3000)]

/-- Whether the character is white space. -/
def isBlank (c : Char) : Bool := blanks.contains c

/-- The text without the white space at its end. -/
def trimEnd (s : String) : String :=
  String.ofList (s.toList.reverse.dropWhile isBlank).reverse

/-- Whether the text has nothing but white space. -/
def isAllBlank (s : String) : Bool := s.toList.all isBlank

end ContainerBuild.Text
