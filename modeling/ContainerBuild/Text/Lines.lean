import ContainerBuild.Text.Blank

/-! # Lines

Lines of a text, cut and put together again, and indented lines.
-/

namespace ContainerBuild.Text

/-- The parts of a text between line feeds. -/
def splitLines (s : String) : List String := (s.toList.splitOn '\n').map String.ofList

/-- The lines with a line feed between each two. -/
def joinLines (lines : List String) : String := "\n".intercalate lines

/-- The lines of a text as a reader counts them: a line feed ends a line, and a carriage return
directly before it belongs to the line's end. -/
def lines (s : String) : List String :=
  let parts := s.toList.splitOn '\n'
  let ended := parts.dropLast.map fun part =>
    if part.getLast? == some '\r' then part.dropLast else part
  let last := parts.getLast?.getD []
  (if last.isEmpty then ended else ended ++ [last]).map String.ofList

/-- The text with `indent` in front of every line. -/
def indent (indent s : String) : String :=
  joinLines ((splitLines s).map (indent ++ ·))

end ContainerBuild.Text
