import DirPicker.Text.Basic

/-!
# Lines

A line ends with a line feed, which may have a carriage return in front of it. What follows the
last line feed is a line too unless it is empty; it keeps its carriage return, because nothing
ends it.
-/

namespace DirPicker.Text

/-- The line without a carriage return at its end. -/
def dropReturn : Text → Text
  | [] => []
  | [c] => if c = '\r' then [] else [c]
  | c :: d :: t => c :: dropReturn (d :: t)

/-- The lines that the pieces between line feeds make up. -/
def linesOfPieces : List Text → List Text
  | [] => []
  | [last] => if last.isEmpty then [] else [last]
  | line :: next :: rest => dropReturn line :: linesOfPieces (next :: rest)

/-- The lines of a text, without what ends them. -/
def lines (t : Text) : List Text := linesOfPieces (pieces '\n' t)

end DirPicker.Text
