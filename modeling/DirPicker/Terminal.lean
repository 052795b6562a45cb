import DirPicker.Unicode.Category
import DirPicker.Unicode.Width

/-!
# Lines on a terminal

A line is laid out in cells, a column each, and a cell holds a cluster. What a terminal then shows
may be something else, for it is told characters and knows nothing of clusters: `shown` puts each
character where the one before it ends, and starts at a new column only behind a cell that is left
alone.
-/

namespace DirPicker.Terminal

/-- What is written to a cell, unless it is left alone. -/
abbrev Cell := Option Text

/-! ### Layout -/

/-- The cells of a cluster, and of marks behind it that take no column. The cell behind the first
one is left alone, and marks on it are lost; any more are blanked. -/
def cellsOf (cluster marks : Text) : List Cell :=
  match Unicode.width cluster with
  | 0 | 1 => [some (cluster ++ marks)]
  | 2 => [some cluster, none]
  | n + 3 => some cluster :: none :: List.replicate n (some [' ']) ++ [some (' ' :: marks)]

/-- The clusters at the beginning that fit into `room` columns. -/
def fitting : (room : Nat) → List Text → List Text
  | _, [] => []
  | room, cluster :: rest =>
    if Unicode.width cluster ≤ room then cluster :: fitting (room - Unicode.width cluster) rest
    else []

/-- The clusters with those at the beginning that take no column put in front of the first that
does. -/
def gatherFirst : List Text → List Text
  | a :: b :: rest =>
    if Unicode.width a = 0 then gatherFirst ((a ++ b) :: rest) else a :: b :: rest
  | clusters => clusters
termination_by clusters => clusters.length

/-- The cells of a line of text. Whatever takes no column goes to the cell before it. A line that
takes no column at all is not drawn. -/
def lineCells (columns : Nat) (line : Text) : List Cell :=
  if Unicode.width line = 0 then []
  else
    let clusters := fitting columns (gatherFirst (Unicode.clusters line))
    (clusters.splitBy fun _ next => Unicode.width next = 0).flatMap fun group =>
      cellsOf (group.headD []) group.tail.flatten

/-- The cells of a line that stands for parts of an input. Whatever takes no column is left out,
and so are line feeds and all that is wider than the line. -/
def inputCells (columns : Nat) (parts : List Text) : List Cell :=
  let clusters := (parts.flatMap Unicode.clusters).filter fun cluster =>
    cluster ≠ ['\n'] && Unicode.width cluster ≤ columns
  let drawn := (fitting columns clusters).filter fun cluster => Unicode.width cluster ≠ 0
  drawn.flatMap fun cluster => cellsOf cluster []

/-! ### Showing -/

/-- A line of columns, and the column where the next character goes. -/
structure Pen where
  line : Array Text
  column : Nat

namespace Pen

def start (columns : Nat) : Pen := ⟨Array.replicate columns [' '], 0⟩

/-- Writes a character. Control characters are not seen. A character without a column goes onto the
one before it. -/
def write (pen : Pen) (c : Char) : Pen :=
  if Unicode.control.contains c then pen
  else match Unicode.columns c with
    | 0 => { pen with line := pen.line.modify (pen.column - 1) (· ++ [c]) }
    | n + 1 =>
      let covered := (List.range n).foldl
        (fun line k => line.setIfInBounds (pen.column + 1 + k) [])
        (pen.line.setIfInBounds pen.column [c])
      ⟨covered, pen.column + n + 1⟩

end Pen

/-- Writes cells from a column on; `follows` if the cell before has been written. -/
def writeCells (pen : Pen) (follows : Bool) (column : Nat) : List Cell → Pen
  | [] => pen
  | none :: rest => writeCells pen false (column + 1) rest
  | some t :: rest =>
    let pen := if follows then pen else { pen with column }
    writeCells (t.foldl Pen.write pen) true (column + 1) rest

/-- What is seen of a line, without blanks at its end. -/
def shown (columns : Nat) (cells : List Cell) : Text :=
  Text.trimEnd ' ' (writeCells (.start columns) false 0 cells).line.toList.flatten

end DirPicker.Terminal
