import DirPicker.Picker
import DirPicker.Terminal
import DirPicker.Text.Lines
import DirPicker.View

/-!
# The screen

What the picker shows on a terminal: a prompt with the filter on the first line, and the rows of
the list below it, with the highlighted row reversed. `Screen.frame` is what is shown.

When there are more rows than lines, a `Window` of the list is in sight. `Window.scroll` moves it no
further than needed to have the highlighted row in it. Most rows take one line; a row whose text has
line feeds in it takes several, and is shown as a whole or not at all.
-/

namespace DirPicker

structure Size where
  columns : Nat
  lines : Nat
deriving DecidableEq, Repr

/-- The number of lines for the list, below the prompt. A terminal without columns has none. -/
def Size.listHeight (size : Size) : Nat := if size.columns = 0 then 0 else size.lines - 1

/-! ### Scrolling -/

/-- Part of a list: the number of its first row, and how many rows it has. -/
structure Window where
  first : Nat
  count : Nat
deriving DecidableEq, Repr

namespace Window

/-- How many of the rows, from the first on, fit into `height` lines. -/
def fitting : (height : Nat) → (heights : List Nat) → Nat
  | _, [] => 0
  | height, h :: rest => if h ≤ height then fitting (height - h) rest + 1 else 0

/-- The window from a row on. -/
def startingAt (height : Nat) (heights : List Nat) (first : Nat) : Window :=
  ⟨first, fitting height (heights.drop first)⟩

/-- The window that ends with a row, and begins no earlier than with row `first`. -/
def endingAt (height : Nat) (heights : List Nat) (first last : Nat) : Window :=
  let count := fitting height ((heights.take (last + 1)).drop first).reverse
  ⟨min last (last + 1 - count), count⟩

def contains (w : Window) (row : Nat) : Bool := w.first ≤ row && row < w.first + w.count

/-- The window that has row `selected` in it and starts as near to row `offset` as it can. -/
def scroll (height : Nat) (heights : List Nat) (offset selected : Nat) : Window :=
  let offset := min offset (heights.length - 1)
  if selected < offset then startingAt height heights selected
  else
    let same := startingAt height heights offset
    if same.contains selected then same else endingAt height heights offset selected

end Window

/-! ### Drawing -/

structure Frame where
  /-- The lines from the top, without blanks at their ends. -/
  lines : List Text
  /-- The reversed lines below the prompt, the prompt being line 0. -/
  reversed : List Nat
  /-- The column and the line of the cursor. -/
  cursor : Nat × Nat
deriving DecidableEq, Repr

/-- The first reversed line below the prompt. -/
def Frame.highlighted (frame : Frame) : Option Nat := frame.reversed.head?

namespace Screen

/-- What stands in front of the filter. -/
def prompt : Text := " LOCATION ".toList

/-- The parts of the first line: the prompt, a blank and the filter. -/
def promptParts (query : Text) : List Text := [prompt, [' '], query]

/-- The first line as a terminal with that many columns shows it. -/
def promptLine (columns : Nat) (query : Text) : Text :=
  Terminal.shown columns (Terminal.inputCells columns (promptParts query))

/-- A line of a row as a terminal with that many columns shows it. -/
def clip (columns : Nat) (line : Text) : Text :=
  Terminal.shown columns (Terminal.lineCells columns line)

def heights (rows : List Text) : List Nat := rows.map fun row => (Text.lines row).length

/-- The part of the list in sight. Without lines for the list nothing is in sight, and nothing
moves. -/
def window (size : Size) (rows : List Text) (offset selected : Nat) : Window :=
  if rows.isEmpty then ⟨0, 0⟩
  else if size.listHeight = 0 then ⟨offset, 0⟩
  else .scroll size.listHeight (heights rows) offset selected

/-- What is shown of a list, with row `selected` highlighted. -/
def frame (size : Size) (query : Text) (rows : List Text) (offset selected : Nat) : Frame :=
  let w := window size rows offset selected
  let shown := (rows.drop w.first).take w.count
  let rowLines := (shown.flatMap Text.lines).map (clip size.columns)
  let lines := promptLine size.columns query :: rowLines
  { lines := lines.take size.lines ++
      List.replicate (size.lines - lines.length) []
    reversed :=
      if w.contains selected then
        List.range' (total (heights (shown.take (selected - w.first))) + 1)
          ((heights rows)[selected]?.getD 0)
      else []
    cursor := (min (total ((promptParts query).map Unicode.width)) (size.columns - 1), 0) }

end Screen

end DirPicker
