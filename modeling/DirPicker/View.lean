import DirPicker.Text.Basic

/-!
# The view

What the user has typed and which row is highlighted. `View.press` applies a key and tells what it
asks of the picker: moving the highlight asks nothing, and only a change of the text asks for a new
filter. The highlight moves in a cycle over the rows.
-/

namespace DirPicker

inductive KeyCode
  | char (c : Char)
  | escape
  | enter
  | up
  | down
  | backspace
  /-- Any other key. -/
  | other
deriving DecidableEq, Repr

structure Modifiers where
  control : Bool := false
  shift : Bool := false
  alt : Bool := false
  super : Bool := false
  hyper : Bool := false
  metaKey : Bool := false
deriving DecidableEq, Repr

structure Key where
  code : KeyCode
  modifiers : Modifiers := {}
deriving DecidableEq, Repr

inductive Action
  | none
  | filterChanged
  | accept
  | cancel
deriving DecidableEq, Repr

/-- The text typed and the number of the highlighted row. -/
structure View where
  query : Text
  selected : Nat
deriving DecidableEq, Repr

namespace View

/-- The row below, or the first one below the last; 0 without rows. The addition has no bound: as a
machine word it would come out differently for the largest word only, and no list has a row of that
number. -/
def rowBelow (rows selected : Nat) : Nat := if rows = 0 then 0 else (selected + 1) % rows

/-- The row above, or the last one above the first; 0 without rows. -/
def rowAbove (rows selected : Nat) : Nat :=
  if rows = 0 then 0 else if selected = 0 then rows - 1 else selected - 1

/-- Replaces the text. A text of another length in bytes counts as new, and moves the highlight to
the first row. -/
def edit (v : View) (query : Text) : Action × View :=
  if query.byteCount = v.query.byteCount then (.none, { v with query })
  else (.filterChanged, ⟨query, 0⟩)

/-- Where something is only added or taken away at the end, the length tells whether the text is
new. -/
theorem edit_eq {v : View} {query : Text} (h : query <+: v.query ∨ v.query <+: query) :
    v.edit query = if query = v.query then (.none, v) else (.filterChanged, ⟨query, 0⟩) := by
  by_cases hquery : query = v.query
  · simp [edit, hquery]
  · have hcount : query.byteCount ≠ v.query.byteCount := by
      intro hcount
      rcases h with h | h
      · exact hquery (Text.eq_of_prefix_of_byteCount_eq h hcount)
      · exact hquery (Text.eq_of_prefix_of_byteCount_eq h hcount.symm).symm
    rw [edit, if_neg hcount, if_neg hquery]

/-- Applies a key to the view of a list with `rows` rows. -/
def press (v : View) (key : Key) (rows : Nat) : Action × View :=
  match key.code with
  | .escape => (.cancel, v)
  | .enter => (.accept, v)
  | .up => (.none, { v with selected := rowAbove rows v.selected })
  | .down => (.none, { v with selected := rowBelow rows v.selected })
  | .backspace => v.edit v.query.dropLast
  | .char c =>
    if key.modifiers.control then
      match c with
      | 'c' => (.cancel, v)
      | 'p' => (.none, { v with selected := rowAbove rows v.selected })
      | 'n' => (.none, { v with selected := rowBelow rows v.selected })
      | 'u' => v.edit []
      | _ => (.none, v)
    else v.edit (v.query ++ [c])
  | .other => (.none, v)

end View

end DirPicker
