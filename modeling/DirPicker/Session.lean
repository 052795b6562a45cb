import DirPicker.Screen

/-!
# Sessions

A `Session` is an open picker on a terminal: the picker, the view on it, and how far the list is
scrolled. Before each input the screen is drawn; then `Session.handle` applies the input, which
goes on with the session or closes the picker. `Session.run` is a whole session.
-/

namespace DirPicker

inductive Input
  | press (key : Key)
  /-- Anything but the press of a key. -/
  | other
deriving DecidableEq, Repr

structure Session where
  picker : Picker
  view : View
  /-- The number of the first row in sight when the screen was last drawn. -/
  offset : Nat

namespace Session

/-- The session that shows a picker with its filter as the text typed. -/
def start (picker : Picker) : Session := ⟨picker, ⟨picker.filter, 0⟩, 0⟩

def frame (size : Size) (s : Session) : Frame :=
  Screen.frame size s.view.query s.picker.rows s.offset s.view.selected

def drawn (size : Size) (s : Session) : Session :=
  { s with offset := (Screen.window size s.picker.rows s.offset s.view.selected).first }

inductive Next
  | running (s : Session)
  | closed (result : Picker.Accepted)

def handle (s : Session) : Input → Next
  | .other => .running s
  | .press key =>
    let (action, view) := s.view.press key s.picker.size
    match action with
    | .none => .running { s with view }
    | .filterChanged => .running { s with picker := s.picker.setFilter view.query, view }
    | .accept => .closed (s.picker.accept view.selected)
    | .cancel => .closed ⟨s.picker.cancel, none, none, []⟩

/-- Draws the screen and applies the next input, until the picker closes or the inputs end. -/
def run (size : Size) (s : Session) : List Input → Next
  | [] => .running s
  | input :: rest =>
    match (s.drawn size).handle input with
    | .running s => run size s rest
    | .closed result => .closed result

/-- What the terminal shows when each of the inputs arrives, as long as the picker is open. -/
def frames (size : Size) (s : Session) : List Input → List Frame
  | [] => []
  | input :: rest =>
    s.frame size ::
      match (s.drawn size).handle input with
      | .running s => frames size s rest
      | .closed _ => []

end Session

end DirPicker
