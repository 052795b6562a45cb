import DirPicker.Session

/-!
# The keyboard

What a terminal sends for the keys of its keyboard: a character stands for itself, a control
character for a letter with the control key or for a key of its own, and an arrow key sends an
escape sequence. An escape character alone is the escape key.
-/

namespace DirPicker.Keyboard

def plain (code : KeyCode) : Input := .press ⟨code, {}⟩

/-- The letter that a control character stands for. -/
def controlLetter (c : Char) : Char := .ofNat (c.toNat + 'a'.toNat - 1)

/-- The input for a character outside of escape sequences. -/
def ofChar (c : Char) : Input :=
  if c = '\r' || c = '\n' then plain .enter
  else if c = '\x7f' then plain .backspace
  else if c = '\t' then plain .other
  else if c.toNat < 0x20 then .press ⟨.char (controlLetter c), { control := true }⟩
  else plain (.char c)

/-- The input for the last character of an escape sequence. -/
def ofSequence : Char → Input
  | 'A' => plain .up
  | 'B' => plain .down
  | _ => .other

def endsSequence (c : Char) : Bool := '@' ≤ c && c ≤ '~'

inductive Stage
  | outside
  | escape
  | sequence
deriving DecidableEq, Repr

/-- The inputs that a terminal means by what it sends. -/
def read : (stage : Stage) → Text → List Input
  | .outside, [] | .sequence, [] => []
  | .escape, [] => [plain .escape]
  | .outside, c :: t => if c = '\x1b' then read .escape t else ofChar c :: read .outside t
  | .escape, c :: t =>
    if c = '[' || c = 'O' then read .sequence t
    else if c = '\x1b' then plain .escape :: read .escape t
    else .press ⟨.char c, { alt := true }⟩ :: read .outside t
  | .sequence, c :: t =>
    if endsSequence c then ofSequence c :: read .outside t else read .sequence t

def inputs (t : Text) : List Input := read .outside t

end DirPicker.Keyboard
