import DirPicker.Text.Digits
import DirPicker.Text.Quoted

/-!
# The log

What happens inside the program is told by `Event`s: how important they are, which part of the
program they come from, a message, and named values. `Event.line` is the line of the log for an
event, without the time in front of it.
-/

namespace DirPicker.Log

inductive Level
  | error
  | warn
  | info
  | debug
  | trace
deriving DecidableEq, Repr

namespace Level

def name : Level → Text
  | .error => "ERROR".toList
  | .warn => "WARN".toList
  | .info => "INFO".toList
  | .debug => "DEBUG".toList
  | .trace => "TRACE".toList

/-- The number of a level: the lower, the more important. -/
def rank : Level → Nat
  | .error => 1
  | .warn => 2
  | .info => 3
  | .debug => 4
  | .trace => 5

end Level

inductive Part
  | program
  | picker
  | candidates
  | store
  | workspace
  | pattern
deriving DecidableEq, Repr

/-- The name of a part. The parts inside the program have its name in front of theirs. -/
def Part.name : Part → Text
  | .program => "hcd".toList
  | .picker => "hcd::picker".toList
  | .candidates => "hcd::candidates".toList
  | .store => "hcd::store".toList
  | .workspace => "hcd::workspace".toList
  | .pattern => "hcd::pattern".toList

inductive Value
  /-- Shown as it is. -/
  | plain (t : Text)
  /-- Shown between quotes. -/
  | quoted (t : Text)
deriving DecidableEq, Repr

namespace Value

def ofNat (n : Nat) : Value := .plain (Text.ofNat n)

def text : Value → Text
  | .plain t => t
  | .quoted t => Text.quoted t

end Value

structure Event where
  level : Level
  part : Part
  message : Text
  fields : List (Text × Value)
deriving DecidableEq, Repr

namespace Event

/-- The names of what the event holds. Its message counts as a field. -/
def fieldNames (e : Event) : List Text := "message".toList :: e.fields.map (·.1)

def levelWidth : Nat := 5

def line (e : Event) : Text :=
  List.replicate (levelWidth - e.level.name.length) ' ' ++ e.level.name ++ [' '] ++ e.message ++
    e.fields.flatMap fun (name, value) => ' ' :: name ++ '=' :: value.text

end Event

end DirPicker.Log
