import DirPicker.Pattern.Search
import DirPicker.Pattern.Size

/-!
# Compiled patterns

`Program.compile` turns the text of a pattern into a program that can be asked whether, and where,
it matches a text. It fails exactly when the text is no pattern or its machine would be too large.
-/

namespace DirPicker.Pattern

structure Program where
  node : Node
deriving DecidableEq, Repr

namespace Program

/-- Compiles a pattern, with letters matching in either case if `ignoreCase` is set. -/
def compile (ignoreCase : Bool) (pattern : Text) : Except Error Program :=
  match parse pattern with
  | .error failure => .error (.refused failure)
  | .ok tree =>
    match tree.node { ignoreCase := ignoreCase } with
    | .error failure => .error (.refused failure)
    | .ok node => if node.fits then .ok ⟨node⟩ else .error .tooLarge

def isMatch (program : Program) (t : Text) : Bool := program.node.isMatch t

/-- Where the leftmost match starts and ends. -/
def find? (program : Program) (t : Text) : Option (Nat × Nat) := program.node.find? t

end Program

end DirPicker.Pattern
