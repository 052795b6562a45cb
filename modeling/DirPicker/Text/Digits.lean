import DirPicker.Text.Basic

/-!
# Decimal digits

The value of a run of digits, and natural numbers in decimal notation. Both look at the ASCII
digits only.
-/

namespace DirPicker.Text

def digitsValue (t : Text) : Nat := t.foldl (fun n c => 10 * n + (c.toNat - '0'.toNat)) 0

/-- Reads a natural number: one digit or more, after a plus sign or nothing. -/
def readNat? (t : Text) : Option Nat :=
  let digits := match t with
    | '+' :: rest => rest
    | rest => rest
  if digits.isEmpty || !digits.all Char.isDigit then none else some (digitsValue digits)

def ofNat (n : Nat) : Text := Nat.toDigits 10 n

end DirPicker.Text
