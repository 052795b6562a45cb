import DirPicker.Unicode.Newest

/-!
# Quoted text

`Text.quoted t` shows `t` between double quotes in a form that stays on one line and is
readable whatever `t` holds: the quote, the backslash and the common controls have short
escapes, and every other character that would be invisible, or would merge with its
neighbour, is written by its code point. Main statement: `quoted_single_line`.
-/

namespace DirPicker.Text

open Unicode

/-- Characters without a visible form of their own: controls, format characters, private and
unassigned code points, all separators but the plain space, and what is meant to be ignored where
it is not known. -/
def isHidden (c : Char) : Bool :=
  c ≠ ' ' && (control.contains c || format.contains c || privateUse.contains c ||
    (unassigned.contains c && !newest.contains c) || separator.contains c ||
    defaultIgnorable.contains c)

/-- Marks that are drawn onto the character in front of them. -/
def isMerging (c : Char) : Bool :=
  (graphemeExtend.contains c && mark.contains c) || newestMark.contains c

/-- The code point in hexadecimal between braces. -/
def codeEscape (c : Char) : Text :=
  ['\\', 'u', '{'] ++ Nat.toDigits 16 c.toNat ++ ['}']

/-- How a single character is written between quotes. -/
def quotedChar (c : Char) : Text :=
  if c = '"' then ['\\', '"']
  else if c = '\\' then ['\\', '\\']
  else if c = '\n' then ['\\', 'n']
  else if c = '\r' then ['\\', 'r']
  else if c = '\t' then ['\\', 't']
  else if c = '\x00' then ['\\', '0']
  else if isMerging c || isHidden c then codeEscape c
  else [c]

/-- The text between double quotes, with everything that is not plainly visible escaped. -/
def quoted (t : Text) : Text := '"' :: (t.flatMap quotedChar ++ ['"'])

/-! ### A quoted text is a single line -/

theorem mem_toDigitsCore {base fuel n : Nat} {ds : List Char} {c : Char}
    (h : c ∈ Nat.toDigitsCore base fuel n ds) : c ∈ ds ∨ ∃ m, c = Nat.digitChar m := by
  induction fuel generalizing n ds with
  | zero => exact .inl (by simpa [Nat.toDigitsCore] using h)
  | succ fuel ih =>
    rw [Nat.toDigitsCore] at h
    split at h
    · rcases List.mem_cons.mp h with h | h
      · exact .inr ⟨_, h⟩
      · exact .inl h
    · rcases ih h with h | h
      · rcases List.mem_cons.mp h with h | h
        · exact .inr ⟨_, h⟩
        · exact .inl h
      · exact .inr h

theorem digitChar_ne_lineFeed (n : Nat) : Nat.digitChar n ≠ '\n' := by
  rcases Nat.lt_or_ge n 16 with h | h
  · revert n; decide
  · rw [Nat.digitChar_eq_star.mpr h]; decide

theorem lineFeed_notMem_toDigits (base n : Nat) : '\n' ∉ Nat.toDigits base n := fun h =>
  match mem_toDigitsCore h with
  | .inl h => nomatch h
  | .inr ⟨m, hm⟩ => digitChar_ne_lineFeed m hm.symm

/-- No character is a line feed between quotes, not even the line feed. -/
theorem lineFeed_notMem_quotedChar (c : Char) : '\n' ∉ quotedChar c := by
  unfold quotedChar
  split
  · decide
  · split
    · decide
    · split
      · decide
      · split
        · decide
        · split
          · decide
          · split
            · decide
            · split
              · simp [codeEscape, lineFeed_notMem_toDigits]
              · next h _ _ _ _ => simpa [eq_comm] using h

/-- Quoting leaves no line feed. -/
theorem quoted_single_line (t : Text) : '\n' ∉ quoted t := by
  simp [quoted, lineFeed_notMem_quotedChar]

end DirPicker.Text
