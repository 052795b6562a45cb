import DirPicker.CharSet

/-!
# White space

The characters that separate words in any script: the ASCII blanks, the next-line control, the
no-break and typographic spaces, and the separators of lines and paragraphs.
-/

namespace DirPicker.Unicode

def whiteSpace : CharSet :=
  ⟨[(0x9, 0xD), (0x20, 0x20), (0x85, 0x85), (0xA0, 0xA0), (0x1680, 0x1680), (0x2000, 0x200A),
    (0x2028, 0x2029), (0x202F, 0x202F), (0x205F, 0x205F), (0x3000, 0x3000)]⟩

def isSpace (c : Char) : Bool := whiteSpace.contains c

def trimStart (t : Text) : Text := t.dropWhile isSpace

def trim (t : Text) : Text := (trimStart (trimStart t).reverse).reverse

/-- What is left after trimming starts with no white space. -/
theorem isSpace_eq_false_of_trimStart {t : Text} {c : Char} {r : Text}
    (h : trimStart t = c :: r) : isSpace c = false := by
  have := List.head?_dropWhile_not isSpace t
  rw [trimStart] at h
  simpa [h] using this

end DirPicker.Unicode
