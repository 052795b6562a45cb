import DirPicker.Proofs.ExactValue
import DirPicker.Proofs.Numeral
import DirPicker.Score
import Mathlib.Tactic.IntervalCases
import Mathlib.Tactic.NormNum

/-!
# The number in a score cell

A rank is shown as the integer that its exact value is rounded to (`RoundsTo`). `Shows` says without
computing what stands in a cell that shows an integer: its numeral without leading zeros, a minus
sign, also in front of a zero, and blanks up to three characters,

    shows_cell : x.isFinite = true → Shows (ranked x).cell x.negative x.rounded

A cell shows one integer only (`Shows.unique`), so that it makes sense to compare the integers
shown: a greater rank never shows a smaller one, though it may well show the same.
-/

namespace DirPicker

/-- `Text.Writes digits n`: the digits are the decimal numeral of `n`, with no zero in front. -/
structure Text.Writes (digits : Text) (n : Nat) : Prop where
  isDigit : Double.Digits digits
  ne_nil : digits ≠ []
  value : Text.digitsValue digits = n
  plain : digits.head? = some '0' → digits = ['0']

namespace Text

/-! ### Numerals -/

theorem head?_ofNat {n : Nat} (h : 0 < n) : (ofNat n).head? ≠ some '0' := by
  -- The last digit comes off the end, and what is left of the number is not zero either.
  induction n using Nat.strongRecOn with
  | _ n ih =>
    rw [ofNat, Nat.toDigits_eq_if (by decide)]
    split
    · next hsmall => interval_cases n <;> decide
    · next hlarge =>
      rw [List.head?_append_of_ne_nil _ Nat.toDigits_ne_nil]
      exact ih (n / 10) (by omega) (by omega)

theorem writes_ofNat (n : Nat) : Writes (ofNat n) n where
  isDigit _ hc := Nat.isDigit_of_mem_toDigits (by decide) (by decide) hc
  ne_nil := Nat.toDigits_ne_nil
  value := Nat.ofDigitChars_toDigits (by decide) (by decide)
  plain hzero := by
    rcases Nat.eq_zero_or_pos n with rfl | hpos
    · rfl
    · exact absurd hzero (head?_ofNat hpos)

/-- A numeral has nothing but digits in it. -/
theorem Writes.notMem {digits : Text} {n : Nat} (h : Writes digits n) {c : Char}
    (hc : c.isDigit = false) : c ∉ digits := by
  intro hmem
  rw [h.isDigit c hmem] at hc
  cases hc

end Text

namespace Score

/-- `Shows cell negative n`: the cell is the numeral of `n`, with a minus sign if `negative`, and
blanks in front up to three characters. -/
inductive Shows : (cell : Text) → (negative : Bool) → (n : ℤ) → Prop
  | plain {blanks digits n} : Text.Writes digits n →
      blanks + digits.length = max 3 digits.length →
      Shows (List.replicate blanks ' ' ++ digits) false n
  | signed {blanks digits n} : Text.Writes digits n →
      blanks + ('-' :: digits).length = max 3 ('-' :: digits).length →
      Shows (List.replicate blanks ' ' ++ '-' :: digits) true (-n)

/-! ### Cells are read in one way -/

section

variable {cell : Text} {negative negative' : Bool} {n n' : ℤ}

theorem dropWhile_blanks (blanks : Nat) {body : Text} (h : ' ' ∉ body) :
    (List.replicate blanks ' ' ++ body).dropWhile (· = ' ') = body := by
  rw [List.dropWhile_append_of_pos (by simp)]
  cases body with
  | nil => rfl
  | cons c body =>
    rw [List.mem_cons, not_or] at h
    simp [Ne.symm h.1]

/-- What stands behind the blanks of a cell. -/
theorem Shows.behind_blanks (h : Shows cell negative n) :
    ∃ digits m, Text.Writes digits m ∧
      cell.dropWhile (· = ' ') = (if negative then '-' :: digits else digits) ∧
      n = if negative then -(m : ℤ) else m := by
  cases h with
  | @plain blanks digits m hwrites _ =>
    exact ⟨digits, m, hwrites, dropWhile_blanks blanks (hwrites.notMem rfl), rfl⟩
  | @signed blanks digits m hwrites _ =>
    have hblank : ' ' ∉ '-' :: digits := by
      rw [List.mem_cons, not_or]
      exact ⟨by decide, hwrites.notMem rfl⟩
    exact ⟨digits, m, hwrites, dropWhile_blanks blanks hblank, rfl⟩

/-- A cell shows one sign and one number only. -/
theorem Shows.unique (h : Shows cell negative n) (h' : Shows cell negative' n') :
    negative = negative' ∧ n = n' := by
  obtain ⟨digits, m, hwrites, hread, rfl⟩ := h.behind_blanks
  obtain ⟨digits', m', hwrites', hread', rfl⟩ := h'.behind_blanks
  rw [hread] at hread'
  -- The minus sign is no digit, so that it stands in both cells or in none.
  cases negative <;> cases negative'
  · have hdigits : digits = digits' := hread'
    exact ⟨rfl, by rw [← hwrites.value, ← hwrites'.value, hdigits]⟩
  · have hdigits : digits = '-' :: digits' := hread'
    exact absurd (hdigits ▸ List.mem_cons_self) (hwrites.notMem (c := '-') rfl)
  · have hdigits : '-' :: digits = digits' := hread'
    exact absurd (hdigits ▸ List.mem_cons_self) (hwrites'.notMem (c := '-') rfl)
  · have hdigits : digits = digits' := (List.cons.inj hread').2
    exact ⟨rfl, by rw [← hwrites.value, ← hwrites'.value, hdigits]⟩

end

/-! ### The cell of a rank -/

section

variable {x : Double}

theorem whole_of_isFinite (h : x.isFinite = true) :
    x.whole = (if x.negative then ['-'] else []) ++
      Text.ofNat (roundDiv x.units Double.unitsPerOne) := by
  simp [Double.whole, h, Double.isNaN_of_isFinite h]

/-- The cell of a finite score shows what it rounds to. -/
theorem shows_cell (h : x.isFinite = true) : Shows (ranked x).cell x.negative x.rounded := by
  have hwrites := Text.writes_ofNat (roundDiv x.units Double.unitsPerOne)
  rw [cell, padLeft, whole_of_isFinite h, Double.rounded]
  cases x.negative with
  | false => exact .plain hwrites (by simp [cellWidth]; omega)
  | true => exact .signed hwrites (by simp [cellWidth]; omega)

end

/-- A finite rank. Its cell shows the one integer that its exact value is rounded to, with a minus
sign exactly if the sign bit is set. Another finite rank is compared with it by their exact values,
and where it is not less its cell does not show a smaller integer. -/
theorem cell_rounds {x : Double} (hx : x.isFinite = true) :
    (∃ n, RoundsTo x.value n ∧ (∀ m, RoundsTo x.value m → m = n) ∧
      Shows (ranked x).cell x.negative n) ∧
    ∀ y : Double, y.isFinite = true →
      x.compare? y = some (compare x.value y.value) ∧
      ∀ negative negative' n m, Shows (ranked x).cell negative n →
        Shows (ranked y).cell negative' m → x.value ≤ y.value → n ≤ m := by
  have hround := x.roundsTo_value
  refine ⟨⟨x.rounded, hround, fun m hm => hm.unique hround, shows_cell hx⟩, ?_⟩
  intro y hy
  refine ⟨Double.compare?_eq hx hy, ?_⟩
  intro negative negative' n m hn hm hle
  obtain ⟨-, rfl⟩ := hn.unique (shows_cell hx)
  obtain ⟨-, rfl⟩ := hm.unique (shows_cell hy)
  exact hround.mono y.roundsTo_value hle

/-- Two and a half below zero is rounded to the even integer, and a quarter below zero to a zero
with a minus sign. -/
theorem cell_rounds_of_tie :
    let x : Double := ⟨0xC004000000000000⟩
    let y : Double := ⟨0xBFD0000000000000⟩
    x.isFinite = true ∧ y.isFinite = true ∧ x.value = -5 / 2 ∧ y.value = -1 / 4 ∧
      (ranked x).cell = [' ', '-', '2'] ∧ (ranked y).cell = [' ', '-', '0'] ∧
      RoundsTo (-5 / 2) (-2) ∧ (-2 : ℤ) ≤ 0 := by
  intro x y
  have hx : x.isFinite = true := by decide
  have hy : y.isFinite = true := by decide
  have hxvalue : x.value = -5 / 2 := by decide +kernel
  have hyvalue : y.value = -1 / 4 := by decide +kernel
  have hxcell : (ranked x).cell = [' ', '-', '2'] := by decide +kernel
  have hycell : (ranked y).cell = [' ', '-', '0'] := by decide +kernel
  have hxshows : Shows (ranked x).cell true (-2) := by
    rw [hxcell]
    exact @Shows.signed 1 ['2'] 2 (Text.writes_ofNat 2) (by decide)
  have hyshows : Shows (ranked y).cell true 0 := by
    rw [hycell]
    exact @Shows.signed 1 ['0'] 0 (Text.writes_ofNat 0) (by decide)
  obtain ⟨⟨n, hround, -, hn⟩, hmono⟩ := cell_rounds hx
  obtain ⟨-, rfl⟩ := hn.unique hxshows
  obtain ⟨-, hle⟩ := hmono y hy
  rw [hxvalue] at hround
  refine ⟨hx, hy, hxvalue, hyvalue, hxcell, hycell, hround, ?_⟩
  exact hle _ _ _ _ hxshows hyshows (by rw [hxvalue, hyvalue]; norm_num)

end Score

end DirPicker
