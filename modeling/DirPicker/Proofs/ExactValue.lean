import DirPicker.Double
import Mathlib.Algebra.Order.Field.Power
import Mathlib.Algebra.Order.Ring.Abs
import Mathlib.Data.Rat.Cast.Order
import Mathlib.Tactic.FieldSimp
import Mathlib.Tactic.Linarith
import Mathlib.Tactic.Positivity
import Mathlib.Tactic.Ring

/-!
# What a floating-point number is exactly

`Double.value` reads the fields of a finite number as a rational number: the fraction behind a
binary point, behind a one unless the exponent is zero, and moved by the exponent. Comparing and
rounding are arithmetic on natural numbers, and are about this value:

    compare?_eq : x.isFinite = true → y.isFinite = true →
      x.compare? y = some (compare x.value y.value)
    roundsTo_value (x : Double) : RoundsTo x.value x.rounded

`RoundsTo` says what the nearest integer is, an even one where two are equally near. There is only
one, and none that is smaller for a greater number.
-/

namespace DirPicker

/-- `RoundsTo q n`: no integer is nearer to `q` than `n`, and `n` is even if another one is as
near. -/
structure RoundsTo (q : ℚ) (n : ℤ) : Prop where
  nearest : ∀ m : ℤ, |q - n| ≤ |q - m|
  even : ∀ m : ℤ, m ≠ n → |q - m| = |q - n| → Even n

namespace RoundsTo

section

variable {q a b : ℚ}

/-- What is nearer to the greater of two numbers is not below the middle between them. -/
theorem add_le_two_mul_of_nearer (hab : a < b) (h : |q - b| ≤ |q - a|) : a + b ≤ 2 * q := by
  rcases abs_cases (q - a) with ha | ha <;> rcases abs_cases (q - b) with hb | hb <;> linarith

/-- What is nearer to the smaller of two numbers is not above the middle between them. -/
theorem two_mul_le_add_of_nearer (hab : a < b) (h : |q - a| ≤ |q - b|) : 2 * q ≤ a + b := by
  rcases abs_cases (q - a) with ha | ha <;> rcases abs_cases (q - b) with hb | hb <;> linarith

end

variable {q r : ℚ} {n m : ℤ}

/-- Two integers are at least one unit apart, by way of any number. -/
theorem one_le_abs_add_abs (q : ℚ) (h : m ≠ n) : 1 ≤ |q - n| + |q - m| := by
  have hone : (1 : ℚ) ≤ |(m : ℚ) - n| := by
    have hint : 1 ≤ |m - n| := Int.one_le_abs (sub_ne_zero.mpr h)
    exact_mod_cast hint
  calc (1 : ℚ) ≤ |(m : ℚ) - n| := hone
    _ = |(q - n) - (q - m)| := by congr 1; ring
    _ ≤ |q - n| + |q - m| := abs_sub _ _

/-- An integer at most half a unit away, and even if it is so far away, is what is rounded to. -/
theorem of_half (hnear : |q - n| ≤ 1 / 2) (heven : |q - n| = 1 / 2 → Even n) : RoundsTo q n := by
  constructor
  · intro m
    by_cases hm : m = n
    · rw [hm]
    · have hone := one_le_abs_add_abs q hm
      linarith
  · intro m hm htie
    apply heven
    have hone := one_le_abs_add_abs q hm
    linarith

theorem le (h : RoundsTo q n) (h' : RoundsTo q m) : n ≤ m := by
  by_contra hlt
  rw [not_le] at hlt
  have hless : (m : ℚ) < n := by exact_mod_cast hlt
  -- Both are as near, so that the number is in the middle and both are even ...
  have htie : |q - m| = |q - n| := le_antisymm (h'.nearest n) (h.nearest m)
  have hneven : Even n := h.even m hlt.ne htie
  have hmeven : Even m := h'.even n hlt.ne' htie.symm
  have habove := add_le_two_mul_of_nearer hless (h.nearest m)
  have hbelow := two_mul_le_add_of_nearer hless (h'.nearest n)
  -- ... and there is an integer between them that is nearer.
  have htwo : (m : ℚ) + 2 ≤ n := by
    have hint : m + 2 ≤ n := by
      obtain ⟨a, rfl⟩ := hneven
      obtain ⟨b, rfl⟩ := hmeven
      omega
    exact_mod_cast hint
  have hnearer := h.nearest (m + 1)
  push_cast at hnearer
  rw [abs_of_nonpos (by linarith), abs_of_nonneg (by linarith)] at hnearer
  linarith

/-- A number rounds to one integer only, since of two equally near ones one is odd. -/
theorem unique (h : RoundsTo q n) (h' : RoundsTo q m) : n = m :=
  le_antisymm (h.le h') (h'.le h)

/-- The greater number is not rounded to a smaller integer. -/
theorem mono (h : RoundsTo q n) (h' : RoundsTo r m) (hqr : q ≤ r) : n ≤ m := by
  by_contra hlt
  rw [not_le] at hlt
  have hless : (m : ℚ) < n := by exact_mod_cast hlt
  -- In the wrong order they leave both numbers in the middle between them.
  have hq := add_le_two_mul_of_nearer hless (h.nearest m)
  have hr := two_mul_le_add_of_nearer hless (h'.nearest n)
  obtain rfl : q = r := by linarith
  exact absurd (h.le h') (not_le.mpr hlt)

/-- Rounding is the same on both sides of zero. -/
theorem neg (h : RoundsTo q n) : RoundsTo (-q) (-n) := by
  have hflip : ∀ m : ℤ, |-q - m| = |q - (-m : ℤ)| := by
    intro m
    rw [← abs_neg]
    congr 1
    push_cast
    ring
  constructor
  · intro m
    rw [hflip, hflip, neg_neg]
    exact h.nearest (-m)
  · intro m hm htie
    rw [hflip, hflip, neg_neg] at htie
    rw [even_neg]
    apply h.even (-m) _ htie
    intro heq
    exact hm (by omega)

end RoundsTo

/-! ### Rounding a quotient -/

section

variable {num den : Nat}

/-- An odd number of halves leaves half the divisor. -/
theorem two_mul_mod_of_odd {k : Nat} (h : 2 * num = (2 * k + 1) * den) (hden : 0 < den) :
    2 * (num % den) = den := by
  have hquotient : num / den = k := by
    apply Nat.div_eq_of_lt_le
    · linarith
    · linarith
  have hsplit := Nat.div_add_mod num den
  rw [hquotient] at hsplit
  linarith

/-- A number halfway between two integers is rounded to an even one. -/
theorem even_roundDiv_of_halfway (hden : 0 < den)
    (h : 2 * num = (2 * roundDiv num den + 1) * den ∨
      2 * num + den = 2 * roundDiv num den * den) : Even (roundDiv num den) := by
  -- Whether the tie lies above or below, the remainder is half the divisor.
  have htie : 2 * (num % den) = den := by
    rcases h with habove | hbelow
    · exact two_mul_mod_of_odd habove hden
    · cases hr : roundDiv num den with
      | zero =>
        rw [hr] at hbelow
        omega
      | succ k =>
        rw [hr] at hbelow
        exact two_mul_mod_of_odd (k := k) (by linarith) hden
  exact Nat.even_iff.mpr (roundDiv_even_of_tie htie)

/-- `roundDiv` rounds the exact quotient. -/
theorem roundsTo_roundDiv (num : Nat) (hden : 0 < den) :
    RoundsTo ((num : ℚ) / den) (roundDiv num den : Nat) := by
  have hpos : (0 : ℚ) < den := by exact_mod_cast hden
  -- The quotient in integers is within half of the exact one, first times the divisor.
  have hle : 2 * ((roundDiv num den : ℚ) * den) ≤ 2 * num + den := by
    exact_mod_cast two_mul_roundDiv_mul_le
  have hge : (2 * num : ℚ) ≤ 2 * (roundDiv num den * den) + den := by
    exact_mod_cast two_mul_le_roundDiv_mul hden
  have hexact : (num : ℚ) = num / den * den := by field_simp
  generalize (num : ℚ) / den = q at hexact
  rw [hexact] at hle hge
  apply RoundsTo.of_half
  · rw [Int.cast_natCast, abs_le]
    constructor <;> nlinarith
  · intro hhalf
    rw [Int.cast_natCast] at hhalf
    rw [Int.even_coe_nat]
    apply even_roundDiv_of_halfway hden
    rcases eq_or_eq_neg_of_abs_eq hhalf with habove | hbelow
    · left
      have hq : (2 * num : ℚ) = (2 * roundDiv num den + 1) * den := by
        rw [hexact, show q = roundDiv num den + 1 / 2 by linarith]
        ring
      exact_mod_cast hq
    · right
      have hq : (2 * num + den : ℚ) = 2 * roundDiv num den * den := by
        rw [hexact, show q = roundDiv num den - 1 / 2 by linarith]
        ring
      exact_mod_cast hq

end

namespace Double

/-! ### The value and the units -/

/-- The exact value of a finite number, as the fields of its bits give it. -/
def value (x : Double) : ℚ :=
  let exponent : Nat := x.magnitude / 2 ^ 52
  let fraction : ℚ := (x.magnitude % 2 ^ 52 : Nat) / 2 ^ 52
  (if x.negative then -1 else 1) *
    if exponent = 0 then fraction * 2 ^ (-1022 : ℤ)
    else (1 + fraction) * 2 ^ ((exponent : ℤ) - 1023)

/-- The units, below zero if the sign bit is set. -/
def signedUnits (x : Double) : ℤ := if x.negative then -x.units else x.units

/-- The nearest integer, an even one where two are equally near. -/
def rounded (x : Double) : ℤ :=
  if x.negative then -(roundDiv x.units unitsPerOne : Nat) else (roundDiv x.units unitsPerOne : Nat)

theorem unitsPerOne_pos : 0 < unitsPerOne := by decide +kernel

theorem unitsPerOne_eq : unitsPerOne = 2 ^ 52 * 2 ^ 1022 := by decide +kernel

section

variable {x y : Double}

theorem units_eq (x : Double) :
    x.units = if x.magnitude / 2 ^ 52 = 0 then x.magnitude % 2 ^ 52
      else (2 ^ 52 + x.magnitude % 2 ^ 52) * 2 ^ (x.magnitude / 2 ^ 52 - 1) := rfl

/-- The fields of the bits and the units tell the same value. -/
theorem value_eq (x : Double) : x.value = x.signedUnits / unitsPerOne := by
  have hsign : (x.signedUnits : ℚ) = (if x.negative then -1 else 1) * x.units := by
    unfold signedUnits
    split <;> simp
  rw [hsign, mul_div_assoc, value, unitsPerOne_eq, Nat.cast_mul, Nat.cast_pow, Nat.cast_pow,
    Nat.cast_ofNat, units_eq]
  congr 1
  generalize x.magnitude % 2 ^ 52 = fraction
  -- Without an exponent there is no leading one, and the unit is that of the exponent 1.
  cases x.magnitude / 2 ^ 52 with
  | zero =>
    rw [if_pos rfl, if_pos rfl, zpow_neg, div_mul_eq_div_div, ← div_eq_mul_inv]
    norm_cast
  | succ exponent =>
    have hshift : ((exponent + 1 : Nat) : ℤ) - 1023 = (exponent : ℤ) - (1022 : Nat) := by
      push_cast
      ring
    rw [if_neg (Nat.succ_ne_zero _), if_neg (Nat.succ_ne_zero _), hshift, zpow_sub₀ (by norm_num),
      zpow_natCast, zpow_natCast, Nat.add_sub_cancel]
    field_simp
    norm_num

/-- The nearest integer is what the exact value is rounded to. -/
theorem roundsTo_value (x : Double) : RoundsTo x.value x.rounded := by
  have hunits := roundsTo_roundDiv x.units unitsPerOne_pos
  rw [value_eq, signedUnits, rounded]
  cases x.negative with
  | true =>
    rw [if_pos rfl, if_pos rfl, Int.cast_neg, Int.cast_natCast, neg_div]
    exact hunits.neg
  | false =>
    rw [if_neg Bool.false_ne_true, if_neg Bool.false_ne_true, Int.cast_natCast]
    exact hunits

/-! ### The order of values -/

/-- The numbers with one exponent end where those with the next one begin. -/
theorem units_lt (x : Double) : x.units < 2 ^ 52 * 2 ^ (x.magnitude / 2 ^ 52) := by
  have hfraction : x.magnitude % 2 ^ 52 < 2 ^ 52 := Nat.mod_lt _ (by decide)
  rw [units_eq]
  cases x.magnitude / 2 ^ 52 with
  | zero => simpa using hfraction
  | succ exponent =>
    rw [if_neg (Nat.succ_ne_zero _), Nat.add_sub_cancel]
    calc (2 ^ 52 + x.magnitude % 2 ^ 52) * 2 ^ exponent
        < (2 ^ 52 + 2 ^ 52) * 2 ^ exponent :=
          Nat.mul_lt_mul_of_pos_right (by omega) (Nat.two_pow_pos _)
      _ = 2 ^ 52 * 2 ^ (exponent + 1) := by ring

/-- The leading one counts for as much as all numbers with smaller exponents. -/
theorem le_units (h : x.magnitude / 2 ^ 52 ≠ 0) :
    2 ^ 52 * 2 ^ (x.magnitude / 2 ^ 52 - 1) ≤ x.units := by
  rw [units_eq, if_neg h]
  exact Nat.mul_le_mul_right _ (Nat.le_add_right _ _)

/-- Greater bits, more units. -/
theorem units_lt_units (h : x.magnitude < y.magnitude) : x.units < y.units := by
  have hexponent : x.magnitude / 2 ^ 52 ≤ y.magnitude / 2 ^ 52 := Nat.div_le_div_right h.le
  -- Either the exponent is greater, or it is the same and the fraction is greater.
  rcases hexponent.lt_or_eq with hlt | heq
  · calc x.units < 2 ^ 52 * 2 ^ (x.magnitude / 2 ^ 52) := x.units_lt
      _ ≤ 2 ^ 52 * 2 ^ (y.magnitude / 2 ^ 52 - 1) :=
        Nat.mul_le_mul_left _ (Nat.pow_le_pow_right (by decide) (by omega))
      _ ≤ y.units := le_units (by omega)
  · have hfraction : x.magnitude % 2 ^ 52 < y.magnitude % 2 ^ 52 := by omega
    rw [units_eq, units_eq, heq]
    split
    · exact hfraction
    · exact Nat.mul_lt_mul_of_pos_right (by omega) (Nat.two_pow_pos _)

theorem units_eq_zero (h : x.magnitude = 0) : x.units = 0 := by
  simp [units_eq, h]

theorem units_pos (h : 0 < x.magnitude) : 0 < x.units := by
  have hzero : (⟨0⟩ : Double).magnitude = 0 := by decide
  exact Nat.zero_lt_of_lt (units_lt_units (x := ⟨0⟩) (by rwa [hzero]))

/-- The units grow with the key. -/
theorem signedUnits_lt (h : x.key < y.key) : x.signedUnits < y.signedUnits := by
  have hup : x.magnitude < y.magnitude → x.units < y.units := units_lt_units
  have hdown : y.magnitude < x.magnitude → y.units < x.units := units_lt_units
  have hx : 0 < x.magnitude → 0 < x.units := units_pos
  have hy : 0 < y.magnitude → 0 < y.units := units_pos
  cases hxsign : x.negative <;> cases hysign : y.negative <;>
    simp only [key, signedUnits, hxsign, hysign, if_true, Bool.false_eq_true, if_false] at h ⊢ <;>
    omega

theorem signedUnits_eq (h : x.key = y.key) : x.signedUnits = y.signedUnits := by
  have hsame : x.magnitude = y.magnitude → x.units = y.units := by
    intro h
    rw [units_eq, units_eq, h]
  have hx : x.magnitude = 0 → x.units = 0 := units_eq_zero
  have hy : y.magnitude = 0 → y.units = 0 := units_eq_zero
  cases hxsign : x.negative <;> cases hysign : y.negative <;>
    simp only [key, signedUnits, hxsign, hysign, if_true, Bool.false_eq_true, if_false] at h ⊢ <;>
    omega

theorem value_lt (h : x.key < y.key) : x.value < y.value := by
  have hpos : (0 : ℚ) < unitsPerOne := by exact_mod_cast unitsPerOne_pos
  rw [value_eq, value_eq]
  exact div_lt_div_of_pos_right (by exact_mod_cast signedUnits_lt h) hpos

/-- Doubles are ordered as their exact values are. -/
theorem compare_key (x y : Double) : compare x.key y.key = compare x.value y.value := by
  rcases lt_trichotomy x.key y.key with h | h | h
  · rw [compare_lt_iff_lt.mpr h, compare_lt_iff_lt.mpr (value_lt h)]
  · rw [compare_eq_iff_eq.mpr h, compare_eq_iff_eq.mpr]
    rw [value_eq, value_eq, signedUnits_eq h]
  · rw [compare_gt_iff_gt.mpr h, compare_gt_iff_gt.mpr (value_lt h)]

theorem isNaN_of_isFinite (h : x.isFinite = true) : x.isNaN = false := by
  simp only [isFinite, isNaN, decide_eq_true_eq, decide_eq_false_iff_not] at *
  omega

/-- Finite numbers are compared by their exact values. -/
theorem compare?_eq (hx : x.isFinite = true) (hy : y.isFinite = true) :
    x.compare? y = some (compare x.value y.value) := by
  rw [compare?, isNaN_of_isFinite hx, isNaN_of_isFinite hy, ← compare_key]
  rfl

end

end Double

end DirPicker
