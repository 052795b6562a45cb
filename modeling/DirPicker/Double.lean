import DirPicker.Text.Digits

/-!
# Floating-point numbers

A `Double` is a binary floating-point number of 64 bits, held as its bits. A finite one is a whole
number of units of 2⁻¹⁰⁷⁴ (`Double.units`) with a sign, so that comparing and rounding are exact
arithmetic on natural numbers.

`Double.read?` reads decimal notation and gives the nearest double, a tie going to the one with an
even last bit; `Double.whole` writes the nearest integer, a tie going to the even one. Both round
by `roundDiv`, about which the lemmas here say that it is within half a unit.
-/

namespace DirPicker

/-- A binary floating-point number: its sign, eleven bits of exponent and 52 of fraction. -/
structure Double where
  bits : UInt64
deriving DecidableEq, Repr, Inhabited

/-- `num / den` rounded to the nearest integer, a tie going to the even one. -/
def roundDiv (num den : Nat) : Nat :=
  let q := num / den
  let twice := 2 * (num % den)
  if twice > den ∨ (twice = den ∧ q % 2 = 1) then q + 1 else q

/-- The rounded quotient is at most half a unit above the exact one. -/
theorem two_mul_roundDiv_mul_le {num den : Nat} :
    2 * (roundDiv num den * den) ≤ 2 * num + den := by
  have h := Nat.div_add_mod num den
  have h' : num / den * den = den * (num / den) := Nat.mul_comm _ _
  unfold roundDiv
  simp only
  split
  · rw [Nat.add_mul, Nat.one_mul, h']; omega
  · rw [h']; omega

/-- The rounded quotient is at most half a unit below the exact one. -/
theorem two_mul_le_roundDiv_mul {num den : Nat} (hden : 0 < den) :
    2 * num ≤ 2 * (roundDiv num den * den) + den := by
  have h := Nat.div_add_mod num den
  have hlt := Nat.mod_lt num hden
  have h' : num / den * den = den * (num / den) := Nat.mul_comm _ _
  unfold roundDiv
  simp only
  split
  · rw [Nat.add_mul, Nat.one_mul, h']; omega
  · next hn => rw [h']; omega

/-- A tie goes to the even integer. -/
theorem roundDiv_even_of_tie {num den : Nat} (h : 2 * (num % den) = den) :
    roundDiv num den % 2 = 0 := by
  unfold roundDiv
  simp only [h, gt_iff_lt, Nat.lt_irrefl, true_and, false_or]
  split <;> omega

namespace Double

def negative (x : Double) : Bool := x.bits.toNat / Nat.pow 2 63 = 1

/-- The bits without the sign. Among numbers of one sign they grow with the magnitude. -/
def magnitude (x : Double) : Nat := x.bits.toNat % Nat.pow 2 63

def infinityBits : Nat := 0x7FF * Nat.pow 2 52

def isNaN (x : Double) : Bool := x.magnitude > infinityBits

def isFinite (x : Double) : Bool := x.magnitude < infinityBits

/-- The magnitude of a finite number in units of 2⁻¹⁰⁷⁴. The fraction has a leading one in front
of it unless the exponent is zero. -/
def units (x : Double) : Nat :=
  let exponent := x.magnitude / Nat.pow 2 52
  let fraction := x.magnitude % Nat.pow 2 52
  if exponent = 0 then fraction else (Nat.pow 2 52 + fraction) * Nat.pow 2 (exponent - 1)

/-- How many units of 2⁻¹⁰⁷⁴ there are in one. -/
def unitsPerOne : Nat := Nat.pow 2 1074

/-! ### Order -/

/-- A number that orders doubles other than NaN; both zeros have the same. -/
def key (x : Double) : Int := if x.negative then -(x.magnitude : Int) else x.magnitude

/-- How two doubles compare; not at all if one is NaN. -/
def compare? (x y : Double) : Option Ordering :=
  if x.isNaN || y.isNaN then none else some (compare x.key y.key)

def equal (x y : Double) : Bool := x.compare? y = some .eq

/-! ### Writing -/

/-- The nearest integer in decimal notation, with a minus sign if the sign bit is set. -/
def whole (x : Double) : Text :=
  let sign : Text := if x.negative then ['-'] else []
  if x.isNaN then ['N', 'a', 'N']
  else if x.isFinite then sign ++ Text.ofNat (roundDiv x.units unitsPerOne)
  else sign ++ ['i', 'n', 'f']

/-! ### Reading -/

def ofMagnitude (negative : Bool) (magnitude : Nat) : Double :=
  ⟨.ofNat ((if negative then Nat.pow 2 63 else 0) + magnitude)⟩

/-- The magnitude bits of the double nearest to `num / den`: the quotient is rounded to 53
significant bits, or to whole units when it has fewer. -/
def nearestMagnitude (num den : Nat) : Nat :=
  let scaled := num * unitsPerOne
  let shift := (scaled / den).log2 + 1 - 53
  min infinityBits (shift * Nat.pow 2 52 + roundDiv scaled (den * Nat.pow 2 shift))

/-- A number in decimal notation: `digits · 10 ^ exponent`. -/
structure Decimal where
  negative : Bool
  digits : Nat
  exponent : Int
deriving DecidableEq, Repr

/-- The double nearest to a decimal number. Powers of ten beyond the range of doubles are cut
short: what is left of them is still infinite, or still zero. -/
def Decimal.nearest (d : Decimal) : Double :=
  let length := (Nat.toDigits 10 d.digits).length
  let magnitude :=
    if d.digits = 0 then 0
    else if d.exponent + length > 400 then infinityBits
    else if d.exponent + length < -400 then 0
    else if d.exponent ≥ 0 then nearestMagnitude (d.digits * Nat.pow 10 d.exponent.toNat) 1
    else nearestMagnitude d.digits (Nat.pow 10 (-d.exponent).toNat)
  ofMagnitude d.negative magnitude

/-- The exponent that ends a decimal number: nothing, or a letter, a sign and digits. -/
def readExponent? : Text → Option Int
  | [] => some 0
  | c :: t =>
    if c = 'e' || c = 'E' then
      let (negative, digits) : Bool × Text :=
        match t with
        | '-' :: t => (true, t)
        | '+' :: t => (false, t)
        | t => (false, t)
      if !digits.isEmpty && digits.all Char.isDigit then
        some (if negative then -(Text.digitsValue digits : Int) else Text.digitsValue digits)
      else none
    else none

/-- Digits with at most one point among them, at least one digit, and an exponent. -/
def readDecimal? (negative : Bool) (t : Text) : Option Decimal :=
  let whole := t.takeWhile Char.isDigit
  let rest := t.dropWhile Char.isDigit
  let (fraction, rest) : Text × Text :=
    match rest with
    | '.' :: rest => (rest.takeWhile Char.isDigit, rest.dropWhile Char.isDigit)
    | rest => ([], rest)
  if whole.isEmpty && fraction.isEmpty then none
  else (readExponent? rest).map fun exponent =>
    ⟨negative, Text.digitsValue (whole ++ fraction), exponent - fraction.length⟩

/-- The number a text denotes: a decimal number, or one of the words for what is not finite, in
any case, each after an optional sign. -/
def read? (t : Text) : Option Double :=
  let (negative, body) : Bool × Text :=
    match t with
    | '-' :: t => (true, t)
    | '+' :: t => (false, t)
    | t => (false, t)
  let word := body.map Char.toLower
  if word = "inf".toList || word = "infinity".toList then some (ofMagnitude negative infinityBits)
  else if word = "nan".toList then some (ofMagnitude negative (infinityBits + Nat.pow 2 51))
  else (readDecimal? negative body).map Decimal.nearest

end Double

end DirPicker
