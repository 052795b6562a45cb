import DirPicker.Double

/-!
# Decimal numerals

The notation of finite numbers, as a relation: `Numeral t d` says that `t` writes the decimal number
`d`, with a sign or none, digits with a point somewhere among them or none, and an exponent or none.
The main statement is that the numerals are the texts read as finite numbers,

    read?_eq_some_iff : x.isFinite = true → (read? t = some x ↔ ∃ d, Numeral t d ∧ d.nearest = x)

and not the words for infinity and for what is no number.
-/

namespace DirPicker.Double

/-- A sign in front of a number, or none, and whether it is a minus sign. -/
inductive Sign : Text → Bool → Prop
  | none : Sign [] false
  | plus : Sign ['+'] false
  | minus : Sign ['-'] true

def Digits (t : Text) : Prop := ∀ c ∈ t, c.isDigit = true

instance (t : Text) : Decidable (Digits t) := List.decidableBAll _ t

/-- A digit or more, and the digits before and behind the point if there is one. -/
inductive Mantissa : (t whole fraction : Text) → Prop
  | whole {digits} : Digits digits → digits ≠ [] → Mantissa digits digits []
  | point {whole fraction} : Digits whole → Digits fraction → whole ++ fraction ≠ [] →
      Mantissa (whole ++ '.' :: fraction) whole fraction

/-- The exponent at the end of a number, or none, and its value. -/
inductive Exponent : Text → Int → Prop
  | none : Exponent [] 0
  | some {letter sign negative digits} : letter = 'e' ∨ letter = 'E' → Sign sign negative →
      Digits digits → digits ≠ [] →
      Exponent (letter :: (sign ++ digits))
        (if negative then -(Text.digitsValue digits : Int) else Text.digitsValue digits)

/-- `Numeral t d`: the text `t` writes the decimal number `d`. -/
inductive Numeral : Text → Decimal → Prop
  | mk {sign negative mantissa whole fraction exponent value} : Sign sign negative →
      Mantissa mantissa whole fraction → Exponent exponent value →
      Numeral (sign ++ (mantissa ++ exponent))
        ⟨negative, Text.digitsValue (whole ++ fraction), value - fraction.length⟩

/-! ### Signs -/

/-- Whether a minus sign stands in front, and what follows the sign. -/
def splitSign : Text → Bool × Text
  | '-' :: t => (true, t)
  | '+' :: t => (false, t)
  | t => (false, t)

def Unsigned (t : Text) : Prop := t.head? ≠ some '-' ∧ t.head? ≠ some '+'

theorem exists_sign (t : Text) : ∃ sign, Sign sign (splitSign t).1 ∧ t = sign ++ (splitSign t).2 := by
  unfold splitSign
  split
  · exact ⟨['-'], .minus, rfl⟩
  · exact ⟨['+'], .plus, rfl⟩
  · exact ⟨[], .none, rfl⟩

/-- A sign is told from the number that follows it. -/
theorem splitSign_append {sign body : Text} {negative : Bool} (h : Sign sign negative)
    (hbody : Unsigned body) : splitSign (sign ++ body) = (negative, body) := by
  cases h with
  | plus => rfl
  | minus => rfl
  -- Without a sign the number must not be taken for one.
  | none =>
    obtain ⟨hminus, hplus⟩ := hbody
    rw [List.nil_append]
    unfold splitSign
    split <;> simp_all

/-! ### Digits -/

theorem digits_takeWhile (t : Text) : Digits (t.takeWhile Char.isDigit) := by
  intro c hc
  exact List.all_eq_true.mp List.all_takeWhile c hc

/-- What is not a digit ends the digits. -/
theorem span_digits {digits rest : Text} (h : Digits digits)
    (hrest : ∀ c ∈ rest.head?, c.isDigit = false) :
    (digits ++ rest).takeWhile Char.isDigit = digits ∧
      (digits ++ rest).dropWhile Char.isDigit = rest := by
  -- The digits cannot go on behind `digits`, so that nothing is taken from `rest`.
  have hhead : rest.takeWhile Char.isDigit = [] ∧ rest.dropWhile Char.isDigit = rest := by
    cases rest with
    | nil => exact ⟨rfl, rfl⟩
    | cons c rest =>
      have hc := hrest c rfl
      simp [hc]
  rw [List.takeWhile_append_of_pos h, List.dropWhile_append_of_pos h, hhead.1, hhead.2]
  exact ⟨List.append_nil _, rfl⟩

theorem Digits.unsigned {digits : Text} (h : Digits digits) : Unsigned digits := by
  cases digits with
  | nil => exact ⟨by simp, by simp⟩
  | cons c digits =>
    have hc := h c (by simp)
    constructor <;> rintro ⟨⟩ <;> simp at hc

/-! ### Exponents -/

theorem readExponent?_cons (letter : Char) (t : Text) :
    readExponent? (letter :: t) =
      if letter = 'e' || letter = 'E' then
        if !(splitSign t).2.isEmpty && (splitSign t).2.all Char.isDigit then
          some (if (splitSign t).1 then -(Text.digitsValue (splitSign t).2 : Int)
            else Text.digitsValue (splitSign t).2)
        else none
      else none := rfl

/-- Exponents are read as they are written, and nothing else is read as one. -/
theorem readExponent?_eq_some_iff {t : Text} {value : Int} :
    readExponent? t = some value ↔ Exponent t value := by
  constructor
  · intro h
    cases t with
    | nil =>
      obtain rfl := Option.some.inj h
      exact .none
    | cons letter t =>
      obtain ⟨sign, hsign, ht⟩ := exists_sign t
      rw [readExponent?_cons] at h
      generalize splitSign t = parts at h hsign ht
      obtain ⟨negative, digits⟩ := parts
      obtain rfl := ht
      -- The letter, the sign and the digits are checked one after another.
      split at h
      · next hletter =>
        split at h
        · next hdigits =>
          obtain rfl := Option.some.inj h
          simp only [Bool.and_eq_true, Bool.not_eq_true', List.isEmpty_eq_false_iff,
            List.all_eq_true] at hdigits
          exact .some (by simpa using hletter) hsign hdigits.2 hdigits.1
        · cases h
      · cases h
  · intro h
    cases h with
    | none => rfl
    | @some letter sign negative digits hletter hsign hdigits hne =>
      have hall : digits.all Char.isDigit = true := List.all_eq_true.mpr hdigits
      rw [readExponent?_cons, splitSign_append hsign hdigits.unsigned,
        if_pos (by simpa using hletter)]
      simp [hall, hne]

/-- An exponent begins with its letter, which is neither a digit nor a point. -/
theorem Exponent.head {t : Text} {value : Int} (h : Exponent t value) :
    ∀ c ∈ t.head?, c.isDigit = false ∧ c ≠ '.' := by
  cases h with
  | none => simp
  | some hletter =>
    rintro c ⟨⟩
    obtain rfl | rfl := hletter <;> decide

/-! ### Numbers -/

/-- The digits behind a point, if one stands in front, and what follows. -/
def splitFraction : Text → Text × Text
  | '.' :: rest => (rest.takeWhile Char.isDigit, rest.dropWhile Char.isDigit)
  | rest => ([], rest)

theorem readDecimal?_eq (negative : Bool) (t : Text) :
    readDecimal? negative t =
      if (t.takeWhile Char.isDigit).isEmpty && (splitFraction (t.dropWhile Char.isDigit)).1.isEmpty
      then none
      else (readExponent? (splitFraction (t.dropWhile Char.isDigit)).2).map fun exponent =>
        ⟨negative,
          Text.digitsValue
            (t.takeWhile Char.isDigit ++ (splitFraction (t.dropWhile Char.isDigit)).1),
          exponent - (splitFraction (t.dropWhile Char.isDigit)).1.length⟩ := rfl

theorem exists_mantissa {t fraction rest : Text}
    (h : splitFraction (t.dropWhile Char.isDigit) = (fraction, rest))
    (hne : t.takeWhile Char.isDigit ++ fraction ≠ []) :
    ∃ mantissa, Mantissa mantissa (t.takeWhile Char.isDigit) fraction ∧ t = mantissa ++ rest := by
  have hsplit := List.takeWhile_append_dropWhile (p := Char.isDigit) (l := t)
  unfold splitFraction at h
  split at h
  -- With a point, the mantissa goes on over the digits behind it.
  · next behind hpoint =>
    obtain ⟨rfl, rfl⟩ := Prod.mk.inj h
    refine ⟨_, .point (digits_takeWhile t) (digits_takeWhile behind) hne, ?_⟩
    rw [List.append_assoc, List.cons_append, List.takeWhile_append_dropWhile, ← hpoint, hsplit]
  · obtain ⟨rfl, rfl⟩ := Prod.mk.inj h
    exact ⟨_, .whole (digits_takeWhile t) (by simpa using hne), hsplit.symm⟩

/-- The digits of a mantissa are told from what follows it. -/
theorem split_mantissa {mantissa whole fraction exponent : Text} {value : Int}
    (h : Mantissa mantissa whole fraction) (hexponent : Exponent exponent value) :
    (mantissa ++ exponent).takeWhile Char.isDigit = whole ∧
      splitFraction ((mantissa ++ exponent).dropWhile Char.isDigit) = (fraction, exponent) := by
  have hdigit : ∀ c ∈ exponent.head?, c.isDigit = false := fun c hc => (hexponent.head c hc).1
  -- The letter of the exponent ends the digits, whether there is a point or not.
  cases h with
  | whole hwhole hne =>
    obtain ⟨htake, hdrop⟩ := span_digits hwhole hdigit
    refine ⟨htake, ?_⟩
    rw [hdrop]
    unfold splitFraction
    split
    · exact absurd rfl (hexponent.head '.' rfl).2
    · rfl
  | @point whole fraction hwhole hfraction hne =>
    have hpoint : ∀ c ∈ ('.' :: (fraction ++ exponent)).head?, c.isDigit = false := by
      rintro c ⟨⟩
      rfl
    obtain ⟨htake, hdrop⟩ := span_digits hwhole hpoint
    obtain ⟨hfractionTake, hfractionDrop⟩ := span_digits hfraction hdigit
    rw [List.append_assoc, List.cons_append]
    refine ⟨htake, ?_⟩
    rw [hdrop, splitFraction, hfractionTake, hfractionDrop]

/-- What is read is a mantissa and an exponent, with the value of both. -/
theorem readDecimal?_eq_some_iff {negative : Bool} {t : Text} {d : Decimal} :
    readDecimal? negative t = some d ↔
      ∃ mantissa whole fraction exponent value, Mantissa mantissa whole fraction ∧
        Exponent exponent value ∧ t = mantissa ++ exponent ∧
        d = ⟨negative, Text.digitsValue (whole ++ fraction), value - fraction.length⟩ := by
  rw [readDecimal?_eq]
  constructor
  · intro h
    cases hsplit : splitFraction (t.dropWhile Char.isDigit) with
    | mk fraction rest =>
      rw [hsplit] at h
      split at h
      · cases h
      · next hne =>
        obtain ⟨value, hvalue, rfl⟩ := Option.map_eq_some_iff.mp h
        obtain ⟨mantissa, hmantissa, ht⟩ := exists_mantissa hsplit (by simpa using hne)
        exact ⟨mantissa, _, fraction, rest, value, hmantissa,
          readExponent?_eq_some_iff.mp hvalue, ht, rfl⟩
  · rintro ⟨mantissa, whole, fraction, exponent, value, hmantissa, hexponent, rfl, rfl⟩
    obtain ⟨htake, hfraction⟩ := split_mantissa hmantissa hexponent
    -- A mantissa has a digit on one side of its point at least.
    have hne : whole ++ fraction ≠ [] := by
      cases hmantissa with
      | whole _ hne => simpa using hne
      | point _ _ hne => exact hne
    rw [htake, hfraction, if_neg (by simpa using hne), readExponent?_eq_some_iff.mpr hexponent]
    rfl

/-! ### Words -/

theorem read?_eq (t : Text) :
    read? t =
      if (splitSign t).2.map Char.toLower = "inf".toList ||
          (splitSign t).2.map Char.toLower = "infinity".toList then
        some (ofMagnitude (splitSign t).1 infinityBits)
      else if (splitSign t).2.map Char.toLower = "nan".toList then
        some (ofMagnitude (splitSign t).1 (infinityBits + Nat.pow 2 51))
      else (readDecimal? (splitSign t).1 (splitSign t).2).map Decimal.nearest := rfl

/-- The words for infinity give no finite number. -/
theorem isFinite_infinity (negative : Bool) :
    (ofMagnitude negative infinityBits).isFinite = false := by
  cases negative <;> decide +kernel

theorem isFinite_nan (negative : Bool) :
    (ofMagnitude negative (infinityBits + Nat.pow 2 51)).isFinite = false := by
  cases negative <;> decide +kernel

theorem toLower_of_isDigit {c : Char} (h : c.isDigit = true) : c.toLower = c := by
  have hlow : ¬ (c.val ≥ 'A'.val ∧ c.val ≤ 'Z'.val) := by
    simp only [Char.isDigit, Bool.and_eq_true, decide_eq_true_eq] at h
    rintro ⟨hA, -⟩
    exact absurd (UInt32.le_trans hA h.2) (by decide)
  exact dif_neg hlow

/-- A mantissa begins with a digit or a point. -/
theorem Mantissa.head {t whole fraction : Text} (h : Mantissa t whole fraction) :
    ∃ c rest, t = c :: rest ∧ (c.isDigit = true ∨ c = '.') := by
  cases h with
  | whole hdigits hne =>
    obtain ⟨c, rest, rfl⟩ := List.exists_cons_of_ne_nil hne
    exact ⟨c, rest, rfl, .inl (hdigits c (by simp))⟩
  | @point whole fraction hwhole _ _ =>
    cases whole with
    | nil => exact ⟨'.', fraction, rfl, .inr rfl⟩
    | cons c whole => exact ⟨c, _, rfl, .inl (hwhole c (by simp))⟩

/-- What a numeral begins with begins no word. -/
theorem Mantissa.map_toLower_ne {t whole fraction : Text} (h : Mantissa t whole fraction)
    (rest : Text) {first : Char} {word : Text} (hfirst : first.isDigit = false ∧ first ≠ '.') :
    (t ++ rest).map Char.toLower ≠ first :: word := by
  obtain ⟨c, behind, rfl, hc⟩ := h.head
  have hlower : c.toLower = c := by
    obtain hc | rfl := hc
    · exact toLower_of_isDigit hc
    · rfl
  rw [List.cons_append, List.map_cons, hlower]
  rintro ⟨⟩
  obtain hc | hc := hc
  · simp [hfirst.1] at hc
  · exact hfirst.2 hc

theorem Mantissa.unsigned {t whole fraction : Text} (h : Mantissa t whole fraction) (rest : Text) :
    Unsigned (t ++ rest) := by
  obtain ⟨c, behind, rfl, hc⟩ := h.head
  constructor <;> rintro ⟨⟩ <;> simp at hc

/-- The texts read as finite numbers are the numerals, each read as the nearest double. -/
theorem read?_eq_some_iff {x : Double} (hx : x.isFinite = true) {t : Text} :
    read? t = some x ↔ ∃ d, Numeral t d ∧ d.nearest = x := by
  rw [read?_eq]
  constructor
  · intro h
    obtain ⟨sign, hsign, ht⟩ := exists_sign t
    generalize splitSign t = parts at h hsign ht
    obtain ⟨negative, body⟩ := parts
    obtain rfl := ht
    -- Of what can be read, only decimal numbers are finite.
    split at h
    · obtain rfl := Option.some.inj h
      exact absurd hx (by rw [isFinite_infinity]; decide)
    · split at h
      · obtain rfl := Option.some.inj h
        exact absurd hx (by rw [isFinite_nan]; decide)
      · obtain ⟨d, hd, rfl⟩ := Option.map_eq_some_iff.mp h
        obtain ⟨mantissa, whole, fraction, exponent, value, hmantissa, hexponent, rfl, rfl⟩ :=
          readDecimal?_eq_some_iff.mp hd
        exact ⟨_, .mk hsign hmantissa hexponent, rfl⟩
  · rintro ⟨_, @⟨sign, negative, mantissa, whole, fraction, exponent, value, hsign, hmantissa,
      hexponent⟩, rfl⟩
    -- A mantissa begins like none of the words, so that it is read as a number.
    have hword : ∀ {first word}, first.isDigit = false ∧ first ≠ '.' →
        (mantissa ++ exponent).map Char.toLower ≠ first :: word := hmantissa.map_toLower_ne exponent
    have hinf : (mantissa ++ exponent).map Char.toLower ≠ "inf".toList := hword (by decide)
    have hinfinity : (mantissa ++ exponent).map Char.toLower ≠ "infinity".toList :=
      hword (by decide)
    have hnan : (mantissa ++ exponent).map Char.toLower ≠ "nan".toList := hword (by decide)
    have hread : readDecimal? negative (mantissa ++ exponent) = some
        ⟨negative, Text.digitsValue (whole ++ fraction), value - fraction.length⟩ :=
      readDecimal?_eq_some_iff.mpr ⟨_, _, _, _, _, hmantissa, hexponent, rfl, rfl⟩
    rw [splitSign_append hsign (hmantissa.unsigned exponent)]
    simp only [hinf, hinfinity, hnan, decide_false, Bool.or_self, Bool.false_eq_true, if_false,
      hread, Option.map_some]

/-! ### Characters of a numeral -/

def IsNumeralChar (c : Char) : Prop := c.isDigit = true ∨ c ∈ ['+', '-', '.', 'e', 'E']

theorem Sign.isNumeralChar {sign : Text} {negative : Bool} (h : Sign sign negative) :
    ∀ c ∈ sign, IsNumeralChar c := by
  cases h <;> simp [IsNumeralChar]

theorem Digits.isNumeralChar {digits : Text} (h : Digits digits) :
    ∀ c ∈ digits, IsNumeralChar c := fun c hc => .inl (h c hc)

theorem Mantissa.isNumeralChar {t whole fraction : Text} (h : Mantissa t whole fraction) :
    ∀ c ∈ t, IsNumeralChar c := by
  cases h with
  | whole hdigits _ => exact hdigits.isNumeralChar
  | point hwhole hfraction _ =>
    simp only [List.mem_append, List.mem_cons]
    rintro c (hc | rfl | hc)
    · exact hwhole.isNumeralChar c hc
    · simp [IsNumeralChar]
    · exact hfraction.isNumeralChar c hc

theorem Exponent.isNumeralChar {t : Text} {value : Int} (h : Exponent t value) :
    ∀ c ∈ t, IsNumeralChar c := by
  cases h with
  | none => simp
  | some hletter hsign hdigits _ =>
    simp only [List.mem_append, List.mem_cons]
    rintro c (rfl | hc | hc)
    · obtain rfl | rfl := hletter <;> simp [IsNumeralChar]
    · exact hsign.isNumeralChar c hc
    · exact hdigits.isNumeralChar c hc

/-- A numeral holds only such characters. -/
theorem Numeral.isNumeralChar {t : Text} {d : Decimal} (h : Numeral t d) :
    ∀ c ∈ t, IsNumeralChar c := by
  obtain ⟨hsign, hmantissa, hexponent⟩ := h
  simp only [List.mem_append]
  rintro c (hc | hc | hc)
  · exact hsign.isNumeralChar c hc
  · exact hmantissa.isNumeralChar c hc
  · exact hexponent.isNumeralChar c hc

theorem Numeral.ne_nil {t : Text} {d : Decimal} (h : Numeral t d) : t ≠ [] := by
  obtain ⟨_, hmantissa, _⟩ := h
  obtain ⟨c, rest, rfl, -⟩ := hmantissa.head
  simp

end DirPicker.Double
