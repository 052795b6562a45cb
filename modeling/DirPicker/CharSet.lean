import DirPicker.Text.Basic

/-!
# Sets of characters

A `CharSet` is a finite union of ranges of code points, kept in increasing order with a gap
between neighbours, so that each operation is a single pass. Surrogates are no characters, and no
operation leaves a range that ends at one; U+D7FF and U+E000 are next to each other.

Operations are stated through membership: `hasCode_insertRange` for ranges, `contains_singleton` for
the smallest sets, and `contains_complement_singleton` for all but one character. Larger tables are
written as text, one range after another in hexadecimal, and read by `ofTable`.
-/

namespace DirPicker

/-- A set of characters as ranges of code points, both ends included. -/
structure CharSet where
  ranges : List (Nat × Nat)
deriving DecidableEq, Repr, Inhabited

namespace CharSet

def lastCode : Nat := 0x10FFFF

def hasCode (rs : List (Nat × Nat)) (n : Nat) : Bool :=
  rs.any fun r => decide (r.1 ≤ n) && decide (n ≤ r.2)

def contains (s : CharSet) (c : Char) : Bool := hasCode s.ranges c.toNat

/-- Adds one range to ranges in increasing order, merging it with those that it touches. -/
def insertRange (r : Nat × Nat) : List (Nat × Nat) → List (Nat × Nat)
  | [] => [r]
  | s :: rs =>
    if r.2 + 1 < s.1 then r :: s :: rs
    else if s.2 + 1 < r.1 then s :: insertRange r rs
    else insertRange (min r.1 s.1, max r.2 s.2) rs

/-- The set of all code points in `rs`, which may overlap and stand in any order. -/
def ofRanges (rs : List (Nat × Nat)) : CharSet := ⟨rs.foldr insertRange []⟩

def empty : CharSet := ⟨[]⟩

def all : CharSet := ⟨[(0, lastCode)]⟩

def singleton (c : Char) : CharSet := ⟨[(c.toNat, c.toNat)]⟩

def range (a b : Char) : CharSet := ⟨[(a.toNat, b.toNat)]⟩

def ofList (cs : List Char) : CharSet := ofRanges (cs.map fun c => (c.toNat, c.toNat))

def union (s t : CharSet) : CharSet := ofRanges (s.ranges ++ t.ranges)

/-- The code point after `n`; surrogates are passed over, because no character has them. -/
def nextCode (n : Nat) : Nat := if n = 0xD7FF then 0xE000 else n + 1

/-- The code point before `n`, surrogates passed over. -/
def prevCode (n : Nat) : Nat := if n = 0xE000 then 0xD7FF else n - 1

/-- The range between two ends that may come in either order. -/
def between (a b : Nat) : Nat × Nat := (min a b, max a b)

/-- What lies behind the range that ends at `last`: the gaps between it and the ranges `rs`, which
follow it in increasing order. Only at the surrogates can two ranges be neighbours and not one
range; the gap between such two counts as the two characters at its sides. -/
def gapsAfter (last : Nat) : List (Nat × Nat) → List (Nat × Nat)
  | [] => if last < lastCode then [(nextCode last, lastCode)] else []
  | r :: rs => between (nextCode last) (prevCode r.1) :: gapsAfter r.2 rs

def complement (s : CharSet) : CharSet :=
  match s.ranges with
  | [] => all
  | r :: rs => ⟨(if 0 < r.1 then [(0, prevCode r.1)] else []) ++ gapsAfter r.2 rs⟩

/-- What two lists of ranges have in common, both in increasing order. -/
def common : List (Nat × Nat) → List (Nat × Nat) → List (Nat × Nat)
  | [], _ => []
  | _, [] => []
  | r :: rs, s :: ss =>
    let lo := max r.1 s.1
    let hi := min r.2 s.2
    let rest := if r.2 < s.2 then common rs (s :: ss) else common (r :: rs) ss
    if lo ≤ hi then (lo, hi) :: rest else rest
termination_by rs ss => rs.length + ss.length

def inter (s t : CharSet) : CharSet := ⟨common s.ranges t.ranges⟩

/-- What is left of the ranges `rs` without the ranges `ss`, both in increasing order. -/
def without : List (Nat × Nat) → List (Nat × Nat) → List (Nat × Nat)
  | [], _ => []
  | rs, [] => rs
  | r :: rs, s :: ss =>
    if s.2 < r.1 then without (r :: rs) ss
    else if r.2 < s.1 then r :: without rs (s :: ss)
    else
      let front := if r.1 < s.1 then [(r.1, prevCode s.1)] else []
      if s.2 < r.2 then front ++ without ((nextCode s.2, r.2) :: rs) ss
      else front ++ without rs (s :: ss)
termination_by rs ss => rs.length + ss.length

def diff (s t : CharSet) : CharSet := ⟨without s.ranges t.ranges⟩

def symmDiff (s t : CharSet) : CharSet := (s.union t).diff (s.inter t)

def isEmpty (s : CharSet) : Bool := s.ranges.isEmpty

def isAscii (s : CharSet) : Bool := s.ranges.all fun r => decide (r.2 < 128)

/-! ### Tables

A table is made of rows, and a row lists ranges separated by blanks: `41-5A` for all code points
between two ends, `100-12E/2` for every second one, and `AA` for one alone. -/

def hexDigit? (c : Char) : Option Nat :=
  if '0' ≤ c ∧ c ≤ '9' then some (c.toNat - '0'.toNat)
  else if 'a' ≤ c ∧ c ≤ 'f' then some (c.toNat - 'a'.toNat + 10)
  else if 'A' ≤ c ∧ c ≤ 'F' then some (c.toNat - 'A'.toNat + 10)
  else none

/-- The number written by hexadecimal digits; other characters count as zero. -/
def hexValue (t : Text) : Nat := t.foldl (fun n c => 16 * n + (hexDigit? c).getD 0) 0

/-- The ranges that one entry of a table stands for. -/
def tableEntry (t : Text) : List (Nat × Nat) :=
  match Text.pieces '-' t with
  | [a, b] =>
    match Text.pieces '/' b with
    | [_] => [(hexValue a, hexValue b)]
    | last :: _ =>
      let lo := hexValue a
      (List.range ((hexValue last - lo) / 2 + 1)).map fun k => (lo + 2 * k, lo + 2 * k)
    | [] => []
  | a :: _ => if a.isEmpty then [] else [(hexValue a, hexValue a)]
  | [] => []

def ofTable (rows : List String) : CharSet :=
  ofRanges (rows.flatMap fun row => (Text.pieces ' ' row.toList).flatMap tableEntry)

/-! ### Membership -/

theorem hasCode_cons (r : Nat × Nat) (rs : List (Nat × Nat)) (n : Nat) :
    hasCode (r :: rs) n = true ↔ (r.1 ≤ n ∧ n ≤ r.2) ∨ hasCode rs n = true := by
  simp [hasCode]

/-- Adding a range adds its code points and no others, whatever it is merged with. -/
theorem hasCode_insertRange {r : Nat × Nat} {rs : List (Nat × Nat)} (hr : r.1 ≤ r.2)
    (hrs : ∀ s ∈ rs, s.1 ≤ s.2) (n : Nat) :
    hasCode (insertRange r rs) n = true ↔ (r.1 ≤ n ∧ n ≤ r.2) ∨ hasCode rs n = true := by
  induction rs generalizing r with
  | nil => simp [insertRange, hasCode]
  | cons s rs ih =>
    have hs : s.1 ≤ s.2 := hrs s (by simp)
    have hrest : ∀ s ∈ rs, s.1 ≤ s.2 := fun q hq => hrs q (by simp [hq])
    simp only [insertRange]
    split
    · simp only [hasCode_cons]
    · split
      · simp only [hasCode_cons, ih hr hrest]
        grind
      · rw [ih (by simp only; omega) hrest, hasCode_cons]
        simp only
        constructor
        · rintro (h | h)
          · omega
          · exact .inr (.inr h)
        · rintro (h | h | h)
          · omega
          · omega
          · exact .inr h

@[simp] theorem contains_singleton (a c : Char) : (singleton a).contains c = true ↔ c = a := by
  simp only [contains, singleton, hasCode, List.any_cons, List.any_nil, Bool.or_false,
    Bool.and_eq_true, decide_eq_true_eq]
  constructor
  · rintro ⟨h₁, h₂⟩
    exact Char.toNat_inj.mp (Nat.le_antisymm h₂ h₁)
  · rintro rfl
    exact ⟨Nat.le_refl _, Nat.le_refl _⟩

theorem toNat_le_lastCode (c : Char) : c.toNat ≤ lastCode := by
  have h := c.valid
  simp only [UInt32.isValidChar, Nat.isValidChar] at h
  show c.val.toNat ≤ 0x10FFFF
  omega

/-- Below the surrogates, the complement of a single character lacks this character only. -/
theorem contains_complement_singleton {a : Char} (ha : a.toNat < 0xD7FF) (c : Char) :
    (singleton a).complement.contains c = true ↔ c ≠ a := by
  have hc := toNat_le_lastCode c
  have hlast : a.toNat < lastCode := by
    simp only [lastCode]
    omega
  have hprev : prevCode a.toNat = a.toNat - 1 := if_neg (by omega)
  have hnext : nextCode a.toNat = a.toNat + 1 := if_neg (by omega)
  have hranges : (singleton a).complement.ranges =
      (if 0 < a.toNat then [(0, a.toNat - 1)] else []) ++ [(a.toNat + 1, lastCode)] := by
    simp only [complement, singleton, gapsAfter, hprev, hnext, if_pos hlast]
  have hne : c ≠ a ↔ c.toNat ≠ a.toNat := not_congr Char.toNat_inj.symm
  rw [hne, contains, hranges]
  split <;> simp [hasCode] <;> omega

end CharSet

end DirPicker
