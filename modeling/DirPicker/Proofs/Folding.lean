import DirPicker.Unicode.Folding
import Mathlib.Data.List.Chain

/-!
# Characters equal up to case

`CharSet.variantsOf c` is found by running the folding table backwards from what `c` folds to. The
main statement is

    contains_variantsOf : (variantsOf c).contains d = true ↔ foldChar d = foldChar c

so that a character passes for another exactly when both fold to the same one.

The table enters through four facts about its runs, each checked by evaluation: no run is empty
(`first_le_last`), the runs are in order (`foldRuns_pairwise`), no run leads into one
(`misses_of_mem`), and all lead to characters (`isValidChar_of_mem`). Everything else is derived
from these.
-/

namespace DirPicker.Unicode

/-! ### A run forwards and backwards -/

namespace FoldRun

variable {r s : FoldRun} {n m k : Nat}

theorem image?_eq_some_iff :
    r.image? n = some m ↔ r.first ≤ n ∧ n ≤ r.last ∧ (n - r.first) % r.step = 0 ∧
      m = r.target + (n - r.first) := by
  unfold image?
  split
  · next h => simp [h, eq_comm]
  · next h =>
    simp only [reduceCtorEq, false_iff]
    rintro ⟨h₁, h₂, h₃, -⟩
    exact h ⟨h₁, h₂, h₃⟩

/-- Going back from an image finds what was folded, and nothing else. -/
theorem source?_eq_some_iff (h : r.first ≤ r.last) :
    r.source? m = some n ↔ r.image? n = some m := by
  rw [image?_eq_some_iff]
  unfold source?
  split
  · next hs =>
    obtain ⟨h₁, h₂, h₃⟩ := hs
    simp only [Option.some.injEq]
    constructor
    · rintro rfl
      rw [Nat.add_sub_cancel_left]
      exact ⟨by omega, by omega, h₃, by omega⟩
    · rintro ⟨h₄, h₅, -, rfl⟩
      omega
  · next hs =>
    simp only [reduceCtorEq, false_iff]
    rintro ⟨h₁, h₂, h₃, rfl⟩
    rw [Nat.add_sub_cancel_left] at hs
    exact hs ⟨by omega, by omega, h₃⟩

/-- The order of the table: a run begins behind the end of the one before it. -/
def Before (r s : FoldRun) : Prop := r.last < s.first ∧ s.first ≤ s.last

instance (r s : FoldRun) : Decidable (r.Before s) := inferInstanceAs (Decidable (_ ∧ _))

instance : Trans Before Before Before where
  trans h₁ h₂ := ⟨by have := h₁.1; have := h₁.2; have := h₂.1; omega, h₂.2⟩

/-- Whether no image of `r` is folded by `s`: they lie apart, or one takes only even and the other
only odd code points there. -/
def misses (r s : FoldRun) : Bool :=
  (r.target + (r.last - r.first)).blt s.first || s.last.blt r.target ||
    ((r.step == 2 || r.first == r.last) && (s.step == 2 || s.first == s.last) &&
      (r.target + s.first) % 2 == 1)

theorem image?_eq_none_of_misses (h : r.misses s = true) (hm : r.image? n = some m) :
    s.image? m = none := by
  obtain ⟨h₁, h₂, h₃, rfl⟩ := image?_eq_some_iff.mp hm
  rw [Option.eq_none_iff_forall_ne_some]
  intro k hk
  obtain ⟨h₄, h₅, h₆, -⟩ := image?_eq_some_iff.mp hk
  simp only [misses, Bool.or_eq_true, Bool.and_eq_true, Nat.blt_eq, beq_iff_eq] at h
  rcases h with (h | h) | ⟨⟨hr, hs⟩, hodd⟩
  · omega
  · omega
  · have hr' : (n - r.first) % 2 = 0 := by
      rcases hr with hr | hr
      · rwa [hr] at h₃
      · omega
    have hs' : (r.target + (n - r.first) - s.first) % 2 = 0 := by
      rcases hs with hs | hs
      · rwa [hs] at h₆
      · omega
    omega

end FoldRun

/-! ### The table -/

theorem first_le_last {r : FoldRun} (h : r ∈ foldRuns) : r.first ≤ r.last := by
  have hall : ∀ r ∈ foldRuns, r.first ≤ r.last := by decide +kernel
  exact hall r h

/-- The runs of the table are in order and do not overlap. -/
theorem foldRuns_pairwise : foldRuns.Pairwise FoldRun.Before :=
  List.IsChain.pairwise (by decide +kernel)

/-- What a code point folds to is not folded any further. -/
theorem misses_of_mem {r s : FoldRun} (hr : r ∈ foldRuns) (hs : s ∈ foldRuns) :
    r.misses s = true := by
  have hall : (foldRuns.all fun r => foldRuns.all fun s => r.misses s) = true := by decide +kernel
  exact List.all_eq_true.mp (List.all_eq_true.mp hall r hr) s hs

/-- Images are no surrogates, and not behind the last code point. -/
theorem isValidChar_of_mem {r : FoldRun} {n m : Nat} (h : r ∈ foldRuns) (hm : r.image? n = some m) :
    m.isValidChar := by
  have hall : ∀ r ∈ foldRuns, r.target + (r.last - r.first) < 0xD800 ∨
      0xDFFF < r.target ∧ r.target + (r.last - r.first) < 0x110000 := by decide +kernel
  obtain ⟨h₁, h₂, -, rfl⟩ := FoldRun.image?_eq_some_iff.mp hm
  have := hall r h
  unfold Nat.isValidChar
  omega

/-! ### Folding code points -/

/-- No code point is folded by two runs, so it does not matter which run is found first. -/
theorem image?_unique {r s : FoldRun} {n m k : Nat} (hr : r ∈ foldRuns) (hs : s ∈ foldRuns)
    (hm : r.image? n = some m) (hk : s.image? n = some k) : m = k := by
  let Agree (r s : FoldRun) : Prop := ∀ n m k, r.image? n = some m → s.image? n = some k → m = k
  have : Std.Symm Agree := ⟨fun r s h n m k hm hk => (h n k m hk hm).symm⟩
  -- Two runs of the table agree because they have no code point in common.
  have hpair : foldRuns.Pairwise Agree := by
    refine foldRuns_pairwise.imp ?_
    intro r s hrs n m k hm hk
    have h₁ := FoldRun.image?_eq_some_iff.mp hm
    have h₂ := FoldRun.image?_eq_some_iff.mp hk
    have := hrs.1
    omega
  have hself : ∀ r ∈ foldRuns, Agree r r := fun r _ n m k hm hk => by simpa [hm] using hk
  exact hpair.forall_of_forall hself hr hs n m k hm hk

theorem foldCode_of_image? {r : FoldRun} {n m : Nat} (hr : r ∈ foldRuns)
    (hm : r.image? n = some m) : foldCode n = m := by
  unfold foldCode
  cases h : foldRuns.findSome? (·.image? n) with
  | none => simp [List.findSome?_eq_none_iff.mp h r hr] at hm
  | some k =>
    obtain ⟨s, hs, hk⟩ := List.exists_of_findSome?_eq_some h
    exact image?_unique hs hr hk hm

/-- A code point folds to itself, or some run folds it. -/
theorem foldCode_cases (n : Nat) :
    foldCode n = n ∨ ∃ r ∈ foldRuns, r.image? n = some (foldCode n) := by
  cases h : foldRuns.findSome? (·.image? n) with
  | none => exact Or.inl (by simp [foldCode, h])
  | some k =>
    obtain ⟨r, hr, hk⟩ := List.exists_of_findSome?_eq_some h
    exact Or.inr ⟨r, hr, by simpa [foldCode, h] using hk⟩

/-- Folding a second time changes nothing. -/
theorem foldCode_foldCode (n : Nat) : foldCode (foldCode n) = foldCode n := by
  rcases foldCode_cases n with h | ⟨r, hr, hm⟩
  · rw [h, h]
  · rcases foldCode_cases (foldCode n) with h | ⟨s, hs, hk⟩
    · exact h
    · -- A second step would start at an image of the first run, and no run leads into one.
      have hnone := FoldRun.image?_eq_none_of_misses (misses_of_mem hr hs) hm
      rw [hnone] at hk
      exact absurd hk (by simp)

/-- The variants of a code point are those that fold as it does. -/
theorem mem_caseVariants {n m : Nat} : m ∈ caseVariants n ↔ foldCode m = foldCode n := by
  have hback : ∀ r ∈ foldRuns, (r.source? (foldCode n) = some m ↔ r.image? m = some (foldCode n)) :=
    fun r hr => FoldRun.source?_eq_some_iff (first_le_last hr)
  simp only [caseVariants, List.mem_cons, List.mem_filterMap]
  constructor
  · rintro (rfl | ⟨r, hr, hm⟩)
    · exact foldCode_foldCode n
    · exact foldCode_of_image? hr ((hback r hr).mp hm)
  · intro h
    rcases foldCode_cases m with hm | ⟨r, hr, hm⟩
    · exact Or.inl (hm.symm.trans h)
    · rw [h] at hm
      exact Or.inr ⟨r, hr, (hback r hr).mpr hm⟩

/-! ### Folding characters -/

/-- Folding leads from characters to characters, never to a surrogate. -/
theorem isValidChar_foldCode (c : Char) : (foldCode c.toNat).isValidChar := by
  rcases foldCode_cases c.toNat with h | ⟨r, hr, hm⟩
  · rw [h]
    exact c.valid
  · exact isValidChar_of_mem hr hm

theorem toNat_foldChar (c : Char) : (foldChar c).toNat = foldCode c.toNat := by
  have h := isValidChar_foldCode c
  rw [foldChar, Char.ofNat, dif_pos h]
  rfl

theorem foldChar_eq_iff {c d : Char} :
    foldChar c = foldChar d ↔ foldCode c.toNat = foldCode d.toNat := by
  rw [← toNat_foldChar, ← toNat_foldChar, Char.toNat_inj]

end DirPicker.Unicode

namespace DirPicker.CharSet

open DirPicker.Unicode

/-! ### Sets made of ranges -/

theorem le_of_mem_insertRange {r : Nat × Nat} {rs : List (Nat × Nat)} (hr : r.1 ≤ r.2)
    (hrs : ∀ s ∈ rs, s.1 ≤ s.2) : ∀ s ∈ insertRange r rs, s.1 ≤ s.2 := by
  induction rs generalizing r with
  | nil => simpa [insertRange] using hr
  | cons q rs ih =>
    have hq : q.1 ≤ q.2 := hrs q (by simp)
    have hrest : ∀ s ∈ rs, s.1 ≤ s.2 := fun s hs => hrs s (by simp [hs])
    unfold insertRange
    split
    · simpa [hr, hq] using fun a b h => hrest (a, b) h
    · split
      · simpa [hq] using fun a b h => ih hr hrest (a, b) h
      · exact ih (by simp only; omega) hrest

/-- Putting ranges in order loses no code point and adds none. -/
theorem hasCode_ofRanges {rs : List (Nat × Nat)} (h : ∀ r ∈ rs, r.1 ≤ r.2) (n : Nat) :
    hasCode (ofRanges rs).ranges n = true ↔ hasCode rs n = true := by
  -- An insertion is right only into ranges that are not empty, so both go through together.
  have hboth : (∀ s ∈ rs.foldr insertRange [], s.1 ≤ s.2) ∧
      (hasCode (rs.foldr insertRange []) n = true ↔ hasCode rs n = true) := by
    induction rs with
    | nil => simp
    | cons r rs ih =>
      have hr : r.1 ≤ r.2 := h r (by simp)
      obtain ⟨hle, hiff⟩ := ih fun s hs => h s (by simp [hs])
      refine ⟨le_of_mem_insertRange hr hle, ?_⟩
      rw [List.foldr_cons, hasCode_insertRange hr hle, hasCode_cons, hiff]
  exact hboth.2

/-- A character passes for `c` in either case exactly when it folds as `c` does. -/
theorem contains_variantsOf {c d : Char} :
    (variantsOf c).contains d = true ↔ foldChar d = foldChar c := by
  have hone : ∀ r ∈ (caseVariants c.toNat).map fun n => (n, n), r.1 ≤ r.2 := by simp
  rw [contains, variantsOf, hasCode_ofRanges hone, foldChar_eq_iff, ← mem_caseVariants]
  simp only [hasCode, List.any_map, List.any_eq_true, Function.comp_apply, Bool.and_eq_true,
    decide_eq_true_eq]
  constructor
  · rintro ⟨n, hn, h₁, h₂⟩
    rwa [Nat.le_antisymm h₂ h₁]
  · intro h
    exact ⟨d.toNat, h, Nat.le_refl _, Nat.le_refl _⟩

end DirPicker.CharSet
