import DirPicker.Pattern.Search

/-!
# What a search finds

A search works on sets of places, as bits of numbers. Here a matching tree is read as a relation
instead: `node.Takes l t r` says that the tree takes the text `t` when it stands between `l` and
`r`. The main statement is that a search decides this relation,

    isMatch_iff : node.isMatch t = true ↔ ∃ l u r, t = l ++ u ++ r ∧ node.Takes l u r

`Finds` ties a function on sets of places to a relation on texts: from a set of goals it gives the
places from which the relation leads to a goal. There is one lemma for each way to put trees
together, and `finds_sources` collects them by induction on the tree.
-/

namespace DirPicker.Pattern

/-- A relation between a text and what stands on its left and right. -/
abbrev Spans := Text → Text → Text → Prop

namespace Spans

/-- A text for `P`, and then one for `Q`. -/
def seq (P Q : Spans) : Spans := fun l t r => ∃ u v, t = u ++ v ∧ P l u (v ++ r) ∧ Q (l ++ u) v r

/-- A given number of texts for `P`. -/
def power (P : Spans) : Nat → Spans
  | 0 => fun _ t _ => t = []
  | k + 1 => (P.power k).seq P

end Spans

/-- `node.Takes l t r`: between `l` and `r`, the tree can take the text `t`. A repetition whose
greatest count is below the least one has the least count. -/
def Node.Takes : Node → Spans
  | .empty => fun _ t _ => t = []
  | .step s => fun _ t _ => ∃ c, s.contains c = true ∧ t = [c]
  | .stay look => fun l t r => t = [] ∧ look.holds l.getLast? r.head? = true
  | .seq a b => (Node.Takes a).seq (Node.Takes b)
  | .alt _ a b => fun l t r => Node.Takes a l t r ∨ Node.Takes b l t r
  | .rep _ body low high _ => fun l t r =>
    ∃ k, low ≤ k ∧ (∀ m, high = some m → k ≤ max low m) ∧ (Node.Takes body).power k l t r
  | .group _ body => Node.Takes body

namespace Spans

variable {P Q R : Spans}

theorem ext (h : ∀ l t r, P l t r ↔ Q l t r) : P = Q :=
  funext fun l => funext fun t => funext fun r => propext (h l t r)

theorem seq_assoc : (P.seq Q).seq R = P.seq (Q.seq R) := by
  refine ext fun l t r => ⟨?_, ?_⟩
  · rintro ⟨_, w, rfl, ⟨u, v, rfl, hu, hv⟩, hw⟩
    exact ⟨u, v ++ w, by simp, by simpa using hu, v, w, rfl, hv, by simpa using hw⟩
  · rintro ⟨u, _, rfl, hu, v, w, rfl, hv, hw⟩
    exact ⟨u ++ v, w, by simp, ⟨u, v, rfl, by simpa using hu, hv⟩, by simpa using hw⟩

theorem seq_empty : P.seq (fun _ t _ => t = []) = P := by
  refine ext fun l t r => ⟨?_, ?_⟩
  · rintro ⟨u, _, rfl, hu, rfl⟩
    simpa using hu
  · intro h
    exact ⟨t, [], by simp, by simpa using h, rfl⟩

theorem empty_seq : Spans.seq (fun _ t _ => t = []) P = P := by
  refine ext fun l t r => ⟨?_, ?_⟩
  · rintro ⟨_, v, rfl, rfl, hv⟩
    simpa using hv
  · intro h
    exact ⟨[], t, rfl, rfl, by simpa using h⟩

theorem power_add (a b : Nat) : P.power (a + b) = (P.power a).seq (P.power b) := by
  induction b with
  | zero => exact seq_empty.symm
  | succ b ih =>
    show (P.power (a + b)).seq P = (P.power a).seq ((P.power b).seq P)
    rw [ih, seq_assoc]

/-- The first part can be split off as well as the last one. -/
theorem power_succ (k : Nat) : P.power (k + 1) = P.seq (P.power k) := by
  have hone : P.power 1 = P := empty_seq
  rw [Nat.add_comm, power_add, hone]

/-- Each of `n` parts may be left out. -/
theorem power_optional (n : Nat) :
    (power (fun l t r => t = [] ∨ P l t r) n) = fun l t r => ∃ k, k ≤ n ∧ P.power k l t r := by
  induction n with
  | zero =>
    refine ext fun l t r => ⟨fun h => ⟨0, Nat.le_refl _, h⟩, ?_⟩
    rintro ⟨k, hk, h⟩
    obtain rfl := Nat.le_zero.mp hk
    exact h
  | succ n ih =>
    refine ext fun l t r => ?_
    rw [power, ih]
    -- The last part is left out or not, which makes one part fewer or more.
    constructor
    · rintro ⟨u, v, rfl, ⟨k, hk, hu⟩, rfl | hv⟩
      · exact ⟨k, by omega, by simpa using hu⟩
      · exact ⟨k + 1, by omega, u, v, rfl, hu, hv⟩
    · rintro ⟨k, hk, h⟩
      rcases Nat.le_succ_iff.mp hk with hk | rfl
      · exact ⟨t, [], by simp, ⟨k, hk, by simpa using h⟩, .inl rfl⟩
      · obtain ⟨u, v, rfl, hu, hv⟩ := h
        exact ⟨u, v, rfl, ⟨n, Nat.le_refl _, hu⟩, .inr hv⟩

/-- Parts that take nothing can be left out, so no more parts are needed than there are
characters. -/
theorem power_of_length {k : Nat} {l t r : Text} (h : P.power k l t r) :
    ∃ j, j ≤ k ∧ j ≤ t.length ∧ P.power j l t r := by
  induction k generalizing t r with
  | zero => exact ⟨0, Nat.le_refl _, Nat.zero_le _, h⟩
  | succ k ih =>
    obtain ⟨u, v, rfl, hu, hv⟩ := h
    obtain ⟨j, hk, hlen, hj⟩ := ih hu
    cases v with
    | nil => exact ⟨j, by omega, by simpa using hlen, by simpa using hj⟩
    | cons c v =>
      refine ⟨j + 1, by omega, ?_, u, c :: v, rfl, hj, hv⟩
      simp only [List.length_append, List.length_cons]
      omega

end Spans

/-! ### What trees take -/

/-- Two trees after one another take the texts of the one and then of the other. -/
theorem takes_andThen (a b : Node) : Node.Takes (a.andThen b) = a.Takes.seq b.Takes := by
  cases a with
  | empty => exact Spans.empty_seq.symm
  | _ => rfl

/-- Members of a set one after another. -/
theorem power_step {s : CharSet} {k : Nat} {l t r : Text} :
    (Node.Takes (.step s)).power k l t r ↔ t.length = k ∧ ∀ c ∈ t, s.contains c = true := by
  induction k generalizing l t with
  | zero =>
    show t = [] ↔ _
    rw [List.length_eq_zero_iff]
    exact ⟨by rintro rfl; simp, And.left⟩
  | succ k ih =>
    rw [Spans.power_succ]
    constructor
    · rintro ⟨_, v, rfl, ⟨c, hc, rfl⟩, hv⟩
      obtain ⟨hlen, hall⟩ := ih.mp hv
      exact ⟨by simp [hlen], by simpa [hc] using hall⟩
    · rintro ⟨hlen, hall⟩
      cases t with
      | nil => simp at hlen
      | cons c t =>
        have hrest : t.length = k := by simpa using hlen
        exact ⟨[c], t, rfl, ⟨c, hall c (by simp), rfl⟩,
          ih.mpr ⟨hrest, fun d hd => hall d (by simp [hd])⟩⟩

/-- Any number of members of a set. -/
theorem takes_star_step (id : Nat) (s : CharSet) (greedy : Bool) :
    Node.Takes (.rep id (.step s) 0 none greedy) = fun _ t _ => ∀ c ∈ t, s.contains c = true := by
  refine Spans.ext fun l t r => ?_
  show (∃ k, 0 ≤ k ∧ _ ∧ (Node.Takes (.step s)).power k l t r) ↔ _
  simp [power_step]

/-! ### Laying sets and conditions over a text -/

theorem testBit_double_add_zero (n : Nat) (b : Prop) [Decidable b] :
    (2 * n + if b then 1 else 0).testBit 0 = decide b := by
  by_cases h : b <;> simp [h, Nat.testBit_zero]

theorem testBit_double_add_succ (n i : Nat) (b : Prop) [Decidable b] :
    (2 * n + if b then 1 else 0).testBit (i + 1) = n.testBit i := by
  rw [Nat.testBit_succ]
  congr 1
  split <;> omega

/-- A place is in the set when the character behind it is right. -/
theorem testBit_places (p : Char → Bool) (l r : Text) :
    (places p (l ++ r)).testBit l.length = r.head?.any p := by
  induction l with
  | nil =>
    cases r with
    | nil => simp [places]
    | cons c r =>
      show (2 * places p r + if p c then 1 else 0).testBit 0 = p c
      rw [testBit_double_add_zero]
      simp
  | cons c l ih =>
    show (2 * places p (l ++ r) + if p c then 1 else 0).testBit (l.length + 1) = _
    rw [testBit_double_add_succ, ih]

/-- A place is in the set when the characters on both its sides are right. -/
theorem testBit_boundaries (p : Option Char → Option Char → Bool) (left : Option Char)
    (l r : Text) :
    (boundaries p left (l ++ r)).testBit l.length = p (l.getLast?.or left) r.head? := by
  induction l generalizing left with
  | nil =>
    cases r with
    | nil => cases h : p left none <;> simp [boundaries, h]
    | cons c r =>
      show (2 * boundaries p (some c) r + if p left (some c) then 1 else 0).testBit 0 = _
      rw [testBit_double_add_zero]
      simp
  | cons c l ih =>
    show (2 * boundaries p (some c) (l ++ r) + if p left (some c) then 1 else 0).testBit
      (l.length + 1) = _
    rw [testBit_double_add_succ, ih, List.getLast?_cons]
    cases l.getLast? <;> rfl

/-! ### Functions that find places -/

/-- All places of the set are places of the text. -/
def Within (whole : Text) (goals : Nat) : Prop := ∀ i, goals.testBit i = true → i ≤ whole.length

/-- With `l` on the left, `P` can take a part of `r` that ends at a goal. -/
def Reaches (P : Spans) (goals : Nat) (l r : Text) : Prop :=
  ∃ t r', r = t ++ r' ∧ goals.testBit (l ++ t).length = true ∧ P l t r'

/-- From a set of goals, `f` finds the places of the text `whole` from which `P` reaches a goal. -/
structure Finds (whole : Text) (f : Nat → Nat) (P : Spans) : Prop where
  within : ∀ {goals}, Within whole goals → Within whole (f goals)
  testBit : ∀ goals {l r}, l ++ r = whole →
    ((f goals).testBit l.length = true ↔ Reaches P goals l r)

variable {whole : Text} {f g : Nat → Nat} {P Q : Spans}

theorem reaches_empty {goals : Nat} {l r : Text} :
    Reaches (fun _ t _ => t = []) goals l r ↔ goals.testBit l.length = true := by
  constructor
  · rintro ⟨t, r', -, h, rfl⟩
    simpa using h
  · intro h
    exact ⟨[], r, rfl, by simpa using h, rfl⟩

/-- Reaching one of two sets of goals. -/
theorem reaches_or {a b : Nat} {l r : Text} :
    Reaches P (a ||| b) l r ↔ Reaches P a l r ∨ Reaches P b l r := by
  constructor
  · rintro ⟨t, r', rfl, h, hP⟩
    rw [Nat.testBit_or, Bool.or_eq_true] at h
    exact h.imp (fun h => ⟨t, r', rfl, h, hP⟩) (fun h => ⟨t, r', rfl, h, hP⟩)
  · rintro (⟨t, r', rfl, h, hP⟩ | ⟨t, r', rfl, h, hP⟩)
    · exact ⟨t, r', rfl, by rw [Nat.testBit_or, h, Bool.true_or], hP⟩
    · exact ⟨t, r', rfl, by rw [Nat.testBit_or, h, Bool.or_true], hP⟩

namespace Finds

theorem empty : Finds whole (fun goals => goals) (fun _ t _ => t = []) where
  within h := h
  testBit _ _ _ _ := reaches_empty.symm

theorem step (s : CharSet) :
    Finds whole (fun goals => (goals >>> 1) &&& places s.contains whole)
      (fun _ t _ => ∃ c, s.contains c = true ∧ t = [c]) where
  within {goals} h i hi := by
    simp only [Nat.testBit_and, Nat.testBit_shiftRight, Bool.and_eq_true] at hi
    have := h _ hi.1
    omega
  testBit goals l r hlr := by
    subst hlr
    simp only [Nat.testBit_and, Nat.testBit_shiftRight, testBit_places, Bool.and_eq_true]
    constructor
    · rintro ⟨h, hc⟩
      cases r with
      | nil => simp at hc
      | cons c r =>
        exact ⟨[c], r, rfl, by simpa [Nat.add_comm] using h, c, by simpa using hc, rfl⟩
    · rintro ⟨_, r', rfl, h, c, hc, rfl⟩
      exact ⟨by simpa [Nat.add_comm] using h, by simpa using hc⟩

theorem stay (look : Look) :
    Finds whole (fun goals => goals &&& boundaries look.holds none whole)
      (fun l t r => t = [] ∧ look.holds l.getLast? r.head? = true) where
  within {goals} h i hi := by
    rw [Nat.testBit_and, Bool.and_eq_true] at hi
    exact h i hi.1
  testBit goals l r hlr := by
    subst hlr
    rw [Nat.testBit_and, testBit_boundaries, Bool.and_eq_true, Option.or_none]
    constructor
    · rintro ⟨h, hlook⟩
      exact ⟨[], r, rfl, by simpa using h, rfl, hlook⟩
    · rintro ⟨_, r', rfl, h, rfl, hlook⟩
      exact ⟨by simpa using h, hlook⟩

/-- The places before two parts are found from behind: first those before the second. -/
theorem seq (hf : Finds whole f P) (hg : Finds whole g Q) :
    Finds whole (fun goals => f (g goals)) (P.seq Q) where
  within h := hf.within (hg.within h)
  testBit goals l r hlr := by
    rw [hf.testBit _ hlr]
    constructor
    -- The goals of the first part are the places from which the second reaches a goal.
    · rintro ⟨u, r₁, rfl, hu, hP⟩
      obtain ⟨v, r₂, rfl, hv, hQ⟩ := (hg.testBit goals (by simpa using hlr)).mp hu
      exact ⟨u ++ v, r₂, by simp, by simpa [Nat.add_assoc] using hv, u, v, rfl, hP, hQ⟩
    · rintro ⟨_, r₂, rfl, hv, u, v, rfl, hP, hQ⟩
      refine ⟨u, v ++ r₂, by simp, (hg.testBit goals (by simpa using hlr)).mpr ?_, hP⟩
      exact ⟨v, r₂, rfl, by simpa [Nat.add_assoc] using hv, hQ⟩

/-- The places before a choice are those before either branch. -/
theorem alt (hf : Finds whole f P) (hg : Finds whole g Q) :
    Finds whole (fun goals => f goals ||| g goals) (fun l t r => P l t r ∨ Q l t r) where
  within h i hi := by
    rw [Nat.testBit_or, Bool.or_eq_true] at hi
    exact hi.elim (hf.within h i) (hg.within h i)
  testBit goals l r hlr := by
    rw [Nat.testBit_or, Bool.or_eq_true, hf.testBit _ hlr, hg.testBit _ hlr]
    constructor
    · rintro (⟨t, r', rfl, h, hP⟩ | ⟨t, r', rfl, h, hQ⟩)
      · exact ⟨t, r', rfl, h, .inl hP⟩
      · exact ⟨t, r', rfl, h, .inr hQ⟩
    · rintro ⟨t, r', rfl, h, hP | hQ⟩
      · exact .inl ⟨t, r', rfl, h, hP⟩
      · exact .inr ⟨t, r', rfl, h, hQ⟩

/-! ### Repetitions -/

theorem power (hf : Finds whole f P) (k : Nat) : Finds whole (times f k) (P.power k) := by
  induction k with
  | zero => exact empty
  | succ k ih => exact ih.seq hf

/-- Going back from the goals again and again, and stopping anywhere on the way. -/
theorem powers_le (hf : Finds whole f P) (n : Nat) :
    Finds whole (fun goals => times (fun g => goals ||| f g) n goals)
      (fun l t r => ∃ k, k ≤ n ∧ P.power k l t r) where
  within {goals} h := by
    have hstep : ∀ m start, Within whole start →
        Within whole (times (fun g => goals ||| f g) m start) := by
      intro m
      induction m with
      | zero => exact fun start hs => hs
      | succ m ih =>
        intro start hs
        refine ih _ fun i hi => ?_
        rw [Nat.testBit_or, Bool.or_eq_true] at hi
        exact hi.elim (h i) (hf.within hs i)
    exact hstep n goals h
  testBit goals l r hlr := by
    -- A start other than the goals makes the induction go through.
    have hstart : ∀ m start, (times (fun g => goals ||| f g) m start).testBit l.length = true ↔
        (∃ k, k < m ∧ Reaches (P.power k) goals l r) ∨ Reaches (P.power m) start l r := by
      intro m
      induction m with
      | zero =>
        intro start
        rw [Spans.power, reaches_empty]
        simp [times]
      | succ m ih =>
        intro start
        have hlast : Reaches (P.power m) (f start) l r ↔ Reaches (P.power (m + 1)) start l r := by
          rw [← (hf.power m).testBit _ hlr, ← (hf.power (m + 1)).testBit _ hlr]
          rfl
        rw [times, ih, reaches_or, hlast, ← or_assoc]
        refine or_congr_left ⟨?_, ?_⟩
        · rintro (⟨k, hk, h⟩ | h)
          · exact ⟨k, by omega, h⟩
          · exact ⟨m, by omega, h⟩
        · rintro ⟨k, hk, h⟩
          rcases Nat.lt_succ_iff_lt_or_eq.mp hk with hk | rfl
          · exact .inl ⟨k, hk, h⟩
          · exact .inr h
    rw [hstart]
    constructor
    · rintro (⟨k, hk, t, r', rfl, h, hP⟩ | ⟨t, r', rfl, h, hP⟩)
      · exact ⟨t, r', rfl, h, k, by omega, hP⟩
      · exact ⟨t, r', rfl, h, n, Nat.le_refl _, hP⟩
    · rintro ⟨t, r', rfl, h, k, hk, hP⟩
      rcases Nat.lt_or_eq_of_le hk with hk | rfl
      · exact .inl ⟨k, hk, t, r', rfl, h, hP⟩
      · exact .inr ⟨t, r', rfl, h, hP⟩

end Finds

/-- Once nothing is added, going on adds nothing either. -/
theorem closure_eq_times (f : Nat → Nat) (rounds goals : Nat) :
    closure f rounds goals = times (fun g => g ||| f g) rounds goals := by
  induction rounds generalizing goals with
  | zero => rfl
  | succ rounds ih =>
    rw [closure, times]
    split
    · next h =>
      -- Nothing was added in this round, so that the other side stands still as well.
      rw [h, ← ih]
      cases rounds with
      | zero => rfl
      | succ rounds => simp [closure, h]
    · exact ih _

namespace Finds

/-- As many rounds as there are places are enough for any number of repetitions, since each part
that is needed takes a character. -/
theorem any_power (hf : Finds whole f P) :
    Finds whole (closure f (whole.length + 1)) (fun l t r => ∃ k, P.power k l t r) := by
  -- A round that keeps what it has is a part that may be left out.
  have hle := (empty.alt hf).power (whole.length + 1)
  rw [Spans.power_optional] at hle
  have heq : closure f (whole.length + 1) = times (fun g => g ||| f g) (whole.length + 1) :=
    funext (closure_eq_times f _)
  rw [heq]
  refine ⟨hle.within, fun goals {l r} hlr => (hle.testBit goals hlr).trans ⟨?_, ?_⟩⟩
  · rintro ⟨t, r', rfl, h, k, -, hP⟩
    exact ⟨t, r', rfl, h, k, hP⟩
  · rintro ⟨t, r', rfl, h, k, hP⟩
    obtain ⟨j, -, hj, hP⟩ := Spans.power_of_length hP
    refine ⟨t, r', rfl, h, j, ?_, hP⟩
    have hlen := congrArg List.length hlr
    simp only [List.length_append] at hlen
    omega

/-- The bounds of a repetition, with `low` parts in front of those that may be left out. -/
theorem repeated (hf : Finds whole f P) (low : Nat) (bound : Nat → Prop)
    (hg : Finds whole g fun l t r => ∃ k, bound k ∧ P.power k l t r) :
    Finds whole (fun goals => times f low (g goals))
      (fun l t r => ∃ k, low ≤ k ∧ bound (k - low) ∧ P.power k l t r) := by
  have hspans : (P.power low).seq (fun l t r => ∃ k, bound k ∧ P.power k l t r) =
      fun l t r => ∃ k, low ≤ k ∧ bound (k - low) ∧ P.power k l t r := by
    refine Spans.ext fun l t r => ⟨?_, ?_⟩
    · rintro ⟨u, v, rfl, hu, k, hk, hv⟩
      refine ⟨low + k, by omega, by rwa [Nat.add_sub_cancel_left], ?_⟩
      rw [Spans.power_add]
      exact ⟨u, v, rfl, hu, hv⟩
    · rintro ⟨k, hlow, hk, h⟩
      rw [← Nat.add_sub_of_le hlow, Spans.power_add] at h
      obtain ⟨u, v, rfl, hu, hv⟩ := h
      exact ⟨u, v, rfl, hu, k - low, hk, hv⟩
  rw [← hspans]
  exact (hf.power low).seq hg

end Finds

/-! ### Searches -/

/-- The places from which a search reaches a goal are those from which the tree does. -/
theorem finds_sources (whole : Text) (node : Node) :
    Finds whole (Laid.sources whole.length (node.over whole)) node.Takes := by
  induction node with
  | empty => exact .empty
  | step s => exact .step s
  | stay look => exact .stay look
  | seq a b iha ihb => exact iha.seq ihb
  | alt id a b iha ihb => exact iha.alt ihb
  | rep id body low high greedy ih =>
    cases high with
    | none =>
      have htakes : Node.Takes (.rep id body low none greedy) =
          fun l t r => ∃ k, low ≤ k ∧ True ∧ (Node.Takes body).power k l t r :=
        Spans.ext fun l t r => by simp [Node.Takes]
      have hany : Finds whole
          (closure (Laid.sources whole.length (Node.over body whole))
            (whole.length + 1))
          fun l t r => ∃ k, True ∧ (Node.Takes body).power k l t r := by
        simpa using ih.any_power
      rw [htakes]
      exact ih.repeated low (fun _ => True) hany
    | some high =>
      have hbound : ∀ k, k - low ≤ high - low ↔ k ≤ max low high := by omega
      have htakes : Node.Takes (.rep id body low (some high) greedy) =
          fun l t r => ∃ k, low ≤ k ∧ k - low ≤ high - low ∧ (Node.Takes body).power k l t r :=
        Spans.ext fun l t r => by simp [Node.Takes, hbound]
      rw [htakes]
      exact ih.repeated low (· ≤ high - low) (ih.powers_le (high - low))
  | group capturing body ih => exact ih

theorem testBit_allPlaces (n i : Nat) : (allPlaces n).testBit i = decide (i ≤ n) := by
  rw [allPlaces, Nat.pow_eq, Nat.testBit_two_pow_sub_one]
  exact decide_eq_decide.mpr Nat.lt_succ_iff

/-- The tree takes something from the places that a search of the whole text may start at. -/
theorem testBit_sources_allPlaces (node : Node) (l r : Text) :
    (Laid.sources (l ++ r).length (node.over (l ++ r)) (allPlaces (l ++ r).length)).testBit
        l.length = true ↔ ∃ u r', r = u ++ r' ∧ node.Takes l u r' := by
  rw [(finds_sources (l ++ r) node).testBit _ rfl]
  constructor
  · rintro ⟨u, r', rfl, -, hu⟩
    exact ⟨u, r', rfl, hu⟩
  · rintro ⟨u, r', rfl, hu⟩
    exact ⟨u, r', rfl, by simp [testBit_allPlaces], hu⟩

/-- A search finds a match exactly when the tree takes some part of the text. -/
theorem isMatch_iff {node : Node} {t : Text} :
    node.isMatch t = true ↔ ∃ l u r, t = l ++ u ++ r ∧ node.Takes l u r := by
  -- Every place is a goal, so a place is found when the tree takes anything from there on.
  have hwithin : Within t (allPlaces t.length) := fun i hi => by
    simpa [testBit_allPlaces] using hi
  rw [Node.isMatch, bne_iff_ne]
  constructor
  · intro h
    obtain ⟨i, hi⟩ := Nat.exists_testBit_of_ne_zero h
    have hle := (finds_sources t node).within hwithin i hi
    have hlr : t.take i ++ t.drop i = t := List.take_append_drop i t
    have hlen : (t.take i).length = i := by simp [hle]
    have hstart := testBit_sources_allPlaces node (t.take i) (t.drop i)
    rw [hlr, hlen] at hstart
    obtain ⟨u, r, hr, hu⟩ := hstart.mp hi
    exact ⟨t.take i, u, r, by rw [List.append_assoc, ← hr, hlr], hu⟩
  · rintro ⟨l, u, r, rfl, hu⟩ hzero
    have hbit := (testBit_sources_allPlaces node l (u ++ r)).mpr ⟨u, r, rfl, hu⟩
    rw [← List.append_assoc, hzero] at hbit
    simp at hbit

end DirPicker.Pattern
