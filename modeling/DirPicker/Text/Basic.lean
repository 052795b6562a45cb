/-!
# Text

A `Text` is a list of characters. Everything the picker reads, compares and shows is
a `Text`; strings appear only where the program meets its surroundings.

This module holds the few operations the rest of the library shares: cutting a text at
every occurrence of a separator (`pieces`), putting pieces together again (`joinWith`),
and taking a leading part away (`afterStart?`). The main statement is
`joinWith_pieces`: cutting loses nothing.
-/

namespace DirPicker

/-- A sequence of Unicode scalar values. -/
abbrev Text := List Char

def total (numbers : List Nat) : Nat := numbers.foldr (· + ·) 0

namespace Text

/-- The pieces of `t` between occurrences of `sep`. There is always at least one piece,
and pieces may be empty. -/
def pieces (sep : Char) : Text → List Text
  | [] => [[]]
  | c :: t =>
    if c = sep then [] :: pieces sep t
    else match pieces sep t with
      | [] => [[c]]
      | p :: ps => (c :: p) :: ps

/-- The pieces written one after another with `glue` between neighbours. -/
def joinWith (glue : Text) : List Text → Text
  | [] => []
  | [p] => p
  | p :: q :: ps => p ++ glue ++ joinWith glue (q :: ps)

/-- What follows `start` in `t`, if `t` begins with `start`. -/
def afterStart? : (start t : Text) → Option Text
  | [], t => some t
  | _ :: _, [] => none
  | a :: start, c :: t => if a = c then afterStart? start t else none

/-- `t` without the longest run of `c` at its end. -/
def trimEnd (c : Char) (t : Text) : Text :=
  (t.reverse.dropWhile (· = c)).reverse

/-- Whether `s` comes before `t` in the order of code points. -/
def comesBefore (s t : Text) : Bool := s.lex t fun c d => c.toNat < d.toNat

def byteCount (t : Text) : Nat := total (t.map Char.utf8Size)

/-- The characters of `t` that do not begin among its first `n` bytes. -/
def dropBytes : (n : Nat) → (t : Text) → Text
  | _, [] => []
  | 0, t => t
  | n, c :: t => dropBytes (n - c.utf8Size) t

/-- The characters of `t` that end among its first `n` bytes. -/
def takeBytes : (n : Nat) → (t : Text) → Text
  | _, [] => []
  | n, c :: t => if c.utf8Size ≤ n then c :: takeBytes (n - c.utf8Size) t else []

/-- The text before the first character that satisfies `p`, and the text after it. -/
def splitFirst? (p : Char → Bool) : Text → Option (Text × Text)
  | [] => none
  | c :: t => if p c then some ([], t) else (splitFirst? p t).map fun (a, b) => (c :: a, b)

/-! ### Cutting and joining -/

theorem pieces_ne_nil (sep : Char) (t : Text) : pieces sep t ≠ [] := by
  cases t with
  | nil => simp [pieces]
  | cons c t =>
    simp only [pieces]
    split
    · simp
    · split <;> simp

theorem joinWith_cons (glue p : Text) {ps : List Text} (h : ps ≠ []) :
    joinWith glue (p :: ps) = p ++ glue ++ joinWith glue ps := by
  cases ps with
  | nil => exact absurd rfl h
  | cons q ps => rfl

/-- Joining the pieces with the separator gives the text back. -/
theorem joinWith_pieces (sep : Char) (t : Text) : joinWith [sep] (pieces sep t) = t := by
  induction t with
  | nil => rfl
  | cons c t ih =>
    simp only [pieces]
    split
    · next h => simp [joinWith_cons _ _ (pieces_ne_nil sep t), ih, h]
    · split
      · next h => exact absurd h (pieces_ne_nil sep t)
      · next p ps h =>
        rw [h] at ih
        cases ps with
        | nil => simp_all [joinWith]
        | cons q ps => simp_all [joinWith]

/-- A text begins with `start` exactly when it is `start` and what follows it. -/
theorem afterStart?_eq_some_iff {start t rest : Text} :
    afterStart? start t = some rest ↔ t = start ++ rest := by
  induction start generalizing t with
  | nil => simp [afterStart?]
  | cons a start ih =>
    cases t with
    | nil => simp [afterStart?]
    | cons c t =>
      by_cases h : a = c
      · simp [afterStart?, h, ih]
      · simp [afterStart?, h, Ne.symm h]

/-- What is cut at the first hit: the part before it has no hit, and nothing else is lost. -/
theorem splitFirst?_eq_some {p : Char → Bool} {t a b : Text} (h : splitFirst? p t = some (a, b)) :
    (∀ c ∈ a, p c = false) ∧ ∃ c, p c = true ∧ t = a ++ c :: b := by
  induction t generalizing a with
  | nil => simp [splitFirst?] at h
  | cons c t ih =>
    by_cases hc : p c = true
    · simp [splitFirst?, hc] at h
      obtain ⟨rfl, rfl⟩ := h
      exact ⟨by simp, c, hc, rfl⟩
    · rw [splitFirst?, if_neg hc, Option.map_eq_some_iff] at h
      obtain ⟨⟨a', b'⟩, hab, heq⟩ := h
      obtain ⟨rfl, rfl⟩ := Prod.mk.inj heq
      obtain ⟨hall, d, hd, rfl⟩ := ih hab
      exact ⟨by simpa [hc] using hall, d, hd, rfl⟩

theorem splitFirst?_append_cons {p : Char → Bool} {a : Text} {c : Char}
    (ha : ∀ d ∈ a, p d = false) (hc : p c = true) (b : Text) :
    splitFirst? p (a ++ c :: b) = some (a, b) := by
  induction a with
  | nil => simp [splitFirst?, hc]
  | cons d a ih =>
    obtain ⟨hd, ha⟩ := List.forall_mem_cons.mp ha
    simp [splitFirst?, hd, ih ha]

/-! ### Bytes -/

theorem byteCount_cons (c : Char) (t : Text) : byteCount (c :: t) = c.utf8Size + byteCount t := rfl

theorem byteCount_append (s t : Text) : byteCount (s ++ t) = byteCount s + byteCount t := by
  induction s with
  | nil => simp [byteCount, total]
  | cons c s ih => rw [List.cons_append, byteCount_cons, byteCount_cons, ih, Nat.add_assoc]

theorem byteCount_eq_zero_iff {t : Text} : byteCount t = 0 ↔ t = [] := by
  cases t with
  | nil => simp [byteCount, total]
  | cons c t =>
    have hpos := c.utf8Size_pos
    rw [byteCount_cons]
    simp
    omega

/-- No more bytes than in the beginning of a text, no more text. -/
theorem eq_of_prefix_of_byteCount_eq {s t : Text} (h : s <+: t) (hcount : byteCount s = byteCount t) :
    s = t := by
  obtain ⟨rest, rfl⟩ := h
  rw [byteCount_append] at hcount
  have hrest : rest = [] := byteCount_eq_zero_iff.mp (by omega)
  rw [hrest, List.append_nil]

/-! ### The end of a text -/

section

variable {c : Char} {s t : Text}

/-- However many stand at the end, all go. -/
theorem trimEnd_append_replicate (c : Char) (t : Text) (n : Nat) :
    trimEnd c (t ++ List.replicate n c) = trimEnd c t := by
  rw [trimEnd, List.reverse_append, List.reverse_replicate, List.dropWhile_append,
    List.dropWhile_replicate_eq_filter_not, List.filter_replicate]
  simp [trimEnd]

/-- Nothing is left to trim. -/
theorem getLast?_trimEnd (c : Char) (t : Text) : (trimEnd c t).getLast? ≠ some c := by
  rw [trimEnd, List.getLast?_reverse]
  intro h
  have hhead := List.head?_dropWhile_not (fun d => decide (d = c)) t.reverse
  simp [h] at hhead

theorem trimEnd_of_getLast? (h : t.getLast? ≠ some c) : trimEnd c t = t := by
  rw [← List.head?_reverse] at h
  rw [trimEnd]
  cases hreverse : t.reverse with
  | nil => simpa using hreverse.symm
  | cons d rest =>
    rw [hreverse, List.head?_cons, ne_eq, Option.some_inj] at h
    rw [List.dropWhile_cons_of_neg (by simpa using h), ← hreverse, List.reverse_reverse]

/-- The trimmed text does not end with the character, and has been followed by it alone. -/
theorem trimEnd_eq_iff :
    trimEnd c t = s ↔ s.getLast? ≠ some c ∧ ∃ n, t = s ++ List.replicate n c := by
  constructor
  · rintro rfl
    refine ⟨getLast?_trimEnd c t, (t.reverse.takeWhile (· = c)).length, ?_⟩
    have hrun : t.reverse.takeWhile (· = c) =
        List.replicate (t.reverse.takeWhile (· = c)).length c := by
      apply List.eq_replicate_of_mem
      intro d hd
      simpa using List.all_eq_true.mp List.all_takeWhile d hd
    have hsplit := List.takeWhile_append_dropWhile (p := (· = c)) (l := t.reverse)
    rw [hrun] at hsplit
    rw [trimEnd, ← List.reverse_replicate, ← List.reverse_append, hsplit, List.reverse_reverse]
  · rintro ⟨hs, n, rfl⟩
    rw [trimEnd_append_replicate, trimEnd_of_getLast? hs]

end

end Text

end DirPicker
