import DirPicker.Proofs.PrefixExchange

/-!
# Below means: more segments

`Path.hasPrefix` compares characters and asks what comes behind. The segments of a path are its
pieces between separators, empty ones included, and in terms of them the test is a simple one:

    hasPrefix_iff_pieces : hasPrefix path start = true ↔ pieces '/' start <+: pieces '/' path

Both ways go through one cut: where a separator stands between two texts, the segments of the whole
are those of the one and those of the other (`Text.pieces_append_separator`), and joining gives a
text back from its segments. What is known of lists that begin with others then holds of paths that
are below others.
-/

namespace DirPicker

namespace Text

/-! ### Pieces of a text cut anywhere -/

section

variable {ps qs : List Text}

/-- A separator ends the pieces in front of it, whatever they are. -/
theorem pieces_append_separator (sep : Char) (s t : Text) :
    pieces sep (s ++ sep :: t) = pieces sep s ++ pieces sep t := by
  induction s with
  | nil => simp [pieces]
  | cons c s ih =>
    -- A character that is no separator goes to the first piece on both sides.
    by_cases hc : c = sep
    · simp [pieces, hc, ih]
    · simp only [List.cons_append, pieces, if_neg hc, ih]
      cases hs : pieces sep s with
      | nil => exact absurd hs (pieces_ne_nil sep s)
      | cons p ps => simp

theorem joinWith_append (glue : Text) (hps : ps ≠ []) (hqs : qs ≠ []) :
    joinWith glue (ps ++ qs) = joinWith glue ps ++ glue ++ joinWith glue qs := by
  induction ps with
  | nil => exact absurd rfl hps
  | cons p ps ih =>
    cases ps with
    | nil => exact joinWith_cons glue p hqs
    | cons p' ps =>
      have hrest : p' :: ps ++ qs ≠ [] := by simp
      rw [List.cons_append, joinWith_cons glue p hrest, ih (by simp),
        joinWith_cons glue p (by simp)]
      simp

/-- A text is known by its pieces. -/
theorem pieces_injective (sep : Char) : Function.Injective (pieces sep) := by
  intro s t h
  rw [← joinWith_pieces sep s, h, joinWith_pieces]

end

end Text

namespace Path

open Text

variable {path start base : Text}

/-! ### Paths as lists of segments -/

/-- A path is below another when it goes on from it with a whole segment. -/
theorem hasPrefix_iff_extends : hasPrefix path start = true ↔ ∃ rest, Extends start rest path := by
  rw [hasPrefix_iff]
  constructor
  · rintro ⟨rest, hpath, hrest⟩
    exact ⟨rest, hpath, atBoundary_iff.mp hrest⟩
  · rintro ⟨rest, hpath, hrest⟩
    exact ⟨rest, hpath, atBoundary_iff.mpr hrest⟩

/-- The path lies below another, or is it, exactly if its segments begin with those of the other. -/
theorem hasPrefix_iff_pieces :
    hasPrefix path start = true ↔ pieces '/' start <+: pieces '/' path := by
  rw [hasPrefix_iff_extends]
  constructor
  -- What follows begins with a separator, which ends the segments of `start`.
  · rintro ⟨rest, rfl, hrest⟩
    rcases hrest with rfl | ⟨below, rfl⟩
    · exact ⟨[], by simp⟩
    · rw [pieces_append_separator]
      exact List.prefix_append _ _
  · rintro ⟨segments, hsegments⟩
    -- The path is written again from its segments, those of `start` first.
    have hpath : path = joinWith ['/'] (pieces '/' start ++ segments) := by
      rw [hsegments, joinWith_pieces]
    by_cases hnil : segments = []
    · rw [hnil, List.append_nil, joinWith_pieces] at hpath
      exact ⟨[], by simp [hpath], .inl rfl⟩
    · rw [joinWith_append ['/'] (pieces_ne_nil '/' start) hnil, joinWith_pieces] at hpath
      exact ⟨'/' :: joinWith ['/'] segments, by simp [hpath], .inr ⟨_, rfl⟩⟩

/-! ### The order of paths -/

theorem hasPrefix_refl (path : Text) : hasPrefix path path = true :=
  hasPrefix_iff_pieces.mpr List.prefix_rfl

theorem hasPrefix_trans (h : hasPrefix path start = true) (h' : hasPrefix start base = true) :
    hasPrefix path base = true := by
  rw [hasPrefix_iff_pieces] at *
  exact h'.trans h

/-- Two paths below each other are the same. -/
theorem hasPrefix_antisymm (h : hasPrefix path start = true) (h' : hasPrefix start path = true) :
    path = start := by
  rw [hasPrefix_iff_pieces] at h h'
  -- Two lists that begin with each other are as long as each other.
  apply pieces_injective '/'
  exact h'.eq_of_length (Nat.le_antisymm h'.length_le h.length_le)

/-- Of two paths that the same path lies below, one lies below the other. -/
theorem hasPrefix_total {start' : Text} (h : hasPrefix path start = true)
    (h' : hasPrefix path start' = true) :
    hasPrefix start' start = true ∨ hasPrefix start start' = true := by
  simp only [hasPrefix_iff_pieces] at *
  exact List.prefix_or_prefix_of_prefix h h'

/-- The test does not look at what both paths begin with. -/
theorem hasPrefix_append_append (front path start : Text) :
    hasPrefix (front ++ path) (front ++ start) = hasPrefix path start := by
  rw [Bool.eq_iff_iff, hasPrefix_iff, hasPrefix_iff]
  simp only [List.append_assoc, List.append_cancel_left_eq]

/-- All paths. One lies below another, or is it, exactly if its segments begin with those of the
other. So this is an order, in which the paths above one path are in a row; and it stays the same
behind any text. -/
theorem hasPrefix_segment_order :
    (∀ path start, hasPrefix path start = true ↔ pieces '/' start <+: pieces '/' path) ∧
    (∀ path, hasPrefix path path = true) ∧
    (∀ path start base, hasPrefix path start = true → hasPrefix start base = true →
      hasPrefix path base = true) ∧
    (∀ path start, hasPrefix path start = true → hasPrefix start path = true → path = start) ∧
    (∀ path start start', hasPrefix path start = true → hasPrefix path start' = true →
      hasPrefix start' start = true ∨ hasPrefix start start' = true) ∧
    ∀ front path start, hasPrefix (front ++ path) (front ++ start) = hasPrefix path start := by
  refine ⟨?_, hasPrefix_refl, ?_, ?_, ?_, hasPrefix_append_append⟩
  · intro path start
    exact hasPrefix_iff_pieces
  · intro path start base h h'
    exact hasPrefix_trans h h'
  · intro path start h h'
    exact hasPrefix_antisymm h h'
  · intro path start start' h h'
    exact hasPrefix_total h h'

/-- Two separators in a row, and one at the end: the path `a//b` lies below `a/`, hence below `a`,
which does not lie below `a/`; and behind `x` it lies below `xa/`. -/
theorem hasPrefix_segment_order_of_empty_segments :
    pieces '/' "a//b".toList = [['a'], [], ['b']] ∧ pieces '/' "a/".toList = [['a'], []] ∧
      hasPrefix "a//b".toList "a/".toList = true ∧ hasPrefix "a/".toList ['a'] = true ∧
      hasPrefix "a//b".toList ['a'] = true ∧ hasPrefix ['a'] "a/".toList = false ∧
      (hasPrefix ['a'] "a/".toList = true ∨ hasPrefix "a/".toList ['a'] = true) ∧
      hasPrefix "xa//b".toList "xa/".toList = true := by
  obtain ⟨hpieces, -, htrans, hantisymm, htotal, hfront⟩ := hasPrefix_segment_order
  have hslash : hasPrefix "a//b".toList "a/".toList = true := (hpieces _ _).mpr (by decide +kernel)
  have hfirst : hasPrefix "a/".toList ['a'] = true := (hpieces _ _).mpr (by decide +kernel)
  have hbelow := htrans _ _ _ hslash hfirst
  have habove : hasPrefix ['a'] "a/".toList = false := by
    rw [Bool.eq_false_iff]
    intro h
    exact absurd (hantisymm _ _ hfirst h) (by decide +kernel)
  refine ⟨by decide +kernel, by decide +kernel, hslash, hfirst, hbelow, habove, ?_, ?_⟩
  · exact htotal _ _ _ hslash hbelow
  · exact (hfront ['x'] _ _).trans hslash

end Path

end DirPicker
