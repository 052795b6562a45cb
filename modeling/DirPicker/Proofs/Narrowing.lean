import DirPicker.Candidates
import DirPicker.Proofs.FilterMeaning
import Mathlib.Data.List.Basic

/-!
# Narrowing a list again

A filter that is typed on narrows the list further, and one that is cut back widens it. A part of a
filter may begin and end in the middle of a piece, so that pieces are the wrong measure here.
`Meets` reads a filter character by character instead: a separator asks for one with no line feed
between here and there, and any other character asks for itself, in either case. That is the same
(`begins_iff_meets`), and from it a part of a filter is met wherever the filter is. The main
statement says what this means for lists:

    narrow_of_infix : for `f` in `g`, `narrow L home g` is a sublist of `narrow L home f`, and
      narrowing by both, in either order, is narrowing by `g`
-/

namespace DirPicker

namespace Filter

open Unicode

/-- Whether the text begins with what the filter asks for, one character after another. -/
def Meets : (filter t : Text) → Prop
  | [], _ => True
  | a :: f, t =>
    if a = '/' then ∃ g h u, t = g ++ '/' :: h ++ u ∧ '\n' ∉ g ∧ '\n' ∉ h ∧ Meets f u
    else ∃ d u, t = d :: u ∧ foldChar d = foldChar a ∧ Meets f u

/-- Whether what the filter asks for stands somewhere in the text. -/
def Occurs (filter t : Text) : Prop := ∃ x u, t = x ++ u ∧ Meets filter u

section

variable {f g t : Text} {a : Char}

/-- A separator is met with any characters but line feeds in front of it and behind it. -/
theorem meets_separator : Meets ('/' :: f) t ↔
    ∃ g h u, t = g ++ '/' :: h ++ u ∧ '\n' ∉ g ∧ '\n' ∉ h ∧ Meets f u := by
  rw [Meets, if_pos rfl]

/-- Any other character is met by one that is equal up to case. -/
theorem meets_cons (h : a ≠ '/') :
    Meets (a :: f) t ↔ ∃ d u, t = d :: u ∧ foldChar d = foldChar a ∧ Meets f u := by
  rw [Meets, if_neg h]

/-! ### Pieces -/

theorem sameUpToCase_nil : SameUpToCase [] [] := rfl

theorem begins_nil_cons {ps : List Text} (hps : ps ≠ []) : Begins ([] :: ps) t ↔
    ∃ g h u, t = g ++ '/' :: h ++ u ∧ '\n' ∉ g ∧ '\n' ∉ h ∧ Begins ps u := by
  cases ps with
  | nil => exact absurd rfl hps
  | cons p ps =>
    constructor
    · intro hb
      cases hb with
      | @more _ s' g h _ _ u hs hg hh hu =>
        obtain rfl : s' = [] := List.map_eq_nil_iff.mp hs
        exact ⟨g, h, u, rfl, hg, hh, hu⟩
    · rintro ⟨g, h, u, rfl, hg, hh, hu⟩
      exact Begins.more sameUpToCase_nil hg hh hu

theorem begins_cons_cons {p : Text} {ps : List Text} : Begins ((a :: p) :: ps) t ↔
    ∃ d u, t = d :: u ∧ foldChar d = foldChar a ∧ Begins (p :: ps) u := by
  -- The first character of a piece is matched by itself, and the rest of the piece by the rest.
  have hsplit : ∀ {s'}, SameUpToCase (a :: p) s' ↔
      ∃ d s'', s' = d :: s'' ∧ foldChar d = foldChar a ∧ SameUpToCase p s'' := by
    intro s'
    rw [SameUpToCase, List.map_cons, List.map_eq_cons_iff]
    simp only [SameUpToCase]
  constructor
  · intro hb
    cases hb with
    | last hs =>
      obtain ⟨d, s'', rfl, hd, hs⟩ := hsplit.mp hs
      exact ⟨d, _, rfl, hd, .last hs⟩
    | more hs hg hh hu =>
      obtain ⟨d, s'', rfl, hd, hs⟩ := hsplit.mp hs
      exact ⟨d, _, rfl, hd, .more hs hg hh hu⟩
  · rintro ⟨d, u, rfl, hd, hb⟩
    cases hb with
    | last hs => exact .last (hsplit.mpr ⟨d, _, rfl, hd, hs⟩)
    | more hs hg hh hu => exact .more (hsplit.mpr ⟨d, _, rfl, hd, hs⟩) hg hh hu

/-- A text begins with the pieces of a filter exactly when it meets the filter. -/
theorem begins_iff_meets : Begins (Text.pieces '/' f) t ↔ Meets f t := by
  induction f generalizing t with
  | nil =>
    refine ⟨fun _ => trivial, fun _ => ?_⟩
    exact Begins.last sameUpToCase_nil
  | cons a f ih =>
    -- A separator opens a new piece, and any other character goes to the first one.
    by_cases ha : a = '/'
    · subst ha
      have hpieces : Text.pieces '/' ('/' :: f) = [] :: Text.pieces '/' f := by simp [Text.pieces]
      rw [hpieces, begins_nil_cons (Text.pieces_ne_nil '/' f), meets_separator]
      simp only [ih]
    · obtain ⟨p, ps, hp⟩ := List.exists_cons_of_ne_nil (Text.pieces_ne_nil '/' f)
      have hpieces : Text.pieces '/' (a :: f) = (a :: p) :: ps := by simp [Text.pieces, ha, hp]
      rw [hpieces, begins_cons_cons, meets_cons ha, ← hp]
      simp only [ih]

/-! ### Parts of a filter -/

/-- A text that begins with the filter meets it. -/
theorem meets_append (f y : Text) : Meets f (f ++ y) := by
  induction f with
  | nil => trivial
  | cons a f ih =>
    by_cases ha : a = '/'
    · subst ha
      exact meets_separator.mpr ⟨[], [], f ++ y, rfl, by simp, by simp, ih⟩
    · exact (meets_cons ha).mpr ⟨a, f ++ y, rfl, rfl, ih⟩

/-- What meets a filter meets any first part of it. -/
theorem Meets.of_append {v : Text} (h : Meets (f ++ v) t) : Meets f t := by
  induction f generalizing t with
  | nil => trivial
  | cons a f ih =>
    rw [List.cons_append] at h
    by_cases ha : a = '/'
    · subst ha
      obtain ⟨g, k, u, rfl, hg, hk, hu⟩ := meets_separator.mp h
      exact meets_separator.mpr ⟨g, k, u, rfl, hg, hk, ih hu⟩
    · obtain ⟨d, u, rfl, hd, hu⟩ := (meets_cons ha).mp h
      exact (meets_cons ha).mpr ⟨d, u, rfl, hd, ih hu⟩

/-- What meets a filter meets any last part of it further on. -/
theorem Meets.occurs {w : Text} (h : Meets (w ++ f) t) : Occurs f t := by
  -- The induction is on the part in front; what it takes is passed over.
  induction w generalizing t with
  | nil => exact ⟨[], t, rfl, h⟩
  | cons a w ih =>
    rw [List.cons_append] at h
    by_cases ha : a = '/'
    · subst ha
      obtain ⟨g, k, u, rfl, -, -, hu⟩ := meets_separator.mp h
      obtain ⟨x, v, rfl, hv⟩ := ih hu
      exact ⟨g ++ '/' :: k ++ x, v, by simp, hv⟩
    · obtain ⟨d, u, rfl, -, hu⟩ := (meets_cons ha).mp h
      obtain ⟨x, v, rfl, hv⟩ := ih hu
      exact ⟨d :: x, v, rfl, hv⟩

/-- Where a filter occurs, so does each part of it. -/
theorem Occurs.of_infix (hfg : f <:+: g) (h : Occurs g t) : Occurs f t := by
  obtain ⟨w, v, rfl⟩ := hfg
  obtain ⟨x, u, rfl, hu⟩ := h
  obtain ⟨y, u', rfl, hu'⟩ := hu.of_append.occurs
  exact ⟨x ++ y, u', by simp, hu'⟩

/-- A filter occurs where it stands as it is. -/
theorem occurs_of_infix (h : f <:+: t) : Occurs f t := by
  obtain ⟨x, y, rfl⟩ := h
  exact ⟨x, f ++ y, by simp, meets_append f y⟩

/-! ### What passes -/

/-- A filter passes a text when it compiles and what it asks for stands in the text. -/
theorem passes_iff_occurs : (Matcher.ofFilter f).passes t = true ↔
    Matcher.ofFilter f ≠ .nothing ∧ Occurs f t := by
  cases hp : Filter.program f with
  | error e =>
    have hmatcher : Matcher.ofFilter f = .nothing := by simp [Matcher.ofFilter, hp]
    simp [hmatcher]
  | ok p =>
    have hmatcher : Matcher.ofFilter f = .pattern p := by simp [Matcher.ofFilter, hp]
    rw [hmatcher, Matcher.passes, Pattern.Program.isMatch, Pattern.isMatch_iff, takes_program hp,
      reads_parts_iff]
    simp only [Occurs, begins_iff_meets, ne_eq, reduceCtorEq, not_false_eq_true, true_and]

theorem ofFilter_nil_ne_nothing : Matcher.ofFilter [] ≠ .nothing := by decide +kernel

theorem passes_nil (t : Text) : (Matcher.ofFilter []).passes t = true :=
  passes_iff_occurs.mpr ⟨ofFilter_nil_ne_nothing, [], t, rfl, trivial⟩

end

end Filter

namespace CandidateList

variable (candidates : CandidateList) (home : Home) {f g : Text}

/-- The empty filter is no exception: it passes all candidates. -/
theorem narrow_eq_filter (f : Text) : narrow candidates home f =
    candidates.filter fun c => (Matcher.ofFilter f).passes (home.abbreviate c.path) := by
  cases f with
  | nil => simp [narrow, Filter.passes_nil]
  | cons a f => rfl

/-- The order of two filters makes no difference. -/
theorem narrow_comm (f g : Text) : narrow (narrow candidates home f) home g =
    narrow (narrow candidates home g) home f := by
  simp only [narrow_eq_filter]
  exact List.filter_comm _ _ candidates

/-- A filter that is part of another passes what the other passes. So narrowing by the longer filter
gives a sublist, and the shorter one makes no difference to it, be it applied before or after. What
has the filter in its path, as shown, passes; and the empty filter, for which nothing is compiled,
passes what its pattern passes. -/
theorem narrow_of_infix (hfg : f <:+: g) (hf : f = [] ∨ Matcher.ofFilter f ≠ .nothing) :
    (narrow candidates home g).Sublist (narrow candidates home f) ∧
    narrow (narrow candidates home f) home g = narrow candidates home g ∧
    narrow (narrow candidates home g) home f = narrow candidates home g ∧
    (∀ c ∈ candidates, f <:+: home.abbreviate c.path → c ∈ narrow candidates home f) ∧
    narrow candidates home [] =
      candidates.filter fun c => (Matcher.ofFilter []).passes (home.abbreviate c.path) := by
  have hcompiles : Matcher.ofFilter f ≠ .nothing := by
    obtain rfl | h := hf
    · exact Filter.ofFilter_nil_ne_nothing
    · exact h
  have hpasses : ∀ t, (Matcher.ofFilter g).passes t = true →
      (Matcher.ofFilter f).passes t = true := by
    intro t ht
    obtain ⟨-, hoccurs⟩ := Filter.passes_iff_occurs.mp ht
    exact Filter.passes_iff_occurs.mpr ⟨hcompiles, hoccurs.of_infix hfg⟩
  -- What is left by the longer filter passes the shorter one, so that nothing more goes.
  have hagain : narrow (narrow candidates home g) home f = narrow candidates home g := by
    rw [narrow_eq_filter, List.filter_eq_self]
    intro c hc
    rw [narrow_eq_filter] at hc
    exact hpasses _ (List.mem_filter.mp hc).2
  refine ⟨?_, (narrow_comm candidates home f g).trans hagain, hagain, ?_,
    narrow_eq_filter candidates home []⟩
  · rw [narrow_eq_filter, narrow_eq_filter]
    exact List.monotone_filter_right candidates fun c => hpasses _
  · intro c hc hinfix
    rw [narrow_eq_filter]
    exact List.mem_filter.mpr ⟨hc, Filter.passes_iff_occurs.mpr
      ⟨hcompiles, Filter.occurs_of_infix hinfix⟩⟩

/-- A part that begins and ends within pieces: two of the three paths pass it, and one of the two
passes the whole filter. -/
theorem narrow_of_infix_across_pieces :
    let home : Home := ⟨some ['/', 'h']⟩
    let candidates : CandidateList := [⟨"/h/ab/x/cd".toList, .pinned⟩, ⟨"/h/b/c".toList, .pinned⟩,
      ⟨"/h/bc".toList, .pinned⟩]
    let f : Text := ['b', '/', 'c']
    let g : Text := ['A', 'b', '/', 'c', 'D']
    f <:+: g ∧ Matcher.ofFilter f ≠ .nothing ∧
      narrow candidates home g = [⟨"/h/ab/x/cd".toList, .pinned⟩] ∧
      narrow (narrow candidates home f) home g = [⟨"/h/ab/x/cd".toList, .pinned⟩] ∧
      ⟨"/h/b/c".toList, .pinned⟩ ∈ narrow candidates home f := by
  intro home candidates f g
  have hfg : f <:+: g := ⟨['A'], ['D'], rfl⟩
  have hcompiles : Matcher.ofFilter f ≠ .nothing := by decide +kernel
  have hg : narrow candidates home g = [⟨"/h/ab/x/cd".toList, .pinned⟩] := by decide +kernel
  obtain ⟨-, hboth, -, hmem, -⟩ := narrow_of_infix candidates home hfg (.inr hcompiles)
  exact ⟨hfg, hcompiles, hg, hboth.trans hg, hmem _ (by decide +kernel) ⟨['~', '/'], [], rfl⟩⟩

end CandidateList

end DirPicker
