import DirPicker.Proofs.FilterMeaning

/-!
# No character of a filter is an operator

`Concatenates ps x` says that a pattern is the concatenation of the parts `ps`, each of them a run
or a character that stands for itself, and that nothing else is in it: no class, no anchor, no other
repetition, no group and no flag. A pattern is so in at most one way (`Concatenates.unique`). The
main statement says of every filter that its expression is read as the concatenation of its parts,

    expression_exact : ∃ tree node, parse (expression f) = .ok tree ∧
      (∀ ps, Concatenates ps tree ↔ ps = parts f) ∧ …

that nothing but its size can keep it from being compiled, and that the filter is what is left of
the parts without the runs.

Since the parts can be told from what is read, they can be told from the text as well
(`texts_injective`); so the expressions of different filters differ.
-/

namespace DirPicker.Filter

open Pattern

/-- `Concatenates ps x`: the pattern `x` is the concatenation of the parts `ps`. -/
inductive Concatenates : List Part → Syntax → Prop
  | empty : Concatenates [] .empty
  | run (dot span : Span) : Concatenates [.run] (.repeated (.dot dot) 0 none true span)
  | char (c : Char) : Concatenates [.char c] (.char c)
  | cat {ps qs x y} (span : Span) : Concatenates ps x → Concatenates qs y →
      Concatenates (ps ++ qs) (.cat x y span)

def Part.char? : Part → Option Char
  | .run => none
  | .char c => some c

/-! ### What a pattern is the concatenation of -/

/-- A pattern is taken apart in one way only. -/
theorem Concatenates.unique {ps qs : List Part} {x : Syntax} (hps : Concatenates ps x)
    (hqs : Concatenates qs x) : ps = qs := by
  -- The constructors of the pattern tell which parts it consists of.
  induction hps generalizing qs with
  | empty => cases hqs; rfl
  | run dot span => cases hqs; rfl
  | char c => cases hqs; rfl
  | cat span _ _ ihx ihy =>
    cases hqs with
    | cat _ hx hy => rw [ihx hx, ihy hy]

theorem concatenates_tree (p : Part) (rest : Text) : Concatenates [p] (p.tree rest) := by
  cases p with
  | run => exact .run _ _
  | char c => exact .char c

/-- What the parts are read as is their concatenation. -/
theorem concatenates_chain (span : Span) (ps : List Part) :
    Concatenates ps (Syntax.chain span (trees ps)) := by
  induction ps with
  | nil => exact .empty
  | cons p ps ih =>
    have hp : Concatenates [p] (p.tree (texts ps)) := concatenates_tree p (texts ps)
    -- The last part is no link of the chain but its end.
    cases ps with
    | nil => exact hp
    | cons q ps =>
      have hrest : trees (q :: ps) ≠ [] := by simp [trees]
      rw [trees, Syntax.chain_cons span _ hrest]
      exact .cat span hp ih

/-- Parts that look the same are the same, because what they look like is read back. -/
theorem texts_injective {ps qs : List Part} (h : texts ps = texts qs) : ps = qs := by
  -- Reading the one text gives one tree, which is the concatenation of both lists.
  have hps := parse_texts ps
  rw [h, parse_texts qs] at hps
  have htree := Except.ok.inj hps
  have hconcatenates := concatenates_chain (.between (texts qs) []) qs
  rw [htree] at hconcatenates
  exact (concatenates_chain _ ps).unique hconcatenates

/-! ### What is left without the runs -/

theorem filterMap_char?_chars (s : Text) : (s.map Part.char).filterMap Part.char? = s := by
  rw [List.filterMap_map]
  exact List.filterMap_some

theorem filterMap_char?_partsBetween (ps : List Text) :
    (partsBetween ps).filterMap Part.char? = Text.joinWith ['/'] ps := by
  induction ps with
  | nil => rfl
  | cons s ps ih =>
    cases ps with
    | nil => exact filterMap_char?_chars s
    | cons p ps =>
      have hglue : [Part.run, .char '/', .run].filterMap Part.char? = ['/'] := rfl
      rw [partsBetween, List.filterMap_append, List.filterMap_append, filterMap_char?_chars, hglue,
        ih]
      rfl

/-- The characters that stand for themselves are those of the filter, in their order. -/
theorem filterMap_char?_parts (f : Text) : (parts f).filterMap Part.char? = f := by
  have hrun : [Part.run].filterMap Part.char? = [] := rfl
  rw [parts, List.filterMap_append, List.filterMap_append, hrun, filterMap_char?_partsBetween,
    Text.joinWith_pieces, List.append_nil]
  rfl

theorem parts_injective {f g : Text} (h : parts f = parts g) : f = g := by
  rw [← filterMap_char?_parts f, h, filterMap_char?_parts]

/-! ### Expressions -/

/-- A filter passes nothing at all only when its machine would be too large. -/
theorem ofFilter_eq_nothing_iff {f : Text} {node : Node}
    (h : Filter.program f = if node.fits then .ok ⟨node⟩ else .error .tooLarge) :
    Matcher.ofFilter f = .nothing ↔ node.fits = false := by
  rw [Matcher.ofFilter, h]
  cases node.fits with
  | true => simp
  | false => simp

/-- Every filter. Its expression is a pattern, the concatenation of a run, the characters of the
pieces with a run, a separator and a run between neighbours, and a run, and of nothing else. It has
a meaning, in which each part reads what it stands for, and the matcher passes nothing at all only
if the machine for that is too large. Without the runs the parts are the filter, and no other filter
has the same expression. -/
theorem expression_exact (f : Text) :
    (∃ tree node, parse (expression f) = .ok tree ∧
      (∀ ps, Concatenates ps tree ↔ ps = parts f) ∧
      tree.node flags = .ok node ∧ node.Takes = (fun _ t _ => Reads (parts f) t) ∧
      Filter.program f = (if node.fits then .ok ⟨node⟩ else .error .tooLarge) ∧
      (Matcher.ofFilter f = .nothing ↔ node.fits = false)) ∧
    (parts f).filterMap Part.char? = f ∧ ∀ g, expression g = expression f → g = f := by
  obtain ⟨node, hnode, htakes, hprogram⟩ := exists_node f
  refine ⟨⟨_, node, ?_, ?_, hnode, htakes, hprogram, ofFilter_eq_nothing_iff hprogram⟩,
    filterMap_char?_parts f, ?_⟩
  · rw [← texts_parts]
    exact parse_texts (parts f)
  · intro ps
    have hconcatenates := concatenates_chain (.between (texts (parts f)) []) (parts f)
    constructor
    · intro hps
      exact hps.unique hconcatenates
    · intro hps
      rw [hps]
      exact hconcatenates
  · intro g h
    rw [← texts_parts, ← texts_parts] at h
    exact parts_injective (texts_injective h)

/-- A repetition operator at the start of a piece, and one behind an empty piece. -/
example : parts ['?', '/', '/', '\x7b'] =
    [.run, .char '?', .run, .char '/', .run, .run, .char '/', .run, .char '\x7b', .run] := by
  decide

end DirPicker.Filter
