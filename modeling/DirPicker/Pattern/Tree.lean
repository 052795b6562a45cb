import DirPicker.CharSet

/-!
# Matching trees

A matching tree says how a text may be taken apart: nothing (`empty`), a single character
(`step`), a place that satisfies a condition (`stay`), one part after another (`seq`), a choice
(`alt`) or a repetition (`rep`). What a step accepts and what a condition asks is left open, so
that the same trees serve for patterns, where steps are sets of characters, and for a pattern
laid over a text, where steps and conditions are sets of places (`Pattern.Search`).

Sequences are left-nested, and choices between several parts right-nested; a choice inside another
that does not continue it stands in a `group`. Every place of choice has a number of its own.
-/

namespace DirPicker.Pattern

/-- A way to take a text apart, with steps and conditions of the given kinds. -/
inductive Tree (Step Stay : Type) where
  | empty
  | step (accepts : Step)
  | stay (holds : Stay)
  | seq (a b : Tree Step Stay)
  | alt (id : Nat) (a b : Tree Step Stay)
  | rep (id : Nat) (body : Tree Step Stay) (min : Nat) (max : Option Nat) (greedy : Bool)
  | group (capturing : Bool) (body : Tree Step Stay)
deriving DecidableEq, Repr

namespace Tree

variable {Step Stay Step' Stay' : Type}

def map (f : Step → Step') (g : Stay → Stay') : Tree Step Stay → Tree Step' Stay'
  | .empty => .empty
  | .step s => .step (f s)
  | .stay l => .stay (g l)
  | .seq a b => .seq (a.map f g) (b.map f g)
  | .alt id a b => .alt id (a.map f g) (b.map f g)
  | .rep id body min max greedy => .rep id (body.map f g) min max greedy
  | .group capturing body => .group capturing (body.map f g)

def andThen (a b : Tree Step Stay) : Tree Step Stay :=
  match a with
  | .empty => b
  | a => .seq a b

/-- Whether nothing but the empty text can be taken. -/
def onlyEmpty : Tree Step Stay → Bool
  | .empty => true
  | .step _ => false
  | .stay _ => true
  | .seq a b => b.onlyEmpty && a.onlyEmpty
  | .alt _ a b => a.onlyEmpty && b.onlyEmpty
  | .rep _ body _ _ _ => body.onlyEmpty
  | .group _ body => body.onlyEmpty

/-- Whether the empty text can be taken somewhere, as far as the shape of the tree tells. -/
def nullable : Tree Step Stay → Bool
  | .empty => true
  | .step _ => false
  | .stay _ => true
  | .seq a b => b.nullable && a.nullable
  | .alt _ a b => a.nullable || b.nullable
  | .rep _ body min _ _ => min = 0 || body.nullable
  | .group _ body => body.nullable

/-- A repetition without useless counts: a body that takes only the empty text is taken at most
once. -/
def repeated (id : Nat) (body : Tree Step Stay) (low : Nat) (high : Option Nat) (greedy : Bool) :
    Tree Step Stay :=
  let (low, high) : Nat × Option Nat :=
    if body.onlyEmpty then (min low 1, some (min (high.getD 1) 1)) else (low, high)
  if high = some 0 then .empty
  else if low = 1 ∧ high = some 1 then body
  else .rep id body low high greedy

end Tree

end DirPicker.Pattern
