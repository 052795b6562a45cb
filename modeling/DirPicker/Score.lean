import DirPicker.Double

/-!
# Scores

A candidate is pinned or has a rank from the history. The cell that shows a score is three columns
wide: the rank as a rounded integer, or a star.
-/

namespace DirPicker

inductive Score
  /-- A rank from the history. -/
  | ranked (value : Double)
  /-- Always listed first. -/
  | pinned
deriving DecidableEq, Repr

namespace Score

/-- The width of a score cell; a longer number is never cut. -/
def cellWidth : Nat := 3

def padLeft (width : Nat) (t : Text) : Text := List.replicate (width - t.length) ' ' ++ t

def cell : Score → Text
  | .ranked value => padLeft cellWidth value.whole
  | .pinned => padLeft cellWidth ['*']

/-- How scores compare: pinned above every rank, ranks as numbers. -/
def compare? : Score → Score → Option Ordering
  | .ranked x, .ranked y => x.compare? y
  | .ranked _, .pinned => some .lt
  | .pinned, .ranked _ => some .gt
  | .pinned, .pinned => some .eq

def equal (a b : Score) : Bool := a.compare? b = some .eq

end Score

end DirPicker
