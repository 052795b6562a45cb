import DirPicker.Text.Lines

/-!
# What the lines of a text are

`Lined t ls` says without cutting that the text `t` is made up of the lines `ls`: each line goes up
to a line feed, which may have a carriage return in front of it, and the last one may be without an
end. The main statement is that this is what `lines` finds,

    lines_eq_iff : lines t = ls ↔ Lined t ls

so that a text has lines, and has them in one way only.
-/

namespace DirPicker.Text

/-- `Lined t ls`: the text `t` is made up of the lines `ls`. A line that a line feed ends has no
carriage return at its end, since that would belong to the end. -/
inductive Lined : Text → List Text → Prop
  | none : Lined [] []
  | unended {line} : '\n' ∉ line → line ≠ [] → Lined line [line]
  | feed {line t ls} : '\n' ∉ line → line.getLast? ≠ some '\r' → Lined t ls →
      Lined (line ++ '\n' :: t) (line :: ls)
  | returnFeed {line t ls} : '\n' ∉ line → Lined t ls → Lined (line ++ '\r' :: '\n' :: t) (line :: ls)

/-! ### Pieces -/

section

variable {sep : Char} {piece : Text}

theorem pieces_of_notMem (h : sep ∉ piece) : pieces sep piece = [piece] := by
  induction piece with
  | nil => rfl
  | cons c piece ih =>
    rw [List.mem_cons, not_or] at h
    obtain ⟨hc, hpiece⟩ := h
    simp [pieces, Ne.symm hc, ih hpiece]

/-- The first separator ends the first piece. -/
theorem pieces_append_cons (h : sep ∉ piece) (rest : Text) :
    pieces sep (piece ++ sep :: rest) = piece :: pieces sep rest := by
  induction piece with
  | nil => simp [pieces]
  | cons c piece ih =>
    rw [List.mem_cons, not_or] at h
    obtain ⟨hc, hpiece⟩ := h
    simp [pieces, Ne.symm hc, ih hpiece]

end

/-! ### Lines -/

section

variable {line : Text}

theorem dropReturn_append_return (line : Text) : dropReturn (line ++ ['\r']) = line := by
  induction line with
  | nil => rfl
  | cons c line ih =>
    cases line with
    | nil => rfl
    | cons d line => exact congrArg (c :: ·) ih

theorem dropReturn_of_getLast? (h : line.getLast? ≠ some '\r') : dropReturn line = line := by
  induction line with
  | nil => rfl
  | cons c line ih =>
    cases line with
    | nil =>
      have hc : c ≠ '\r' := by simpa using h
      rw [dropReturn, if_neg hc]
    | cons d line =>
      rw [List.getLast?_cons_cons] at h
      exact congrArg (c :: ·) (ih h)

theorem lines_of_notMem (h : '\n' ∉ line) : lines line = if line.isEmpty then [] else [line] := by
  rw [lines, pieces_of_notMem h, linesOfPieces]

/-- A line feed ends a line, which loses a carriage return at its end. -/
theorem lines_append_feed (h : '\n' ∉ line) (t : Text) :
    lines (line ++ '\n' :: t) = dropReturn line :: lines t := by
  rw [lines, pieces_append_cons h, lines]
  cases hpieces : pieces '\n' t with
  | nil => exact absurd hpieces (pieces_ne_nil '\n' t)
  | cons next rest => rfl

theorem lines_append_returnFeed (h : '\n' ∉ line) (t : Text) :
    lines (line ++ '\r' :: '\n' :: t) = line :: lines t := by
  have hreturn : '\n' ∉ line ++ ['\r'] := by simp [h]
  have happend := lines_append_feed hreturn t
  rwa [dropReturn_append_return, List.append_assoc] at happend

end

/-- The lines that a text is made up of are the ones it is cut into. -/
theorem lines_of_lined {t : Text} {ls : List Text} (h : Lined t ls) : lines t = ls := by
  induction h with
  | none => rfl
  | unended hline hne => rw [lines_of_notMem hline, if_neg (by simpa using hne)]
  | feed hline hreturn _ ih => rw [lines_append_feed hline, dropReturn_of_getLast? hreturn, ih]
  | returnFeed hline _ ih => rw [lines_append_returnFeed hline, ih]

/-- Every text is made up of the lines it is cut into. -/
theorem lined_lines (t : Text) : Lined t (lines t) := by
  -- What follows the first line feed is shorter.
  induction hlength : t.length using Nat.strongRecOn generalizing t with
  | _ n ih =>
    by_cases hfeed : '\n' ∈ t
    · obtain ⟨line, rest, rfl, hline⟩ := List.eq_append_cons_of_mem hfeed
      have hrest : Lined rest (lines rest) := by
        refine ih rest.length ?_ rest rfl
        rw [← hlength, List.length_append, List.length_cons]
        omega
      by_cases hreturn : line.getLast? = some '\r'
      · obtain ⟨shorter, rfl⟩ := List.getLast?_eq_some_iff.mp hreturn
        have hshorter : '\n' ∉ shorter := by simp_all
        rw [List.append_assoc, List.singleton_append, lines_append_returnFeed hshorter]
        exact .returnFeed hshorter hrest
      · rw [lines_append_feed hline, dropReturn_of_getLast? hreturn]
        exact .feed hline hreturn hrest
    · rw [lines_of_notMem hfeed]
      cases t with
      | nil => exact .none
      | cons c t => exact .unended hfeed (by simp)

theorem lines_eq_iff {t : Text} {ls : List Text} : lines t = ls ↔ Lined t ls :=
  ⟨fun h => h ▸ lined_lines t, lines_of_lined⟩

end DirPicker.Text
