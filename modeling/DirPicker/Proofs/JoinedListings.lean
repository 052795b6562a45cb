import DirPicker.Proofs.ListingFormat
import Mathlib.Control.Monad.Basic

/-!
# Listings one behind another

A text that ends where a line begins has its own lines in front of those of whatever is put behind
it (`lines_append`). So two listings make one: it holds the entries of both, and it is malformed at
the line where the first one is, or else at the line where the second one is, counted on from the
lines of the first. In between a listing may be silent for as long as it likes. The main statement,
`parse_append`, has all of this, and follows from two equations about the reading of lines,

    parseLines_append : parseLines number (xs ++ ys) = (parseLines number xs).bind fun entries =>
      (parseLines (number + xs.length) ys).map (entries ++ ·)
    parseLines_add : parseLines (n + number) lines = (parseLines number lines).mapError (·.below n)

of which the first joins the entries and the second counts the lines.
-/

namespace DirPicker

namespace Text

/-- The text is empty or its last line has ended, so that a line begins behind it. -/
def AtLineStart (t : Text) : Prop := t = [] ∨ t.getLast? = some '\n'

/-- The text is made up of lines that line feeds end. -/
inductive Whole : Text → Prop
  | nil : Whole []
  | line {line t} : '\n' ∉ line → Whole t → Whole (line ++ '\n' :: t)

theorem whole_of_atLineStart {t : Text} (h : AtLineStart t) : Whole t := by
  -- What follows the first line feed is shorter.
  induction hlength : t.length using Nat.strongRecOn generalizing t with
  | _ n ih =>
    rcases h with rfl | h
    · exact .nil
    · obtain ⟨line, rest, rfl, hline⟩ := List.eq_append_cons_of_mem (List.mem_of_getLast? h)
      have hshorter : rest.length < n := by
        rw [← hlength, List.length_append, List.length_cons]
        omega
      have hrest : AtLineStart rest := by
        cases rest with
        | nil => exact .inl rfl
        | cons c rest => exact .inr (by simpa [List.getLast?_append] using h)
      exact .line hline (ih rest.length hshorter hrest rfl)

section

variable {a b : Text}

/-- The lines of a text in front of another are its own. -/
theorem lines_append (h : Whole a) (b : Text) : lines (a ++ b) = lines a ++ lines b := by
  induction h with
  | nil => rfl
  | line hline _ ih =>
    rw [List.append_assoc, List.cons_append, lines_append_feed hline, lines_append_feed hline, ih,
      List.cons_append]

/-- Each line feed ends a line. -/
theorem length_lines (h : Whole a) : (lines a).length = a.count '\n' := by
  induction h with
  | nil => rfl
  | line hline _ ih =>
    rw [lines_append_feed hline, List.length_cons, ih, List.count_append, List.count_cons_self,
      List.count_eq_zero.mpr hline, Nat.zero_add]

/-- Lines that have ended, or all that is left, stand in front of what follows as lines. -/
theorem lines_append_of_ended (h : AtLineStart a ∨ b = []) : lines (a ++ b) = lines a ++ lines b := by
  rcases h with h | rfl
  · exact lines_append (whole_of_atLineStart h) b
  · simp [lines, pieces, linesOfPieces]

end

end Text

namespace Listing

/-- The error when `n` lines stand in front. -/
def Malformed.below (n : Nat) (e : Malformed) : Malformed := ⟨n + e.line, e.content⟩

/-- The error when `count` lines are put in behind the first `start`. -/
def Malformed.spread (start count : Nat) (e : Malformed) : Malformed :=
  if e.line ≤ start then e else e.below count

/-- All lines of the text are silent. -/
def Quiet (t : Text) : Prop := ∀ line ∈ Text.lines t, Silent line

/-- `Padded t u`: the text `u` is `t` with silent lines put in, any number of times and each time
where a line begins. -/
inductive Padded (t : Text) : Text → Prop
  | refl : Padded t t
  | insert {a b quiet : Text} : Padded t (a ++ b) → a.AtLineStart → Quiet quiet →
      quiet.AtLineStart ∨ b = [] → Padded t (a ++ (quiet ++ b))

@[simp] theorem Malformed.below_zero (e : Malformed) : e.below 0 = e := by
  rw [below, Nat.zero_add]

@[simp] theorem Malformed.below_below (m n : Nat) (e : Malformed) :
    (e.below n).below m = e.below (m + n) := by
  rw [below, below, below, Nat.add_assoc]

/-! ### Lines -/

section

variable {number : Nat} {lines xs ys : List Text} {e : Malformed}

/-- The first lines are read first, and lines behind them are numbered on. -/
theorem parseLines_append (number : Nat) (xs ys : List Text) :
    parseLines number (xs ++ ys) = (parseLines number xs).bind fun entries =>
      (parseLines (number + xs.length) ys).map (entries ++ ·) := by
  -- The line read first shifts the numbers by one, on both sides.
  induction xs generalizing number with
  | nil => cases h : parseLines number ys <;> simp [parseLines, Except.bind, Except.map, h]
  | cons line xs ih =>
    have hnumber : number + (line :: xs).length = number + 1 + xs.length := by
      rw [List.length_cons]
      omega
    rw [List.cons_append, parseLines, parseLines, hnumber]
    cases readLine line with
    | silent => exact ih (number + 1)
    | malformed => rfl
    | entry entry =>
      simp only [ih]
      cases parseLines (number + 1) xs with
      | error e => rfl
      | ok entries => cases parseLines (number + 1 + xs.length) ys <;> rfl

/-- Lines that are numbered on from others differ in the numbers alone. -/
theorem parseLines_add (n number : Nat) (lines : List Text) :
    parseLines (n + number) lines = (parseLines number lines).mapError (·.below n) := by
  induction lines generalizing number with
  | nil => rfl
  | cons line lines ih =>
    rw [parseLines, parseLines]
    cases readLine line with
    | silent => exact ih (number + 1)
    | malformed => rfl
    | entry entry =>
      simp only [Nat.add_assoc, ih]
      cases parseLines (number + 1) lines <;> rfl

/-- From silent lines nothing is read. -/
theorem parseLines_of_silent (h : ∀ line ∈ lines, Silent line) (number : Nat) :
    parseLines number lines = .ok [] := by
  induction lines generalizing number with
  | nil => rfl
  | cons line lines ih =>
    obtain ⟨hline, hlines⟩ := List.forall_mem_cons.mp h
    rw [parseLines, readLine_of_silent hline]
    exact ih hlines (number + 1)

/-- The line of an error is one of those that are read. -/
theorem line_bounds (h : parseLines number lines = .error e) :
    number ≤ e.line ∧ e.line < number + lines.length := by
  obtain ⟨before, after, rfl, -, -, hline⟩ := parseLines_eq_error_iff.mp h
  rw [hline, List.length_append, List.length_cons]
  omega

/-- Silent lines among others do nothing but count. -/
theorem parseLines_spread (h : ∀ line ∈ lines, Silent line) (xs ys : List Text) :
    parseLines 1 (xs ++ (lines ++ ys)) =
      (parseLines 1 (xs ++ ys)).mapError (·.spread xs.length lines.length) := by
  rw [parseLines_append, parseLines_append 1 xs ys]
  cases hxs : parseLines 1 xs with
  | error e =>
    -- The error is among the lines in front, which stay where they are.
    have hbounds := line_bounds hxs
    have hspread : e.spread xs.length lines.length = e := if_pos (by omega)
    simp only [Except.bind, Except.mapError, hspread]
  | ok entries =>
    have hbehind : parseLines (1 + xs.length) (lines ++ ys) =
        (parseLines (1 + xs.length) ys).mapError (·.below lines.length) := by
      rw [parseLines_append, parseLines_of_silent h, Nat.add_comm _ lines.length, parseLines_add]
      cases parseLines (1 + xs.length) ys <;> rfl
    simp only [Except.bind, hbehind]
    cases hys : parseLines (1 + xs.length) ys with
    | ok more => rfl
    | error e =>
      -- The error is among the lines behind, which are moved.
      have hbounds := line_bounds hys
      have hspread : e.spread xs.length lines.length = e.below lines.length := if_neg (by omega)
      simp only [Except.map, Except.mapError, hspread]

end

/-! ### Texts -/

section

variable {a b quiet t u : Text}

/-- What begins on a line of its own is read on its own; only the number in an error counts the
lines in front. -/
theorem parse_append_eq (h : a.AtLineStart) (b : Text) :
    parse (a ++ b) = (parse a).bind fun entries =>
      ((parse b).mapError (·.below (Text.lines a).length)).map (entries ++ ·) := by
  have hnumber : 1 + (Text.lines a).length = (Text.lines a).length + 1 := by omega
  rw [parse, Text.lines_append (Text.whole_of_atLineStart h), parseLines_append, hnumber]
  simp only [parseLines_add]
  rfl

/-- Silent lines put in where a line begins change nothing but the number in an error behind them.
-/
theorem parse_insert (ha : a.AtLineStart) (hquiet : Quiet quiet)
    (hended : quiet.AtLineStart ∨ b = []) :
    parse (a ++ (quiet ++ b)) =
      (parse (a ++ b)).mapError (·.spread (Text.lines a).length (Text.lines quiet).length) := by
  have hlines := Text.lines_append (Text.whole_of_atLineStart ha)
  rw [parse, parse, hlines, hlines, Text.lines_append_of_ended hended]
  exact parseLines_spread hquiet _ _

/-- Silent lines put in anywhere keep the entries, and move a malformed line down. -/
theorem parse_of_padded (h : Padded t u) :
    (∀ entries, parse t = .ok entries → parse u = .ok entries) ∧
    ∀ e, parse t = .error e → ∃ n, parse u = .error (e.below n) := by
  induction h with
  | refl => exact ⟨fun _ h => h, fun e h => ⟨0, by rwa [Malformed.below_zero]⟩⟩
  | @insert a b quiet _ ha hquiet hended ih =>
    rw [parse_insert ha hquiet hended]
    constructor
    · intro entries h
      rw [ih.1 entries h]
      rfl
    · intro e h
      obtain ⟨n, hn⟩ := ih.2 e h
      -- By now the error is `n` lines further down, and these lines stand in front of it or behind.
      rw [hn]
      simp only [Except.mapError, Malformed.spread]
      split
      · exact ⟨n, rfl⟩
      · exact ⟨(Text.lines quiet).length + n, by rw [Malformed.below_below]⟩

end

/-- A listing behind a text that ends where a line begins: if the first is malformed, so are the two
together, at the same line; otherwise the second decides, its lines counted on from those of the
first, of which there are as many as line feeds. Silent lines put in where a line begins change no
entry, and an error by their number alone, if they stand in front of its line. -/
theorem parse_append {a b : Text} (ha : a.AtLineStart) :
    (∀ e, parse a = .error e → parse (a ++ b) = .error e) ∧
    (∀ entries, parse a = .ok entries →
      (∀ e, parse b = .error e →
        parse (a ++ b) = .error ⟨(Text.lines a).length + e.line, e.content⟩) ∧
      ∀ more, parse b = .ok more → parse (a ++ b) = .ok (entries ++ more)) ∧
    (Text.lines a).length = a.count '\n' ∧
    (∀ quiet, Quiet quiet → quiet.AtLineStart ∨ b = [] →
      parse (a ++ (quiet ++ b)) =
        (parse (a ++ b)).mapError (·.spread (Text.lines a).length (Text.lines quiet).length)) ∧
    ∀ t u, Padded t u →
      (∀ entries, parse t = .ok entries → parse u = .ok entries) ∧
      ∀ e, parse t = .error e → ∃ n, parse u = .error ⟨n + e.line, e.content⟩ := by
  have happend := parse_append_eq ha b
  refine ⟨?_, ?_, Text.length_lines (Text.whole_of_atLineStart ha), ?_, ?_⟩
  · intro e h
    rw [happend, h]
    rfl
  · intro entries h
    rw [happend, h]
    constructor
    · intro e he
      rw [he]
      rfl
    · intro more hmore
      rw [hmore]
      rfl
  · intro quiet hquiet hended
    exact parse_insert ha hquiet hended
  · intro t u h
    exact parse_of_padded h

/-- An entry, and behind it a listing that is malformed at its second line: together they are at the
third, and with a comment between them at the fourth. -/
theorem parse_append_of_malformed :
    let a : Text := "2 /a\r\n".toList
    let b : Text := "1 /b\nx".toList
    let quiet : Text := "#c\r\n".toList
    a.AtLineStart ∧ parse a = .ok [⟨⟨0x4000000000000000⟩, ['/', 'a']⟩] ∧ parse b = .error ⟨2, ['x']⟩ ∧
      parse (a ++ b) = .error ⟨3, ['x']⟩ ∧
      Quiet quiet ∧ parse (a ++ (quiet ++ b)) = .error ⟨4, ['x']⟩ := by
  intro a b quiet
  have hstart : a.AtLineStart := .inr (by decide +kernel)
  have ha : parse a = .ok [⟨⟨0x4000000000000000⟩, ['/', 'a']⟩] := by decide +kernel
  have hb : parse b = .error ⟨2, ['x']⟩ := by decide +kernel
  have hquiet : Quiet quiet := by
    have hlines : Text.lines quiet = [['#', 'c']] := by decide +kernel
    intro line hline
    rw [hlines, List.mem_singleton] at hline
    rw [hline]
    exact @Silent.comment [] ['c'] (by decide)
  obtain ⟨-, hjoined, -, hinsert, -⟩ := parse_append (b := b) hstart
  have hab : parse (a ++ b) = .error ⟨3, ['x']⟩ := (hjoined _ ha).1 _ hb
  refine ⟨hstart, ha, hb, hab, hquiet, ?_⟩
  rw [hinsert quiet hquiet (.inl (.inr (by decide +kernel))), hab]
  rfl

end Listing

end DirPicker
