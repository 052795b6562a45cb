import DirPicker.Filter

/-!
# How the expression of a filter is read

The expression of a filter is a text, and what it matches depends on how that text is read as a
pattern. A `Filter.Part` is what one item of it is meant to be: a run of any characters, or a
character that stands for itself. The main statements are

    texts_parts : texts (parts filter) = expression filter
    parse_texts : parse (texts ps) = .ok (chain … (trees ps))

so that the pattern read is the chain of exactly these parts, and no character of the filter has
become an operator. Both repetition operators and escapes look at what stands behind them; all that
matters there is that no part begins like a repetition operator (`startsRepetition_texts`).
-/

namespace DirPicker.Pattern

/-! ### Reading one item -/

section

variable {t : Text} (h : startsRepetition t = false) (fuel : Nat)

include h

theorem repetitions_eq_self (start : Text) (x : Syntax) :
    repetitions false start fuel x t = .ok (x, t) := by
  cases fuel with
  | zero => rfl
  | succ fuel =>
    unfold repetitions
    simp only [skip, Bool.false_eq_true, if_false]
    split
    all_goals first
      | rfl
      | simp [startsRepetition] at h

theorem repetitions_star (start : Text) (x : Syntax) :
    repetitions false start (fuel + 1) x ('*' :: t) =
      .ok (.repeated x 0 none true (.between start t), t) := by
  unfold repetitions
  simp only [skip, Bool.false_eq_true, if_false]
  split
  all_goals simp_all [startsRepetition, repetitions_eq_self]

variable (inner : Cursor → Except Failure (Syntax × Cursor)) (names : GroupNames)

/-- Any run of characters is read as one item. -/
theorem step_dotStar :
    step (fuel + 1) inner ⟨'.' :: '*' :: t, false, names⟩ =
      .ok (.item (.repeated (.dot (.head ('.' :: '*' :: t))) 0 none true
        (.between ('.' :: '*' :: t) t)) ⟨t, false, names⟩) := by
  simp [step, skip, finish, repetitions_star h, bind, Except.bind]

/-- A character without a meaning is read as itself. -/
theorem step_plain {c : Char} (hc : isMeta c = false) :
    step (fuel + 1) inner ⟨c :: t, false, names⟩ = .ok (.item (.char c) ⟨t, false, names⟩) := by
  unfold step
  simp only [skip, Bool.false_eq_true, if_false]
  split
  all_goals simp_all [finish, startsRepetition, repetitions_eq_self, bind, Except.bind, isMeta]

theorem step_escaped {c : Char} (hc : isMeta c = true) :
    step (fuel + 1) inner ⟨'\\' :: c :: t, false, names⟩ =
      .ok (.item (.char c) ⟨t, false, names⟩) := by
  have hread : escape false ('\\' :: c :: t) = .ok (.char c, t) := by
    simp only [isMeta, List.mem_cons, List.not_mem_nil, or_false, decide_eq_true_eq] at hc
    rcases hc with rfl | rfl | rfl | rfl | rfl | rfl | rfl | rfl | rfl | rfl | rfl | rfl | rfl |
      rfl | rfl | rfl | rfl | rfl <;> rfl
  simp [step, skip, finish, hread, repetitions_eq_self h, bind, Except.bind]

end

/-! ### Chains of items -/

namespace Syntax

/-- The concatenation of items in order. -/
def chain (span : Span) : List Syntax → Syntax
  | [] => .empty
  | [x] => x
  | x :: y :: xs => .cat x (chain span (y :: xs)) span

theorem chain_cons (span : Span) (x : Syntax) {xs : List Syntax} (h : xs ≠ []) :
    chain span (x :: xs) = .cat x (chain span xs) span := by
  cases xs with
  | nil => exact absurd rfl h
  | cons y xs => rfl

theorem ofReversed_append (span : Span) {xs : List Syntax} (h : xs ≠ []) (x : Syntax) :
    ofReversed span (xs ++ [x]) = .cat x (ofReversed span xs) span := by
  cases xs with
  | nil => exact absurd rfl h
  | cons y xs => simp [ofReversed, List.foldl_append]

theorem ofReversed_reverse (span : Span) (xs : List Syntax) :
    ofReversed span xs.reverse = chain span xs := by
  induction xs with
  | nil => rfl
  | cons x xs ih =>
    cases xs with
    | nil => rfl
    | cons y xs =>
      have hne : (y :: xs).reverse ≠ [] := by simp
      rw [List.reverse_cons, ofReversed_append span hne, ih, chain]

/-- Whether `x` holds at most one level, wherever it stands. -/
def IsShallow (x : Syntax) : Prop := ∀ chain budget, x.tooDeep? chain (budget + 1) = none

/-- A chain takes one level, however long it is. -/
theorem tooDeep?_chain (span : Span) {xs : List Syntax} (h : ∀ x ∈ xs, x.IsShallow)
    (budget : Nat) :
    (chain span xs).tooDeep? .cat (budget + 1) = none ∧
      (chain span xs).tooDeep? .none (budget + 2) = none := by
  induction xs with
  | nil => exact ⟨rfl, rfl⟩
  | cons x xs ih =>
    have hx : x.IsShallow := h x (by simp)
    cases xs with
    | nil => exact ⟨hx .cat budget, hx .none (budget + 1)⟩
    | cons y xs =>
      obtain ⟨hrest, -⟩ := ih fun z hz => h z (by simp [hz])
      constructor
      · simp [chain, tooDeep?, hx .none budget, hrest]
      · simp [chain, tooDeep?, enter, hx .none budget, hrest]

end Syntax

end DirPicker.Pattern

namespace DirPicker.Filter

open Pattern

/-- What the expression of a filter is made of. -/
inductive Part
  /-- Any characters but line feeds. -/
  | run
  /-- A character that stands for itself. -/
  | char (c : Char)
deriving DecidableEq, Repr

namespace Part

def text : Part → Text
  | .run => anyRun
  | .char c => escape [c]

/-- How the part is read when `rest` follows it. -/
def tree (rest : Text) : Part → Syntax
  | .run =>
    .repeated (.dot (.head (anyRun ++ rest))) 0 none true (.between (anyRun ++ rest) rest)
  | .char c => .char c

end Part

def texts (ps : List Part) : Text := ps.flatMap Part.text

def trees : List Part → List Syntax
  | [] => []
  | p :: ps => p.tree (texts ps) :: trees ps

/-- The parts for the pieces of a filter. -/
def partsBetween : List Text → List Part
  | [] => []
  | [s] => s.map .char
  | s :: p :: ps => s.map .char ++ [.run, .char '/', .run] ++ partsBetween (p :: ps)

def parts (filter : Text) : List Part := [.run] ++ partsBetween (Text.pieces '/' filter) ++ [.run]

/-! ### Writing parts -/

theorem texts_cons (p : Part) (ps : List Part) : texts (p :: ps) = p.text ++ texts ps := rfl

theorem texts_append (ps qs : List Part) : texts (ps ++ qs) = texts ps ++ texts qs :=
  List.flatMap_append

theorem texts_chars (s : Text) : texts (s.map .char) = escape s := by
  induction s with
  | nil => rfl
  | cons c s ih =>
    rw [List.map_cons, texts_cons, ih]
    simp [Part.text, escape]

theorem texts_partsBetween (ps : List Text) :
    texts (partsBetween ps) = Text.joinWith (anyRun ++ ['/'] ++ anyRun) (ps.map escape) := by
  induction ps with
  | nil => rfl
  | cons s ps ih =>
    cases ps with
    | nil => exact texts_chars s
    | cons p ps =>
      have hglue : texts [.run, .char '/', .run] = anyRun ++ ['/'] ++ anyRun := rfl
      rw [partsBetween, texts_append, texts_append, texts_chars, ih, hglue]
      rfl

/-- The expression of a filter is what its parts look like. -/
theorem texts_parts (filter : Text) : texts (parts filter) = expression filter := by
  rw [parts, texts_append, texts_append, texts_partsBetween]
  simp [texts, Part.text, expression]

/-! ### Reading parts -/

/-- No part begins with a repetition operator, so that no part repeats the one in front of it. -/
theorem startsRepetition_texts (ps : List Part) : startsRepetition (texts ps) = false := by
  cases ps with
  | nil => rfl
  | cons p ps =>
    cases p with
    | run => rfl
    | char c =>
      rw [texts_cons, Part.text, escape, List.flatMap_singleton]
      split
      · rfl
      · next h =>
        simp only [isMeta] at h
        unfold startsRepetition
        split <;> simp_all

/-- Whatever parts follow, the first one is read alone. -/
theorem step_part (fuel : Nat) (inner : Cursor → Except Failure (Syntax × Cursor)) (p : Part)
    (ps : List Part) :
    step (fuel + 1) inner ⟨texts (p :: ps), false, []⟩ =
      .ok (.item (p.tree (texts ps)) ⟨texts ps, false, []⟩) := by
  have h := startsRepetition_texts ps
  cases p with
  | run => exact step_dotStar h fuel inner []
  | char c =>
    rw [texts_cons, Part.text, escape, List.flatMap_singleton]
    cases hc : isMeta c with
    | true => exact step_escaped h fuel inner [] hc
    | false => exact step_plain h fuel inner [] hc

/-- Reading on from items that have been read, which are given last first. -/
theorem branches_texts (fuel : Nat) (start here : Text) (items : List Syntax) (ps : List Part)
    (h : ps.length < fuel) :
    branches fuel start [] here items ⟨texts ps, false, []⟩ =
      .ok (.ofReversed (.between here []) ((trees ps).reverse ++ items), ⟨[], false, []⟩) := by
  induction ps generalizing fuel items with
  | nil =>
    cases fuel with
    | zero => simp at h
    | succ fuel => rfl
  | cons p ps ih =>
    cases fuel with
    | zero => simp at h
    | succ fuel =>
      have hlt : ps.length < fuel := by simpa using h
      -- One step reads `p` and leaves the texts of `ps`, with the tree of `p` on top of the items.
      rw [branches]
      simp only [step_part, bind, Except.bind]
      rw [ih fuel _ hlt]
      simp [trees]

/-- However long a filter is, it is not nested deeply. -/
theorem isShallow_of_mem_trees (ps : List Part) : ∀ x ∈ trees ps, x.IsShallow := by
  induction ps with
  | nil => simp [trees]
  | cons p ps ih =>
    rintro x (_ | ⟨_, hx⟩)
    · cases p <;> exact fun chain budget => rfl
    · exact ih x hx

theorem length_le_length_texts (ps : List Part) : ps.length ≤ (texts ps).length := by
  induction ps with
  | nil => simp
  | cons p ps ih =>
    have hp : 1 ≤ p.text.length := by
      cases p with
      | run => simp [Part.text, anyRun]
      | char c =>
        rw [Part.text, escape, List.flatMap_singleton]
        split <;> simp
    rw [texts_cons, List.length_append, List.length_cons]
    omega

/-- Parts are read as the chain of what each of them is read as. -/
theorem parse_texts (ps : List Part) :
    parse (texts ps) = .ok (Syntax.chain (.between (texts ps) []) (trees ps)) := by
  have hfuel : ps.length < (texts ps).length + 1 := Nat.lt_succ_of_le (length_le_length_texts ps)
  have hread := branches_texts _ (texts ps) (texts ps) [] ps hfuel
  rw [List.append_nil, Syntax.ofReversed_reverse] at hread
  -- The limit on nesting is no limit on the length of a filter.
  have hdepth := (Syntax.tooDeep?_chain (.between (texts ps) [])
    (isShallow_of_mem_trees ps) 248).2
  simp [parse, hread, bind, Except.bind, nestLimit, hdepth]

end DirPicker.Filter
