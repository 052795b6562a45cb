import DirPicker.Pattern.Node

/-!
# Searching a text

A pattern is searched for by laying its tree over the text: each set of characters becomes the
set of places where such a character stands, and each condition the set of places where it holds.
Sets of places are numbers, bit `i` for place `i`; the places of a text of `n` characters are `0`
to `n`.

Two questions are asked of the laid-out tree. `sources` goes from right to left and tells from
which places the tree can reach a set of goals; that alone decides whether a pattern matches.
`firstEnd` goes from left to right and finds the end that comes first in the order of preference:
the left alternative before the right one, and one more repetition before none or the other way
round. It asks `sources` before each step, so that it never follows a way that leads nowhere.

No place of choice is passed twice without a step in between: a repetition whose body takes
nothing is over.
-/

namespace DirPicker.Pattern

/-! ### Places -/

/-- The places before the characters that satisfy `p`. -/
def places (p : Char → Bool) (t : Text) : Nat :=
  t.foldr (fun c rest => 2 * rest + (if p c then 1 else 0)) 0

/-- The places for which `p` holds of the characters on their left and right, `left` being the
character on the left of the first place. -/
def boundaries (p : Option Char → Option Char → Bool) (left : Option Char) : Text → Nat
  | [] => if p left none then 1 else 0
  | c :: t => 2 * boundaries p (some c) t + (if p left (some c) then 1 else 0)

def allPlaces (n : Nat) : Nat := Nat.pow 2 (n + 1) - 1

def isWord (unicode : Bool) (c : Char) : Bool :=
  if c.toNat < 128 then asciiWord.contains c else unicode && wordChars.contains c

/-- Whether the condition holds between two characters; there is none beyond the ends. -/
def Look.holds (look : Look) (left right : Option Char) : Bool :=
  let word (unicode : Bool) (c : Option Char) : Bool := c.any (isWord unicode)
  match look with
  | .start => left.isNone
  | .stop => right.isNone
  | .lineStart => left.all (· = '\n')
  | .lineStop => right.all (· = '\n')
  | .crlfStart => left.all (· = '\n') || (left = some '\r' && right ≠ some '\n')
  | .crlfStop => right.all (· = '\r') || (right = some '\n' && left ≠ some '\r')
  | .boundary unicode => word unicode left != word unicode right
  | .notBoundary unicode => word unicode left == word unicode right
  | .wordStart unicode => !word unicode left && word unicode right
  | .wordStop unicode => word unicode left && !word unicode right
  | .wordStartHalf unicode => !word unicode left
  | .wordStopHalf unicode => !word unicode right

/-- A tree laid over a text: steps and conditions are sets of places. -/
abbrev Laid := Tree Nat Nat

def Node.over (node : Node) (t : Text) : Laid :=
  node.map (fun set => places set.contains t) (fun look => boundaries look.holds none t)

/-! ### From right to left -/

/-- The places from which any number of applications of `f` reach the goals. `f` gives the
places from which one application does; `rounds` bounds how often the set can grow. -/
def closure (f : Nat → Nat) : (rounds : Nat) → (goals : Nat) → Nat
  | 0, goals => goals
  | rounds + 1, goals =>
    let more := goals ||| f goals
    if more = goals then goals else closure f rounds more

/-- `f` applied `n` times. -/
def times (f : Nat → Nat) : (n : Nat) → Nat → Nat
  | 0, goals => goals
  | n + 1, goals => times f n (f goals)

/-- The places from which the tree reaches one of the goals, in a text of `n` characters. -/
def Laid.sources (n : Nat) : Laid → (goals : Nat) → Nat
  | .empty, goals => goals
  | .step here, goals => (goals >>> 1) &&& here
  | .stay here, goals => goals &&& here
  | .seq a b, goals => Laid.sources n a (Laid.sources n b goals)
  | .alt _ a b, goals => Laid.sources n a goals ||| Laid.sources n b goals
  | .group _ body, goals => Laid.sources n body goals
  | .rep _ body low high _, goals =>
    let once := Laid.sources n body
    match high with
    | none => times once low (closure once (n + 1) goals)
    | some high => times once low (times (fun g => goals ||| once g) (high - low) goals)

/-! ### From left to right -/

/-- A place of choice: its number, which of its branches, and the copies of repeated bodies it
stands in. -/
abbrev Choice := Nat × Nat × List Nat

/-- How far a search has come: a place, and the choices passed since the last step. -/
structure Front where
  place : Nat
  passed : List Choice
deriving DecidableEq, Repr

/-- What follows a part of a tree: the end it leads to, if it leads to one. -/
abbrev Onward := Front → Option Nat

/-- Passes a place of choice, and tries one way and then the other; a choice that has been passed
since the last step leads nowhere. -/
def choose (choice : Choice) (first second : Onward) : Onward := fun front =>
  if choice ∈ front.passed then none
  else
    let front := { front with passed := choice :: front.passed }
    match first front with
    | some stop => some stop
    | none => second front

/-- A choice between going on with a body and leaving it. -/
def chooseBody (greedy : Bool) (choice : Choice) (body leave : Onward) : Onward :=
  if greedy then choose choice body leave else choose choice leave body

/-- Behind a body that may be repeated any number of times. -/
def again (greedy : Bool) (choice : Choice) (body : Onward → Onward) (leave : Onward) :
    (fuel : Nat) → Onward
  | 0 => leave
  | fuel + 1 => chooseBody greedy choice (body (again greedy choice body leave fuel)) leave

/-- Goes on only where a goal can be reached. -/
def within (goals : Nat) (onward : Onward) : Onward := fun front =>
  if goals.testBit front.place then onward front else none

/-- The end that comes first in the order of preference, going through the tree and then
`onward`. `goals` are the places from which `onward` can succeed, `n` is the length of the text,
and `copies` tells in which copies of repeated bodies the tree stands. -/
def Laid.firstEnd (n : Nat) : Laid → (copies : List Nat) → (goals : Nat) → Onward → Onward
  | .empty, _, goals, onward => within goals onward
  | .step here, _, goals, onward => fun front =>
    if here.testBit front.place && goals.testBit (front.place + 1) then
      onward ⟨front.place + 1, []⟩
    else none
  | .stay here, _, goals, onward => within (goals &&& here) onward
  | .seq a b, copies, goals, onward =>
    Laid.firstEnd n a copies (Laid.sources n b goals) (Laid.firstEnd n b copies goals onward)
  | .alt id a b, copies, goals, onward =>
    choose (id, 0, copies) (Laid.firstEnd n a copies goals onward)
      (Laid.firstEnd n b copies goals onward)
  | .group _ body, copies, goals, onward => Laid.firstEnd n body copies goals onward
  | .rep id body low high greedy, copies, goals, onward =>
    let once := Laid.sources n body
    let copy (k : Nat) (goals : Nat) (onward : Onward) : Onward :=
      Laid.firstEnd n body (k :: copies) goals onward
    match high with
    | none =>
      let looped := closure once (n + 1) goals
      let loop (k : Nat) : Onward :=
        again greedy (id, 0, copies) (copy k looped) (within goals onward) (n + 1)
      match low with
      | 0 =>
        if body.nullable then
          chooseBody greedy (id, 1, copies) (copy 0 looped (loop 0)) (within goals onward)
        else loop 0
      | low + 1 => firstCopies copy once low 0 (once looped) (copy low looped (loop low))
    | some high =>
      let spare := high - low
      firstCopies copy once low 0 (times (fun g => goals ||| once g) spare goals)
        (spareCopies copy once id low copies greedy goals (within goals onward) spare)
where
  /-- `count` copies of a body, the first being number `k`, and then `onward`. -/
  firstCopies (copy : Nat → Nat → Onward → Onward) (once : Nat → Nat) :
      (count k goals : Nat) → Onward → Onward
    | 0, _, _, onward => onward
    | count + 1, k, goals, onward =>
      copy k (times once count goals) (firstCopies copy once count (k + 1) goals onward)
  /-- Up to `count` more copies of a body, and then `leave`. -/
  spareCopies (copy : Nat → Nat → Onward → Onward) (once : Nat → Nat) (id low : Nat)
      (copies : List Nat) (greedy : Bool) (goals : Nat) (leave : Onward) : (count : Nat) → Onward
    | 0 => leave
    | count + 1 =>
      chooseBody greedy (id, count + 2, copies)
        (copy (low + count) (times (fun g => goals ||| once g) count goals)
          (spareCopies copy once id low copies greedy goals leave count))
        leave

/-! ### Matches -/

def Node.isMatch (node : Node) (t : Text) : Bool :=
  Laid.sources t.length (node.over t) (allPlaces t.length) != 0

/-- The preferred end of a match that starts at place `start`. -/
def Node.matchFrom? (node : Node) (t : Text) (start : Nat) : Option Nat :=
  Laid.firstEnd t.length (node.over t) [] (allPlaces t.length) (fun front => some front.place)
    ⟨start, []⟩

/-- The first place from which the tree matches, and the preferred end from there. -/
def Node.find? (node : Node) (t : Text) : Option (Nat × Nat) :=
  let starts := Laid.sources t.length (node.over t) (allPlaces t.length)
  match (List.range (t.length + 1)).find? starts.testBit with
  | some start => (node.matchFrom? t start).map fun stop => (start, stop)
  | none => none

end DirPicker.Pattern
