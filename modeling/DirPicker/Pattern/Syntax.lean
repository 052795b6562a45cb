import DirPicker.Pattern.Error

/-!
# Syntax trees of patterns

A pattern is a tree of alternatives, concatenations, repetitions and groups over characters,
anchors and character classes. Concatenations and alternatives are right-nested, and the only way
one stands directly inside another of its kind is through a `group`.

`Syntax.tooDeep?` looks for a part that is nested too deeply; a concatenation or a chain of
alternatives of any length is one level.
-/

namespace DirPicker.Pattern

inductive Flag
  /-- Letters match in either case. -/
  | ignoreCase
  /-- Line anchors match at every line, and not only at the ends of the text. -/
  | multiLine
  /-- The dot matches a line feed too. -/
  | dotAll
  /-- Repetitions are lazy, and eager when followed by a question mark. -/
  | swapGreed
  /-- Classes and boundaries know all of Unicode, and not only ASCII. -/
  | unicode
  /-- A carriage return, or one followed by a line feed, ends a line as well. -/
  | crlf
  /-- Blanks and comments in the pattern are skipped. -/
  | ignoreSpace
deriving DecidableEq, Repr

/-- Switches in the order written, each with its new position. -/
abbrev FlagChanges := List (Flag × Bool)

/-- The position that the changes give to a flag, if they speak of it. -/
def FlagChanges.state? (changes : FlagChanges) (flag : Flag) : Option Bool :=
  (changes.find? fun change => change.1 = flag).map (·.2)

/-- A condition on a place in the text, as it is written. -/
inductive Anchor
  | lineStart
  | lineEnd
  | textStart
  | textEnd
  | boundary
  | notBoundary
  | wordStart
  | wordEnd
  | wordStartHalf
  | wordEndHalf
deriving DecidableEq, Repr

inductive Shorthand
  | digit
  | space
  | word
deriving DecidableEq, Repr

inductive AsciiClass
  | alnum
  | alpha
  | ascii
  | blank
  | cntrl
  | digit
  | graph
  | lower
  | print
  | punct
  | space
  | upper
  | word
  | xdigit
deriving DecidableEq, Repr

/-- How a class of characters is asked for by Unicode property. -/
inductive PropertyQuery
  | named (name : Text)
  | valued (name value : Text)
deriving DecidableEq, Repr

/-- A character in a bracketed class. `byte` tells that it was written as two hexadecimal
digits, which stand for a byte when Unicode is switched off. -/
structure ClassChar where
  char : Char
  byte : Bool
  span : Span
deriving DecidableEq, Repr

inductive ClassOp
  | intersection
  | difference
  | symmetricDifference
deriving DecidableEq, Repr

/-- What stands in a bracketed class. -/
inductive ClassSet
  | empty (span : Span)
  | char (c : ClassChar)
  | range (first last : ClassChar)
  | ascii (kind : AsciiClass) (negated : Bool) (span : Span)
  | property (query : PropertyQuery) (negated : Bool) (span : Span)
  | shorthand (kind : Shorthand) (negated : Bool) (span : Span)
  | bracketed (negated : Bool) (set : ClassSet) (span : Span)
  | union (a b : ClassSet)
  | op (kind : ClassOp) (a b : ClassSet)
deriving DecidableEq, Repr

def ClassSet.span : ClassSet → Span
  | .empty span => span
  | .char c => c.span
  | .range first last => ⟨first.span.start, last.span.stop⟩
  | .ascii _ _ span => span
  | .property _ _ span => span
  | .shorthand _ _ span => span
  | .bracketed _ _ span => span
  | .union a b => ⟨a.span.start, b.span.stop⟩
  | .op _ a b => ⟨a.span.start, b.span.stop⟩

/-- The tree of a pattern. The links of a chain of concatenations have the span of the whole chain,
and so have those of alternatives. -/
inductive Syntax
  | empty
  | flags (changes : FlagChanges)
  | char (c : Char)
  | byte (c : Char) (span : Span)
  | dot (span : Span)
  | anchor (kind : Anchor)
  | property (query : PropertyQuery) (negated : Bool) (span : Span)
  | shorthand (kind : Shorthand) (negated : Bool) (span : Span)
  | bracketed (negated : Bool) (set : ClassSet) (span : Span)
  | repeated (body : Syntax) (min : Nat) (max : Option Nat) (greedy : Bool) (span : Span)
  | group (capturing : Bool) (changes : FlagChanges) (body : Syntax) (span : Span)
  | cat (a b : Syntax) (span : Span)
  | alt (a b : Syntax) (span : Span)
deriving DecidableEq, Repr

/-- The union of class items, given last first; the class is at `place` if there are none. -/
def ClassSet.ofReversed (place : Span) : List ClassSet → ClassSet
  | [] => .empty place
  | x :: xs => xs.foldl (fun set item => .union item set) x

/-- The concatenation of items, given last first. -/
def Syntax.ofReversed (span : Span) : List Syntax → Syntax
  | [] => .empty
  | x :: xs => xs.foldl (fun tree item => .cat item tree span) x

/-- The alternatives of a group or of the whole pattern, given last first. -/
def Syntax.ofReversedBranches (span : Span) : List Syntax → Syntax
  | [] => .empty
  | b :: bs => bs.foldl (fun tree branch => .alt branch tree span) b

/-! ### Depth -/

/-- Takes one level from what is left for the levels inside, or points at the part that would be
one level too many. -/
def enter (span : Span) (budget : Nat) (inside : Nat → Option Span) : Option Span :=
  match budget with
  | 0 => some span
  | budget + 1 => inside budget

/-- The first bracket, union or operator of a class that stands inside more than `budget` others.
`inUnion` tells that the union which the set continues has been counted. -/
def ClassSet.tooDeep? (inUnion : Bool) (budget : Nat) (set : ClassSet) : Option Span :=
  match set with
  | .bracketed _ inner span => enter span budget fun budget => inner.tooDeep? false budget
  | .union a b =>
    let parts (budget : Nat) : Option Span := a.tooDeep? false budget <|> b.tooDeep? true budget
    if inUnion then parts budget else enter set.span budget parts
  | .op _ a b =>
    enter set.span budget fun budget => a.tooDeep? false budget <|> b.tooDeep? false budget
  | _ => none

inductive Chain
  | none
  | cat
  | alt
deriving DecidableEq

/-- The first operator, group or class that stands inside more than `budget` others. -/
def Syntax.tooDeep? (chain : Chain) (budget : Nat) : Syntax → Option Span
  | .bracketed _ set span => enter span budget fun budget => set.tooDeep? false budget
  | .repeated body _ _ _ span => enter span budget fun budget => body.tooDeep? .none budget
  | .group _ _ body span => enter span budget fun budget => body.tooDeep? .none budget
  | .cat a b span =>
    let parts (budget : Nat) : Option Span := a.tooDeep? .none budget <|> b.tooDeep? .cat budget
    if chain = .cat then parts budget else enter span budget parts
  | .alt a b span =>
    let parts (budget : Nat) : Option Span := a.tooDeep? .none budget <|> b.tooDeep? .alt budget
    if chain = .alt then parts budget else enter span budget parts
  | _ => .none

end DirPicker.Pattern
