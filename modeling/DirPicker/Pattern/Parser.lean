import DirPicker.Pattern.Syntax
import DirPicker.Unicode.Newest
import DirPicker.Unicode.Space

/-!
# Reading patterns

`parse` reads the text of a pattern into a `Syntax` tree, or tells why it is none. Reading goes
from left to right, one item at a time: `step` reads an item together with the repetition
operators behind it, and `branches` collects the items of each alternative up to the end of the
group. A group is read by the same `branches`, which `step` is given as `inner`.

When the flag `ignoreSpace` is on, blanks and comments may stand between any two parts of the
pattern; `skip` passes over them, and does nothing when the flag is off.
-/

namespace DirPicker.Pattern

open Unicode

/-! ### Characters and blanks -/

/-- `t` from its first character that is neither white space nor part of a comment, which goes
from `#` to the end of the line. -/
def skipBlank (inComment : Bool) : Text → Text
  | [] => []
  | c :: t =>
    if inComment then skipBlank (c ≠ '\n') t
    else if isSpace c then skipBlank false t
    else if c = '#' then skipBlank true t
    else c :: t

/-- Passes over blanks and comments where they have no meaning. -/
def skip (spaced : Bool) (t : Text) : Text := if spaced then skipBlank false t else t

/-- Passes over one character, and over blanks and comments behind it. -/
def next (spaced : Bool) (t : Text) : Text := skip spaced t.tail

/-- The character that decides how a hyphen in a class is read: the one behind it, or behind the
blanks that follow it. A comment sign there is passed over, but not the comment. -/
def peek? (spaced : Bool) (t : Text) : Option Char :=
  if spaced then
    match t.tail.dropWhile isSpace with
    | '#' :: rest =>
      match rest.dropWhile isSpace with
      | c :: _ => some c
      | [] => t.tail.head?
    | c :: _ => some c
    | [] => t.tail.head?
  else t.tail.head?

/-- Characters with a meaning of their own somewhere in a pattern. -/
def isMeta (c : Char) : Bool :=
  c ∈ ['\\', '.', '+', '*', '?', '(', ')', '|', '[', ']', '{', '}', '^', '$', '#', '&', '-', '~']

/-- Characters that stand for themselves behind a backslash. -/
def isEscapable (c : Char) : Bool :=
  isMeta c || (c.toNat < 128 && !c.isAlphanum && c ≠ '<' && c ≠ '>')

/-- Whether `c` may stand in the name of a group. -/
def isNameChar (first : Bool) (c : Char) : Bool :=
  c = '_' || isAlphabetic c || (!first && (c ∈ ['.', '[', ']'] || isNumeric c))

/-! ### Escapes -/

inductive Escape
  | char (c : Char)
  | byte (c : Char)
  | anchor (kind : Anchor)
  | property (query : PropertyQuery) (negated : Bool)
  | shorthand (kind : Shorthand) (negated : Bool)
deriving DecidableEq, Repr

def charOf? (n : Nat) : Option Char := if h : n.isValidChar then some (Char.ofNatAux n h) else none

/-- `count` hexadecimal digits at the start of `t`, the digits before them having the value `n`. -/
def hexDigits (spaced : Bool) : (count : Nat) → (n : Nat) → (t : Text) →
    Except Failure (Nat × Text)
  | 0, n, t => .ok (n, t)
  | count + 1, n, t =>
    match t with
    | [] => .error ⟨.escapeUnexpectedEnd, .at t, none⟩
    | c :: rest =>
      match CharSet.hexDigit? c with
      | none => .error ⟨.escapeHexInvalidDigit, .head t, none⟩
      | some d => hexDigits spaced count (16 * n + d) (skip spaced rest)

/-- Hexadecimal digits up to a closing brace: their number, their value and what is left,
starting at the brace. -/
def hexDigitsInBraces (spaced : Bool) (brace : Text) : (fuel count n : Nat) → (t : Text) →
    Except Failure (Nat × Nat × Text)
  | 0, _, _, _ => .error ⟨.escapeUnexpectedEnd, .between brace [], none⟩
  | fuel + 1, count, n, t =>
    match t with
    | [] => .error ⟨.escapeUnexpectedEnd, .between brace [], none⟩
    | '}' :: _ => .ok (count, n, t)
    | c :: rest =>
      match CharSet.hexDigit? c with
      | none => .error ⟨.escapeHexInvalidDigit, .head t, none⟩
      | some d => hexDigitsInBraces spaced brace fuel (count + 1) (16 * n + d) (skip spaced rest)

/-- The number of digits that a hexadecimal escape has without braces. -/
def hexLength (letter : Char) : Nat := if letter = 'x' then 2 else if letter = 'u' then 4 else 8

/-- A hexadecimal escape; `t` starts at the letter that says how long it is. -/
def hexEscape (spaced : Bool) (letter : Char) (t : Text) : Except Failure (Escape × Text) :=
  let t := next spaced t
  match t with
  | [] => .error ⟨.escapeUnexpectedEnd, .at t, none⟩
  | '{' :: rest => do
    let (count, n, stop) ← hexDigitsInBraces spaced t (rest.length + 1) 0 0 (skip spaced rest)
    if count = 0 then .error ⟨.escapeHexEmpty, .between t (next spaced stop), none⟩
    else match charOf? n with
      | none => .error ⟨.escapeHexInvalid, .between rest stop, none⟩
      | some c => .ok (.char c, next spaced stop)
  | _ => do
    let (n, stop) ← hexDigits spaced (hexLength letter) 0 t
    match charOf? n with
    | none => .error ⟨.escapeHexInvalid, .between t stop, none⟩
    | some c => .ok (if letter = 'x' then .byte c else .char c, stop)

/-- The text before the first place where `sign` stands, and the text behind that sign. -/
def splitAtSign? (sign : Text) : Text → Option (Text × Text)
  | [] => none
  | c :: t =>
    match Text.afterStart? sign (c :: t) with
    | some rest => some ([], rest)
    | none => (splitAtSign? sign t).map fun (a, b) => (c :: a, b)

/-- The property that the text between braces asks for, and whether for those without it. -/
def propertyQuery (t : Text) : PropertyQuery × Bool :=
  match splitAtSign? ['!', '='] t with
  | some (name, value) => (.valued name value, true)
  | none =>
    match splitAtSign? [':'] t with
    | some (name, value) => (.valued name value, false)
    | none =>
      match splitAtSign? ['='] t with
      | some (name, value) => (.valued name value, false)
      | none => (.named t, false)

/-- The text up to a closing brace, without blanks where they have no meaning, and what is left,
starting at the brace. -/
def bracedText (spaced : Bool) : (fuel : Nat) → (t : Text) → Option (Text × Text)
  | 0, _ => none
  | fuel + 1, t =>
    match t with
    | [] => none
    | '}' :: _ => some ([], t)
    | c :: rest => (bracedText spaced fuel (skip spaced rest)).map fun (a, b) => (c :: a, b)

/-- An escape for a Unicode property; `t` starts at its letter. -/
def propertyEscape (spaced : Bool) (negated : Bool) (t : Text) : Except Failure (Escape × Text) :=
  let t := next spaced t
  match t with
  | [] => .error ⟨.escapeUnexpectedEnd, .at t, none⟩
  | '{' :: rest =>
    match bracedText spaced (rest.length + 1) (skip spaced rest) with
    | none => .error ⟨.escapeUnexpectedEnd, .at [], none⟩
    | some (name, stop) =>
      let (query, without) := propertyQuery name
      .ok (.property query (negated != without), stop.tail)
  | '\\' :: _ => .error ⟨.unicodeClassInvalid, .head t, none⟩
  | c :: _ => .ok (.property (.named [c]) negated, next spaced t)

/-- Letters and hyphens at the start of `t`, and what is left. -/
def boundaryName (spaced : Bool) : (fuel : Nat) → (t : Text) → Text × Text
  | 0, t => ([], t)
  | fuel + 1, t =>
    match t with
    | [] => ([], [])
    | c :: rest =>
      if c.isAlpha || c = '-' then
        let (name, stop) := boundaryName spaced fuel (skip spaced rest)
        (c :: name, stop)
      else ([], t)

/-- The kind of a word boundary, behind a backslash and a `b`: a name in braces may say which
kind. Braces that start with no letter and no hyphen belong to a repetition, and are left. -/
def boundaryEscape (spaced : Bool) (start t : Text) : Except Failure (Escape × Text) :=
  match t with
  | '{' :: rest =>
    let inside := skip spaced rest
    match inside with
    | [] => .error ⟨.wordBoundaryUnexpectedEnd, .between start [], none⟩
    | c :: _ =>
      if c.isAlpha || c = '-' then
        let (name, stop) := boundaryName spaced inside.length inside
        match stop with
        | '}' :: rest =>
          if name = "start".toList then .ok (.anchor .wordStart, rest)
          else if name = "end".toList then .ok (.anchor .wordEnd, rest)
          else if name = "start-half".toList then .ok (.anchor .wordStartHalf, rest)
          else if name = "end-half".toList then .ok (.anchor .wordEndHalf, rest)
          else .error ⟨.wordBoundaryUnrecognized, .between inside stop, none⟩
        | _ => .error ⟨.wordBoundaryUnclosed, .between t stop, none⟩
      else .ok (.anchor .boundary, t)
  | _ => .ok (.anchor .boundary, t)

/-- An escape; `start` is the pattern from the backslash on. -/
def escape (spaced : Bool) (start : Text) : Except Failure (Escape × Text) :=
  match start.tail with
  | [] => .error ⟨.escapeUnexpectedEnd, .between start [], none⟩
  | c :: rest =>
    if c.isDigit then .error ⟨.backreferenceUnsupported, .between start rest, none⟩
    else if c = 'x' ∨ c = 'u' ∨ c = 'U' then hexEscape spaced c (c :: rest)
    else if c = 'p' then propertyEscape spaced false (c :: rest)
    else if c = 'P' then propertyEscape spaced true (c :: rest)
    else if isEscapable c then .ok (.char c, rest)
    else match c with
      | 'd' => .ok (.shorthand .digit false, rest)
      | 'D' => .ok (.shorthand .digit true, rest)
      | 's' => .ok (.shorthand .space false, rest)
      | 'S' => .ok (.shorthand .space true, rest)
      | 'w' => .ok (.shorthand .word false, rest)
      | 'W' => .ok (.shorthand .word true, rest)
      | 'a' => .ok (.char '\x07', rest)
      | 'f' => .ok (.char '\x0C', rest)
      | 't' => .ok (.char '\t', rest)
      | 'n' => .ok (.char '\n', rest)
      | 'r' => .ok (.char '\r', rest)
      | 'v' => .ok (.char '\x0B', rest)
      | 'A' => .ok (.anchor .textStart, rest)
      | 'z' => .ok (.anchor .textEnd, rest)
      | 'b' => boundaryEscape spaced start rest
      | 'B' => .ok (.anchor .notBoundary, rest)
      | '<' => .ok (.anchor .wordStart, rest)
      | '>' => .ok (.anchor .wordEnd, rest)
      | _ => .error ⟨.escapeUnrecognized, .between start rest, none⟩

/-! ### Bracketed classes -/

def AsciiClass.ofName? (name : Text) : Option AsciiClass :=
  match String.ofList name with
  | "alnum" => some .alnum
  | "alpha" => some .alpha
  | "ascii" => some .ascii
  | "blank" => some .blank
  | "cntrl" => some .cntrl
  | "digit" => some .digit
  | "graph" => some .graph
  | "lower" => some .lower
  | "print" => some .print
  | "punct" => some .punct
  | "space" => some .space
  | "upper" => some .upper
  | "word" => some .word
  | "xdigit" => some .xdigit
  | _ => none

/-- An ASCII class such as `[:alpha:]` or `[:^alpha:]` at the start of `t`, if there is one. -/
def asciiClass? (t : Text) : Option (ClassSet × Text) :=
  match t with
  | '[' :: ':' :: rest =>
    let (negated, rest) : Bool × Text :=
      match rest with
      | '^' :: rest => (true, rest)
      | rest => (false, rest)
    match Text.splitFirst? (· = ':') rest with
    | some (name, ']' :: stop) =>
      (AsciiClass.ofName? name).map fun kind => (.ascii kind negated (.between t stop), stop)
    | _ => none
  | _ => none

/-- One character or escape in a class, with the pattern behind it. -/
def classPart (spaced : Bool) (t : Text) : Except Failure (Escape × Text) :=
  match t with
  | '\\' :: _ => escape spaced t
  | c :: rest => .ok (.char c, rest)
  | [] => .ok (.char '\x00', [])

def classItem (part : Escape) (span : Span) : Except Failure ClassSet :=
  match part with
  | .char c => .ok (.char ⟨c, false, span⟩)
  | .byte c => .ok (.char ⟨c, true, span⟩)
  | .property query negated => .ok (.property query negated span)
  | .shorthand kind negated => .ok (.shorthand kind negated span)
  | .anchor _ => .error ⟨.classEscapeInvalid, span, none⟩

def rangeEnd (part : Escape) (span : Span) : Except Failure ClassChar :=
  match part with
  | .char c => .ok ⟨c, false, span⟩
  | .byte c => .ok ⟨c, true, span⟩
  | _ => .error ⟨.classRangeLiteral, span, none⟩

/-- A single item of a class or a range; `unclosed` is the class it stands in. -/
def classRange (spaced : Bool) (unclosed : Span) (t : Text) : Except Failure (ClassSet × Text) := do
  let (first, stop) ← classPart spaced t
  let rest := skip spaced stop
  match rest with
  | [] => .error ⟨.classUnclosed, unclosed, none⟩
  | '-' :: _ =>
    if peek? spaced rest = some ']' ∨ peek? spaced rest = some '-' then
      let item ← classItem first (.between t stop)
      .ok (item, rest)
    else
      let second := next spaced rest
      if second.isEmpty then .error ⟨.classUnclosed, unclosed, none⟩
      else do
        let (last, stop₂) ← classPart spaced second
        let lo ← rangeEnd first (.between t stop)
        let hi ← rangeEnd last (.between second stop₂)
        if lo.char ≤ hi.char then .ok (.range lo hi, stop₂)
        else .error ⟨.classRangeInvalid, .between t stop₂, none⟩
  | _ => do
    let item ← classItem first (.between t stop)
    .ok (item, rest)

/-- The beginning of a class: whether it is negated, where its items begin, the hyphens or the
bracket that stand for themselves there, last first, and what is left. -/
structure ClassOpening where
  negated : Bool
  place : Span
  items : List ClassSet
  rest : Text

def openingHyphens (spaced : Bool) (start : Text) : (fuel : Nat) → List ClassSet → (t : Text) →
    Except Failure (List ClassSet × Text)
  | 0, items, t => .ok (items, t)
  | fuel + 1, items, t =>
    match t with
    | '-' :: rest =>
      let stop := skip spaced rest
      if stop.isEmpty then .error ⟨.classUnclosed, .at start, none⟩
      else openingHyphens spaced start fuel (.char ⟨'-', false, .head t⟩ :: items) stop
    | _ => .ok (items, t)

/-- Reads the beginning of a class; `start` is the pattern from the bracket on. -/
def classOpening (spaced : Bool) (start : Text) : Except Failure ClassOpening := do
  let t := next spaced start
  if t.isEmpty then .error ⟨.classUnclosed, .between start t, none⟩
  else
    let negated := t.head? = some '^'
    let t := if negated then next spaced t else t
    if t.isEmpty then .error ⟨.classUnclosed, .between start t, none⟩
    else do
      let place := Span.at t
      let (items, t) ← openingHyphens spaced start t.length [] t
      if items.isEmpty ∧ t.head? = some ']' then
        let stop := next spaced t
        if stop.isEmpty then .error ⟨.classUnclosed, .between start stop, none⟩
        else .ok ⟨negated, place, [.char ⟨']', false, .head t⟩], stop⟩
      else .ok ⟨negated, place, items, t⟩

/-- What has been read of a class before its last operator, and that operator. -/
abbrev LeftOperand := Option (ClassOp × ClassSet)

/-- Applies the pending operator to what has been read behind it. -/
def LeftOperand.apply (left : LeftOperand) (right : ClassSet) : ClassSet :=
  match left with
  | none => right
  | some (op, set) => .op op set right

/-- The items of a class up to its closing bracket. The items read so far are given last
first; they begin at `place`, and `unclosed` is where the class begins. -/
def classItems (spaced : Bool) (unclosed : Span) :
    (fuel : Nat) → LeftOperand → (place : Span) → List ClassSet → (t : Text) →
      Except Failure (ClassSet × Text)
  | 0, _, _, _, _ => .error ⟨.classUnclosed, unclosed, none⟩
  | fuel + 1, left, place, items, t =>
    let operand := left.apply (.ofReversed place items)
    match skip spaced t with
    | [] => .error ⟨.classUnclosed, unclosed, none⟩
    | ']' :: rest => .ok (operand, rest)
    | '&' :: '&' :: rest =>
      classItems spaced unclosed fuel (some (.intersection, operand)) (.at rest) [] rest
    | '-' :: '-' :: rest =>
      classItems spaced unclosed fuel (some (.difference, operand)) (.at rest) [] rest
    | '~' :: '~' :: rest =>
      classItems spaced unclosed fuel (some (.symmetricDifference, operand)) (.at rest) [] rest
    | '[' :: rest =>
      match asciiClass? ('[' :: rest) with
      | some (item, rest) => classItems spaced unclosed fuel left place (item :: items) rest
      | none => do
        let start := '[' :: rest
        let opening ← classOpening spaced start
        let (set, stop) ←
          classItems spaced (.between start opening.rest) fuel none opening.place opening.items
            opening.rest
        classItems spaced unclosed fuel left place
          (.bracketed opening.negated set (.between start stop) :: items) stop
    | c :: rest => do
      let (item, rest) ← classRange spaced unclosed (c :: rest)
      classItems spaced unclosed fuel left place (item :: items) rest

/-- A bracketed class; `start` is the pattern from the bracket on. -/
def bracketed (spaced : Bool) (start : Text) : Except Failure (Syntax × Text) := do
  let opening ← classOpening spaced start
  let (set, stop) ←
    classItems spaced (.between start opening.rest) start.length none opening.place opening.items
      opening.rest
  .ok (.bracketed opening.negated set (.between start stop), stop)

/-! ### Repetitions -/

/-- Decimal digits at the start of `t`, and what is left; blanks between them are passed over
where they have no meaning. -/
def decimalDigits (spaced : Bool) : (fuel : Nat) → (t : Text) → Text × Text
  | 0, t => ([], t)
  | fuel + 1, t =>
    match t with
    | c :: rest =>
      if c.isDigit then
        let (digits, stop) := decimalDigits spaced fuel (skip spaced rest)
        (c :: digits, stop)
      else ([], t)
    | [] => ([], [])

/-- White space at the start of `t` is passed over, and comments where they have no meaning. -/
def skipSpaces (spaced : Bool) (t : Text) : Text := skip spaced (t.dropWhile isSpace)

/-- A count in a repetition, between white space: its value and what is left. The value is
missing without digits, and refused when it needs more than 32 bits. -/
def count (spaced : Bool) (t : Text) : Except Failure (Option Nat × Span) × Text :=
  let start := t.dropWhile isSpace
  let (digits, stop) := decimalDigits spaced start.length start
  let span := Span.between start stop
  let rest := skipSpaces spaced stop
  let value := digits.foldl (fun n c => 10 * n + (c.toNat - '0'.toNat)) 0
  if digits.isEmpty then (.ok (none, span), rest)
  else if value < Nat.pow 2 32 then (.ok (some value, span), rest)
  else (.error ⟨.decimalInvalid, span, none⟩, rest)

def requiredCount (read : Except Failure (Option Nat × Span)) : Except Failure Nat := do
  match ← read with
  | (some n, _) => .ok n
  | (none, span) => .error ⟨.repetitionCountDecimalEmpty, span, none⟩

/-- A counted repetition; `start` is the pattern from the opening brace on. The answer holds the
least and the greatest count, whether as many as possible are taken, and what is left. -/
def countedRepetition (spaced : Bool) (start : Text) :
    Except Failure (Nat × Option Nat × Bool × Text) :=
  let unclosed (t : Text) : Failure := ⟨.repetitionCountUnclosed, .between start t, none⟩
  let t := next spaced start
  if t.isEmpty then .error (unclosed t)
  else
    let (first, t) := count spaced t
    match t with
    | [] => .error (unclosed t)
    | ',' :: _ => do
      let t := next spaced t
      match t with
      | [] => .error (unclosed t)
      | '}' :: _ => do
        let low ← requiredCount first
        close unclosed low none t
      | _ => do
        let low ← requiredCount first
        let (second, t) := count spaced t
        let high ← requiredCount second
        close unclosed low (some high) t
    | _ => do
      let low ← requiredCount first
      close unclosed low (some low) t
where
  /-- The closing brace and a question mark behind it. -/
  close (unclosed : Text → Failure) (low : Nat) (high : Option Nat) (t : Text) :
      Except Failure (Nat × Option Nat × Bool × Text) :=
    match t with
    | '}' :: _ =>
      let behind := next spaced t
      let (greedy, stop) : Bool × Text :=
        match behind with
        | '?' :: rest => (false, rest)
        | rest => (true, rest)
      if high.all (low ≤ ·) then .ok (low, high, greedy, stop)
      else .error ⟨.repetitionCountInvalid, .between start stop, none⟩
    | _ => .error (unclosed t)

/-- The repetition operators behind `x`, the first one innermost. `x` begins at `start`. -/
def repetitions (spaced : Bool) (start : Text) : (fuel : Nat) → Syntax → (t : Text) →
    Except Failure (Syntax × Text)
  | 0, x, t => .ok (x, t)
  | fuel + 1, x, t =>
    let more (low : Nat) (high : Option Nat) (greedy : Bool) (rest : Text) :
        Except Failure (Syntax × Text) :=
      repetitions spaced start fuel (.repeated x low high greedy (.between start rest)) rest
    match skip spaced t with
    | '?' :: '?' :: rest => more 0 (some 1) false rest
    | '?' :: rest => more 0 (some 1) true rest
    | '*' :: '?' :: rest => more 0 none false rest
    | '*' :: rest => more 0 none true rest
    | '+' :: '?' :: rest => more 1 none false rest
    | '+' :: rest => more 1 none true rest
    | '{' :: rest => do
      let (low, high, greedy, rest) ← countedRepetition spaced ('{' :: rest)
      more low high greedy rest
    | rest => .ok (x, rest)

/-! ### Groups -/

def Flag.ofLetter? (c : Char) : Option Flag :=
  match c with
  | 'i' => some .ignoreCase
  | 'm' => some .multiLine
  | 's' => some .dotAll
  | 'U' => some .swapGreed
  | 'u' => some .unicode
  | 'R' => some .crlf
  | 'x' => some .ignoreSpace
  | _ => none

/-- Flags up to a colon or a closing parenthesis. `negation` is where the minus sign stands, if
there was one, and `dangling` tells that nothing has followed it; `places` tells where each flag
stands. -/
def flagChanges : (fuel : Nat) → (negation : Option Span) → (dangling : Bool) →
    (places : List (Flag × Span)) → FlagChanges → (t : Text) → Except Failure (FlagChanges × Text)
  | 0, _, _, _, _, t => .error ⟨.flagUnexpectedEnd, .at t, none⟩
  | fuel + 1, negation, dangling, places, changes, t =>
    match t with
    | [] => .error ⟨.flagUnexpectedEnd, .at t, none⟩
    | c :: rest =>
      if c = ':' ∨ c = ')' then
        match negation with
        | some span =>
          if dangling then .error ⟨.flagDanglingNegation, span, none⟩ else .ok (changes, t)
        | none => .ok (changes, t)
      else if c = '-' then
        if negation.isSome then .error ⟨.flagRepeatedNegation, .head t, negation⟩
        else flagChanges fuel (some (.head t)) true places changes rest
      else match Flag.ofLetter? c with
        | none => .error ⟨.flagUnrecognized, .head t, none⟩
        | some flag =>
          match places.find? (·.1 = flag) with
          | some (_, span) => .error ⟨.flagDuplicate, .head t, some span⟩
          | none =>
            flagChanges fuel negation false ((flag, .head t) :: places)
              (changes ++ [(flag, negation.isNone)]) rest

/-- The names of the groups read so far, and where they stand. -/
abbrev GroupNames := List (Text × Span)

/-- The name of a group; `t` starts behind the opening angle bracket. -/
def groupName (names : GroupNames) (t : Text) : Except Failure (GroupNames × Text) :=
  if t.isEmpty then .error ⟨.groupNameUnexpectedEnd, .at t, none⟩
  else
    let (name, stop) := (t.takeWhile (· ≠ '>'), t.dropWhile (· ≠ '>'))
    match invalidTail true t with
    | some place => .error ⟨.groupNameInvalid, .head place, none⟩
    | none =>
      match stop with
      | [] => .error ⟨.groupNameUnexpectedEnd, .at stop, none⟩
      | _ :: rest =>
        if name.isEmpty then .error ⟨.groupNameEmpty, .at t, none⟩
        else match names.find? (·.1 = name) with
          | some (_, span) => .error ⟨.groupNameDuplicate, .between t stop, some span⟩
          | none => .ok ((name, .between t stop) :: names, rest)
where
  /-- The pattern from the first character on that may not stand in the name. -/
  invalidTail (first : Bool) : Text → Option Text
    | [] => none
    | c :: t =>
      if c = '>' then none
      else if isNameChar first c then invalidTail false t
      else some (c :: t)

inductive Opening
  | flags (changes : FlagChanges) (rest : Text)
  | group (capturing : Bool) (changes : FlagChanges) (names : GroupNames) (rest : Text)

/-- Reads what stands behind an opening parenthesis; `start` is the pattern from it on. -/
def opening (spaced : Bool) (names : GroupNames) (start : Text) : Except Failure Opening :=
  let t := next spaced start
  match t with
  | '?' :: '=' :: rest | '?' :: '!' :: rest
  | '?' :: '<' :: '=' :: rest | '?' :: '<' :: '!' :: rest =>
    .error ⟨.lookAroundUnsupported, .between start rest, none⟩
  | '?' :: 'P' :: '<' :: rest | '?' :: '<' :: rest => do
    let (names, rest) ← groupName names rest
    .ok (.group true [] names rest)
  | '?' :: rest =>
    if rest.isEmpty then .error ⟨.groupUnclosed, .head start, none⟩
    else do
      let (changes, stop) ← flagChanges (rest.length + 1) none false [] [] rest
      if stop.head? = some ')' then
        if changes.isEmpty then .error ⟨.repetitionMissing, .at t, none⟩
        else .ok (.flags changes stop.tail)
      else .ok (.group false changes names stop.tail)
  | _ => .ok (.group true [] names t)

/-! ### Items, alternatives and whole patterns -/

/-- A place in a pattern: what is left to read, whether blanks have no meaning here, and the
names of groups that are taken. -/
structure Cursor where
  rest : Text
  spaced : Bool
  names : GroupNames
deriving Repr

/-- What stands at a place: the end of the group or pattern, a bar between alternatives, or an
item with its repetitions. -/
inductive Step
  | stop (cursor : Cursor)
  | bar (bar : Text) (cursor : Cursor)
  | item (x : Syntax) (cursor : Cursor)

/-- Completes an item, which begins at `here`, by the repetition operators behind it, of which there
are fewer than `fuel`. -/
def finish (fuel : Nat) (here : Text) (x : Syntax) (cursor : Cursor) : Except Failure Step := do
  let (x, rest) ← repetitions cursor.spaced here fuel x cursor.rest
  .ok (.item x { cursor with rest })

def startsRepetition (t : Text) : Bool :=
  match t with
  | '?' :: _ | '*' :: _ | '+' :: _ | '{' :: _ => true
  | _ => false

/-- Reads one item. `inner` reads the alternatives of a group, and `fuel` bounds what is left. -/
def step (fuel : Nat) (inner : Cursor → Except Failure (Syntax × Cursor)) (cursor : Cursor) :
    Except Failure Step :=
  let here := skip cursor.spaced cursor.rest
  match here with
  | [] => .ok (.stop { cursor with rest := [] })
  | ')' :: _ => .ok (.stop { cursor with rest := here })
  | '|' :: rest => .ok (.bar here { cursor with rest })
  | '(' :: _ => do
    match ← opening cursor.spaced cursor.names here with
    | .flags changes rest =>
      let spaced := (changes.state? .ignoreSpace).getD cursor.spaced
      let behind := skip spaced rest
      if startsRepetition behind then .error ⟨.repetitionMissing, .at behind, none⟩
      else .ok (.item (.flags changes) { cursor with rest, spaced })
    | .group capturing changes names rest =>
      let spaced := (changes.state? .ignoreSpace).getD cursor.spaced
      let (body, stop) ← inner ⟨rest, spaced, names⟩
      match stop.rest with
      | ')' :: rest =>
        finish fuel here (.group capturing changes body (.between here rest))
          ⟨rest, cursor.spaced, stop.names⟩
      | _ => .error ⟨.groupUnclosed, .head here, none⟩
  | '[' :: _ => do
    let (x, rest) ← bracketed cursor.spaced here
    finish fuel here x { cursor with rest }
  | '\\' :: _ => do
    let (x, rest) ← escape cursor.spaced here
    let x : Syntax :=
      match x with
      | .char c => .char c
      | .byte c => .byte c (.between here rest)
      | .anchor kind => .anchor kind
      | .property query negated => .property query negated (.between here rest)
      | .shorthand kind negated => .shorthand kind negated (.between here rest)
    finish fuel here x { cursor with rest }
  | '.' :: rest => finish fuel here (.dot (.head here)) { cursor with rest }
  | '^' :: rest => finish fuel here (.anchor .lineStart) { cursor with rest }
  | '$' :: rest => finish fuel here (.anchor .lineEnd) { cursor with rest }
  | c :: rest =>
    if startsRepetition here then .error ⟨.repetitionMissing, .at here, none⟩
    else finish fuel here (.char c) { cursor with rest }

/-- Reads the alternatives up to the end of the group or pattern; the first one begins at `start`.
The alternatives read so far are given last first, and so are the items read so far of the current
one, which begins at `here`. -/
def branches : (fuel : Nat) → (start : Text) → List Syntax → (here : Text) → List Syntax → Cursor →
    Except Failure (Syntax × Cursor)
  | 0, _, _, _, _, cursor => .error ⟨.groupUnclosed, .at cursor.rest, none⟩
  | fuel + 1, start, done, here, items, cursor => do
    let inner (cursor : Cursor) := branches fuel cursor.rest [] cursor.rest [] cursor
    match ← step (fuel + 1) inner cursor with
    | .stop cursor =>
      let last := Syntax.ofReversed (.between here cursor.rest) items
      .ok (.ofReversedBranches (.between start cursor.rest) (last :: done), cursor)
    | .bar bar cursor =>
      let branch := Syntax.ofReversed (.between here bar) items
      branches fuel start (branch :: done) cursor.rest [] cursor
    | .item x cursor => branches fuel start done here (x :: items) cursor

/-- How deeply the operators of a pattern may be nested. -/
def nestLimit : Nat := 250

def parse (pattern : Text) : Except Failure Syntax := do
  let (tree, stop) ← branches (pattern.length + 1) pattern [] pattern [] ⟨pattern, false, []⟩
  if stop.rest.isEmpty then
    match tree.tooDeep? .none nestLimit with
    | none => .ok tree
    | some span => .error ⟨.nestLimitExceeded nestLimit, span, none⟩
  else .error ⟨.groupUnopened, .head stop.rest, none⟩

end DirPicker.Pattern
