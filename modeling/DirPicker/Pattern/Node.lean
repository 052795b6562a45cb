import DirPicker.Pattern.Parser
import DirPicker.Pattern.Property
import DirPicker.Pattern.Tree
import DirPicker.Unicode.Folding

/-!
# The meaning of a pattern

`Node.ofSyntax` turns the syntax tree of a pattern into a matching tree over sets of characters
and conditions on places. Here flags take effect: they decide what a letter, a class, an anchor or
a repetition means from the place where they are set to the end of the group, the alternatives
that follow included.

With Unicode switched off, classes are sets of ASCII characters, and what could match a part of a
character is refused.
-/

namespace DirPicker.Pattern

/-- A condition on a place in a text. The word conditions ask for Unicode words or ASCII words. -/
inductive Look
  | start
  | stop
  | lineStart
  | lineStop
  | crlfStart
  | crlfStop
  | boundary (unicode : Bool)
  | notBoundary (unicode : Bool)
  | wordStart (unicode : Bool)
  | wordStop (unicode : Bool)
  | wordStartHalf (unicode : Bool)
  | wordStopHalf (unicode : Bool)
deriving DecidableEq, Repr

def Look.isUnicodeWord : Look → Bool
  | .boundary unicode | .notBoundary unicode | .wordStart unicode | .wordStop unicode
  | .wordStartHalf unicode | .wordStopHalf unicode => unicode
  | _ => false

abbrev Node := Tree CharSet Look

/-- The positions of the flags that change what follows. -/
structure Flags where
  ignoreCase : Bool := false
  multiLine : Bool := false
  dotAll : Bool := false
  swapGreed : Bool := false
  unicode : Bool := true
  crlf : Bool := false
deriving DecidableEq, Repr

def Flags.change (flags : Flags) (changes : FlagChanges) : Flags where
  ignoreCase := (changes.state? .ignoreCase).getD flags.ignoreCase
  multiLine := (changes.state? .multiLine).getD flags.multiLine
  dotAll := (changes.state? .dotAll).getD flags.dotAll
  swapGreed := (changes.state? .swapGreed).getD flags.swapGreed
  unicode := (changes.state? .unicode).getD flags.unicode
  crlf := (changes.state? .crlf).getD flags.crlf

/-! ### Sets of characters -/

/-- The set with the other case of each ASCII letter in it. -/
def asciiCaseClosure (s : CharSet) : CharSet :=
  let letters := (List.range 26).flatMap fun k =>
    let lower := (0x61 + k, 0x61 + k)
    let upper := (0x41 + k, 0x41 + k)
    if CharSet.hasCode s.ranges lower.1 || CharSet.hasCode s.ranges upper.1
    then [upper, lower] else []
  .union (.ofRanges letters) s

namespace Flags

def literal (flags : Flags) (c : Char) : CharSet :=
  if flags.ignoreCase then
    if flags.unicode then .variantsOf c else asciiCaseClosure (.singleton c)
  else .singleton c

/-- The set with what is equal up to case, where case makes no difference. -/
def fold (flags : Flags) (s : CharSet) : CharSet :=
  if flags.ignoreCase then if flags.unicode then s.caseClosure else asciiCaseClosure s else s

/-- The set, or all characters outside it. Without Unicode the outside holds parts of
characters, and is refused. -/
def negate (flags : Flags) (negated : Bool) (span : Span) (s : CharSet) :
    Except Failure CharSet :=
  if negated then
    if flags.unicode then .ok s.complement else .error ⟨.invalidUtf8, span, none⟩
  else .ok s

def property (flags : Flags) (query : PropertyQuery) (negated : Bool) (span : Span) :
    Except Failure CharSet :=
  if flags.unicode then
    match query.chars with
    | .ok set => flags.negate negated span (flags.fold set)
    | .error cause => .error ⟨cause, span, none⟩
  else .error ⟨.unicodeNotAllowed, span, none⟩

/-- The character itself, where it can stand in a class. -/
def classChar (flags : Flags) (c : ClassChar) : Except Failure Nat :=
  let n := c.char.toNat
  if flags.unicode || n < 128 then .ok n
  else .error ⟨if c.byte then .invalidUtf8 else .unicodeNotAllowed, c.span, none⟩

def dot (flags : Flags) (span : Span) : Except Failure CharSet :=
  if flags.unicode then
    .ok (if flags.dotAll then .all
      else if flags.crlf then (CharSet.ofList ['\n', '\r']).complement
      else (CharSet.singleton '\n').complement)
  else .error ⟨.invalidUtf8, span, none⟩

def look (flags : Flags) : Anchor → Look
  | .lineStart =>
    if flags.multiLine then if flags.crlf then .crlfStart else .lineStart else .start
  | .lineEnd => if flags.multiLine then if flags.crlf then .crlfStop else .lineStop else .stop
  | .textStart => .start
  | .textEnd => .stop
  | .boundary => .boundary flags.unicode
  | .notBoundary => .notBoundary flags.unicode
  | .wordStart => .wordStart flags.unicode
  | .wordEnd => .wordStop flags.unicode
  | .wordStartHalf => .wordStartHalf flags.unicode
  | .wordEndHalf => .wordStopHalf flags.unicode

end Flags

def ClassOp.apply : ClassOp → CharSet → CharSet → CharSet
  | .intersection, a, b => a.inter b
  | .difference, a, b => a.diff b
  | .symmetricDifference, a, b => a.symmDiff b

def ClassSet.chars (flags : Flags) : ClassSet → Except Failure CharSet
  | .empty _ => .ok .empty
  | .char c => do
    let n ← flags.classChar c
    .ok ⟨[(n, n)]⟩
  | .range first last => do
    let lo ← flags.classChar first
    let hi ← flags.classChar last
    .ok ⟨[(lo, hi)]⟩
  | .ascii kind negated span => flags.negate negated span (flags.fold kind.chars)
  | .property query negated span => flags.property query negated span
  | .shorthand kind negated span => flags.negate negated span (kind.chars flags.unicode)
  | .bracketed negated set span => do
    let set ← set.chars flags
    flags.negate negated span (flags.fold set)
  | .union a b => do
    let a ← a.chars flags
    let b ← b.chars flags
    .ok (a.union b)
  | .op kind a b => do
    let a ← a.chars flags
    let b ← b.chars flags
    .ok (kind.apply (flags.fold a) (flags.fold b))

/-! ### Trees -/

/-- The flags in force, and the number of the next place of choice. -/
structure Reading where
  flags : Flags
  nextId : Nat

/-- The tree for `before` followed by what a syntax tree means, and what is in force behind it. -/
def Node.ofSyntax (before : Node) : Syntax → Reading → Except Failure (Node × Reading)
  | .empty, now => .ok (before, now)
  | .flags changes, now => .ok (before, { now with flags := now.flags.change changes })
  | .char c, now => .ok (before.andThen (.step (now.flags.literal c)), now)
  | .byte c span, now =>
    if now.flags.unicode || c.toNat < 128 then
      .ok (before.andThen (.step (now.flags.literal c)), now)
    else .error ⟨.invalidUtf8, span, none⟩
  | .dot span, now => do
    let set ← now.flags.dot span
    .ok (before.andThen (.step set), now)
  | .anchor kind, now => .ok (before.andThen (.stay (now.flags.look kind)), now)
  | .property query negated span, now => do
    let set ← now.flags.property query negated span
    .ok (before.andThen (.step set), now)
  | .shorthand kind negated span, now => do
    let set ← now.flags.negate negated span (kind.chars now.flags.unicode)
    .ok (before.andThen (.step set), now)
  | .bracketed negated set span, now => do
    let set ← set.chars now.flags
    let set ← now.flags.negate negated span (now.flags.fold set)
    .ok (before.andThen (.step set), now)
  | .repeated body low high greedy _, now => do
    let (tree, behind) ← Node.ofSyntax .empty body { now with nextId := now.nextId + 1 }
    let greedy := greedy != now.flags.swapGreed
    .ok (before.andThen (.repeated now.nextId tree low high greedy), behind)
  | .group capturing changes body _, now => do
    let (tree, behind) ←
      Node.ofSyntax .empty body { now with flags := now.flags.change changes }
    .ok (before.andThen (.group capturing tree), { behind with flags := now.flags })
  | .cat a b _, now => do
    let (before, now) ← Node.ofSyntax before a now
    Node.ofSyntax before b now
  | .alt a b _, now => do
    let (left, behind) ← Node.ofSyntax .empty a { now with nextId := now.nextId + 1 }
    let (right, behind) ← Node.ofSyntax .empty b behind
    .ok (before.andThen (.alt now.nextId left right), behind)

def Syntax.node (flags : Flags) (tree : Syntax) : Except Failure Node := do
  let (node, _) ← Node.ofSyntax .empty tree ⟨flags, 0⟩
  .ok node

end DirPicker.Pattern
