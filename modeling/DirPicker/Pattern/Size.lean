import DirPicker.Pattern.Plan

/-!
# The size of a compiled pattern

A pattern is compiled to two machines that read a text byte by byte, one from left to right and one
from right to left, and is refused when either would take more than ten mebibytes. `Plan.weight` is
the number of bytes of a machine: 32 for a state, 8 for each transition of a state with several, and
4 for each way out of a branch. Only the machine from left to right notes where groups begin and
end. Counted repetitions are copies of their body, so the weight is computed and never built.

A set of characters is read as its sequences of byte ranges (`byteSequences`). From left to right,
states from which the same sequences follow are one state; from right to left, sequences share the
states for their common beginning, which is read last. Alternatives that are texts share the states
for what they begin with in reading.
-/

namespace DirPicker.Pattern

def stateWeight : Nat := 32

def sparseWeight (transitions : Nat) : Nat := stateWeight + 8 * transitions

def branchWeight (ways : Nat) : Nat := stateWeight + 4 * ways

/-! ### Sets of characters -/

/-- The bytes of the UTF-8 form of a code point below `0x110000`. -/
def utf8Bytes (n : Nat) : List Nat :=
  if n < 0x80 then [n]
  else if n < 0x800 then [0xC0 + n / 0x40, 0x80 + n % 0x40]
  else if n < 0x10000 then [0xE0 + n / 0x1000, 0x80 + n / 0x40 % 0x40, 0x80 + n % 0x40]
  else [0xF0 + n / 0x40000, 0x80 + n / 0x1000 % 0x40, 0x80 + n / 0x40 % 0x40, 0x80 + n % 0x40]

/-- The last code points with one, two, three and four bytes. -/
def lastOfLength : List Nat := [0x7F, 0x7FF, 0xFFFF, 0x10FFFF]

/-- Where a range of code points has to be cut first, so that each part is a sequence of byte
ranges: the last code point of the lower part. -/
def cutAfter? (lo hi : Nat) : Option Nat :=
  if lo < 0xD800 ∧ 0xD800 ≤ hi then some 0xD7FF
  else if lo < 0xE000 ∧ 0xE000 ≤ hi then some 0xDFFF
  else match lastOfLength.find? fun last => lo ≤ last && last < hi with
    | some last => some last
    | none =>
      if hi < 0x80 then none
      else [0x40, 0x1000, 0x40000].findSome? fun block =>
        if lo / block = hi / block then none
        else if lo % block ≠ 0 then some (lo / block * block + block - 1)
        else if hi % block ≠ block - 1 then some (hi / block * block - 1)
        else none

/-- The sequences of byte ranges that spell the code points from `lo` to `hi`, surrogates left
out. A range needs fewer than `fuel` cuts. -/
def byteSequences : (fuel : Nat) → (lo hi : Nat) → List (List (Nat × Nat))
  | 0, _, _ => []
  | fuel + 1, lo, hi =>
    match cutAfter? lo hi with
    | some last => byteSequences fuel lo last ++ byteSequences fuel (last + 1) hi
    | none =>
      if 0xD800 ≤ lo ∧ hi < 0xE000 then []
      else [(utf8Bytes lo).zip (utf8Bytes hi)]

abbrev ByteRange := Nat × Nat

/-- The sequences of byte ranges that spell the members of a set. -/
def sequencesOf (s : CharSet) : List (List ByteRange) :=
  s.ranges.flatMap fun r => byteSequences 64 r.1 r.2

def commonStart : List ByteRange → List ByteRange → Nat
  | a :: as, b :: bs => if a = b then commonStart as bs + 1 else 0
  | _, _ => 0

/-- The states of sequences in order, those of common beginnings counted once. -/
def sharedStates : (before : List ByteRange) → List (List ByteRange) → Nat
  | _, [] => 0
  | before, s :: ss => (s.length - commonStart before s) + sharedStates s ss

/-- What follows each first range of sequences in order. -/
def followers : List (List ByteRange) → List (ByteRange × List (List ByteRange))
  | [] => []
  | [] :: ss => followers ss
  | (r :: s) :: ss =>
    match followers ss with
    | (q, rest) :: more => if q = r then (q, s :: rest) :: more else (r, [s]) :: (q, rest) :: more
    | [] => [(r, [s])]

/-- The states that read sequences of at most `depth` ranges, each as the sequences that follow from
it; a state may be listed repeatedly. -/
def statesFor : (depth : Nat) → List (List ByteRange) → List (List (List ByteRange))
  | 0, _ => []
  | depth + 1, ss =>
    let next := followers ss
    if next.isEmpty then [] else ss :: next.flatMap fun (_, rest) => statesFor depth rest

/-- The bytes of a machine that reads a character of the set. -/
def setWeight (reverse : Bool) (s : CharSet) : Nat :=
  if s.isAscii then stateWeight + sparseWeight s.ranges.length
  else
    let sequences := sequencesOf s
    if reverse then
      branchWeight sequences.length + stateWeight + stateWeight * sharedStates [] sequences
    else
      let states := (statesFor 4 sequences).eraseDups
      stateWeight + total (states.map fun ss => sparseWeight (followers ss).length)

/-! ### Texts -/

def textBytes (t : Text) : List Nat := t.flatMap fun c => utf8Bytes c.toNat

/-- The words up to each end of a word, which is an empty one. -/
def untilEnds : List (List Nat) → List (List (List Nat))
  | [] => [[]]
  | [] :: ws => [] :: untilEnds ws
  | w :: ws =>
    match untilEnds ws with
    | first :: rest => (w :: first) :: rest
    | [] => [[w]]

/-- What follows each first byte of words. -/
def wordFollowers (ws : List (List Nat)) : List (List (List Nat)) :=
  (ws.filterMap List.head?).eraseDups.map fun b =>
    ws.filterMap fun w => if w.head? = some b then w.tail? else none

/-- The bytes of the states that read one of the words, each having fewer than `fuel` bytes. A word
that ends keeps apart the words before and behind it. Where nothing follows there is no state. -/
def wordsWeight : (fuel : Nat) → List (List Nat) → Nat
  | 0, _ => 0
  | fuel + 1, ws =>
    if ws.all List.isEmpty then 0
    else
      let ws := if ws.head? = some [] then [] :: ws.dropWhile List.isEmpty else ws
      let chunks := untilEnds ws
      let used := chunks.filter fun chunk => !chunk.isEmpty
      let chunkWeight (chunk : List (List Nat)) : Nat :=
        let next := wordFollowers chunk
        (if next.length = 1 then stateWeight else sparseWeight next.length) +
          total (next.map (wordsWeight fuel))
      branchWeight (used.length + (chunks.length - 1)) + total (used.map chunkWeight)

def textsWeight (reverse : Bool) (ts : List Text) : Nat :=
  let words := ts.map fun t => if reverse then (textBytes t).reverse else textBytes t
  let longest := (words.map List.length).foldl max 0
  stateWeight + wordsWeight (longest + 1) words

/-! ### Plans -/

/-- The text that a plan consists of. -/
def Plan.text? : Plan → Option Text
  | .literal t => some t
  | _ => none

/-- The bytes of a machine for a repetition, from those for one copy of its body. -/
def repeatedWeight (body : Plan) (one low : Nat) (high : Option Nat) : Nat :=
  match high with
  | none =>
    if low = 0 then
      if body.takesSome then branchWeight 2 + one
      else one + branchWeight 2 + branchWeight 2 + stateWeight
    else low * one + branchWeight 2
  | some high =>
    if low = 0 ∧ high = 1 then branchWeight 2 + one + stateWeight
    else
      let copies := if low = 0 then stateWeight else low * one
      if low = high then copies
      else copies + stateWeight + (high - low) * (branchWeight 2 + one)

mutual

def Plan.weight (reverse : Bool) : Plan → Nat
  | .empty | .look _ => stateWeight
  | .literal t => stateWeight * (textBytes t).length
  | .set s => setWeight reverse s
  | .repeated body low high _ => repeatedWeight body (body.weight reverse) low high
  | .capture body => (if reverse then 0 else 2 * stateWeight) + body.weight reverse
  | .cat ps => Plan.listWeight reverse ps
  | .alt ps =>
    match ps.mapM Plan.text? with
    | some ts => textsWeight reverse ts
    | none => branchWeight ps.length + stateWeight + Plan.listWeight reverse ps

def Plan.listWeight (reverse : Bool) : List Plan → Nat
  | [] => 0
  | p :: ps => p.weight reverse + Plan.listWeight reverse ps

end

/-- Whether a machine starts only at the end of the text where it starts to read. -/
def Plan.isAnchored (reverse : Bool) (p : Plan) : Bool :=
  if reverse then p.endsAt .stop else p.beginsAt .start

/-- The bytes of a whole machine: in front of the plan it passes over what does not match, unless
it starts at the end of the text only; behind the plan is a last state. -/
def Plan.machineWeight (reverse : Bool) (p : Plan) : Nat :=
  let front :=
    if p.isAnchored reverse then stateWeight else branchWeight 2 + stateWeight + sparseWeight 1
  front + (Plan.capture p).weight reverse + stateWeight

def sizeLimit : Nat := 10 * Nat.pow 2 20

/-- Whether the machines for the tree are within the limit. -/
def Node.fits (node : Node) : Bool :=
  let plan := Plan.ofNode node
  plan.machineWeight false ≤ sizeLimit && plan.machineWeight true ≤ sizeLimit

end DirPicker.Pattern
