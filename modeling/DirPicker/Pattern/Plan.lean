import DirPicker.Pattern.Node

/-!
# Plans of machines

A machine is not built from a matching tree directly but from a plan of it, `Plan.ofNode`, in which
parts have been put together: characters that follow each other are one text, alternatives of single
characters are one set, and what all alternatives begin with stands in front of the choice.

Plans are built by `Plan.ofSet`, `Plan.concat` and `Plan.alternatives`; in what these return, no
concatenation stands directly in a concatenation, and no choice directly in a choice.
-/

namespace DirPicker.Pattern

inductive Plan
  | empty
  /-- The characters of a text, of which there is at least one. -/
  | literal (t : Text)
  /-- A character of a set, which does not have exactly one member. -/
  | set (s : CharSet)
  | look (l : Look)
  | repeated (body : Plan) (low : Nat) (high : Option Nat) (greedy : Bool)
  | capture (body : Plan)
  /-- At least two parts after one another. -/
  | cat (parts : List Plan)
  /-- A choice between at least two. -/
  | alt (branches : List Plan)
deriving Repr, Inhabited

namespace Plan

/-! ### Comparing plans -/

mutual

/-- Whether two plans are the same. Groups that are told apart by the places they were captured at
never are. -/
def same : Plan → Plan → Bool
  | .empty, .empty => true
  | .literal t, .literal u => t = u
  | .set s, .set r => s = r
  | .look l, .look m => l = m
  | .repeated p low high greedy, .repeated q low' high' greedy' =>
    low = low' && high = high' && greedy = greedy' && same p q
  | .cat ps, .cat qs => sameList ps qs
  | .alt ps, .alt qs => sameList ps qs
  | _, _ => false

def sameList : List Plan → List Plan → Bool
  | [], [] => true
  | p :: ps, q :: qs => same p q && sameList ps qs
  | _, _ => false

end

/-- How many parts two lists have in common at their beginnings. -/
def commonLength : List Plan → List Plan → Nat
  | p :: ps, q :: qs => if same p q then commonLength ps qs + 1 else 0
  | _, _ => 0

/-! ### Building plans -/

def ofSet (s : CharSet) : Plan :=
  match s.ranges with
  | [(lo, hi)] => if lo = hi then .literal [Char.ofNat lo] else .set s
  | _ => .set s

/-- The parts that a plan has in a concatenation. -/
def parts : Plan → List Plan
  | .empty => []
  | .cat ps => ps
  | p => [p]

/-- Puts a part in front of others. Two texts become one. -/
def joinText (p : Plan) (rest : List Plan) : List Plan :=
  match p, rest with
  | .literal t, .literal u :: rest => .literal (t ++ u) :: rest
  | p, rest => p :: rest

/-- Puts the parts of a plan in front of others. -/
def putBefore (p : Plan) (rest : List Plan) : List Plan := p.parts.foldr joinText rest

/-- The plan of parts that have been put in front of one another. -/
def ofParts : List Plan → Plan
  | [] => .empty
  | [p] => p
  | ps => .cat ps

def concat (ps : List Plan) : Plan := ofParts (ps.foldr putBefore [])

/-- The branches that a plan has in a choice. -/
def branches : Plan → List Plan
  | .alt ps => ps
  | p => [p]

def char? : Plan → Option Char
  | .literal [c] => some c
  | _ => none

def set? : Plan → Option CharSet
  | .set s => some s
  | _ => none

def cat? : Plan → Option (List Plan)
  | .cat ps => some ps
  | _ => none

/-- The set that a choice between characters, or between sets, amounts to. -/
def choiceSet? (ps : List Plan) : Option CharSet :=
  (ps.mapM char?).map CharSet.ofList
    <|> (ps.mapM set?).map fun sets => sets.foldl CharSet.union .empty

/-- How many parts all the concatenations begin with in common. -/
def sharedLength : List (List Plan) → Nat
  | [] => 0
  | first :: rest => rest.foldl (fun n ps => min n (commonLength first ps)) first.length

/-- A choice between plans. What is left when a common beginning has been taken out is simplified in
turn, which takes fewer than `fuel` steps. -/
def choice : (fuel : Nat) → List Plan → Plan
  | fuel, ps =>
    match ps.flatMap branches with
    | [] => .set .empty
    | [p] => p
    | ps =>
      match choiceSet? ps with
      | some s => ofSet s
      | none =>
        match fuel, ps.mapM cat? with
        | fuel + 1, some cats =>
          match sharedLength cats with
          | 0 => .alt ps
          | n =>
            let rests := cats.map fun parts => concat (parts.drop n)
            concat ((cats.headD []).take n ++ [choice fuel rests])
        | _, _ => .alt ps

def alternatives (ps : List Plan) : Plan :=
  choice (total ((ps.flatMap branches).map fun p => p.parts.length) + 1) ps

/-- The alternatives that a tree consists of, each as its parts, a single one if the tree is no
choice. The parts in `rest` come behind them. -/
def branchesOfNode : Node → (rest : List Plan) → List (List Plan)
  | .empty, rest => [rest]
  | .step s, rest => [joinText (ofSet s) rest]
  | .stay l, rest => [.look l :: rest]
  | .seq a b, rest => [joined (branchesOfNode a (joined (branchesOfNode b rest)))]
  | .alt _ a b, rest =>
    let branches := branchesOfNode a [] ++ branchesOfNode b []
    if rest.isEmpty then branches else [putBefore (closed branches) rest]
  | .rep _ body low high greedy, rest =>
    [.repeated (closed (branchesOfNode body [])) low high greedy :: rest]
  | .group capturing body, rest =>
    let body := closed (branchesOfNode body [])
    [putBefore (if capturing then .capture body else body) rest]
where
  /-- The plan of a tree with the alternatives. -/
  closed : List (List Plan) → Plan
    | [ps] => ofParts ps
    | branches => alternatives (branches.map ofParts)
  /-- The parts of a tree with the alternatives. -/
  joined : List (List Plan) → List Plan
    | [ps] => ps
    | branches => (closed branches).parts

def ofNode (node : Node) : Plan := branchesOfNode.closed (branchesOfNode node [])

/-! ### What plans match -/

mutual

/-- The conditions on places that occur in a plan. -/
def looks : Plan → List Look
  | .empty | .literal _ | .set _ => []
  | .look l => [l]
  | .repeated body _ _ _ => body.looks
  | .capture body => body.looks
  | .cat ps => looksOfList ps
  | .alt ps => looksOfList ps

def looksOfList : List Plan → List Look
  | [] => []
  | p :: ps => p.looks ++ looksOfList ps

end

mutual

def onlyEmpty : Plan → Bool
  | .empty | .look _ => true
  | .literal _ | .set _ => false
  | .repeated body _ _ _ => body.onlyEmpty
  | .capture body => body.onlyEmpty
  | .cat ps => onlyEmptyList ps
  | .alt ps => onlyEmptyList ps

def onlyEmptyList : List Plan → Bool
  | [] => true
  | p :: ps => p.onlyEmpty && onlyEmptyList ps

end

mutual

/-- The least number of characters that a plan matches. It is not known of a plan with a part that
matches no text at all. -/
def leastLength? : Plan → Option Nat
  | .empty | .look _ => some 0
  | .literal t => some t.length
  | .set s => if s.isEmpty then none else some 1
  | .repeated body low _ _ => body.leastLength?.map (· * low)
  | .capture body => body.leastLength?
  | .cat ps => (leastLengths? ps).map total
  | .alt ps => (leastLengths? ps).bind List.min?

def leastLengths? : List Plan → Option (List Nat)
  | [] => some []
  | p :: ps => do
    let n ← p.leastLength?
    let ns ← leastLengths? ps
    return n :: ns

end

/-- Whether a plan is known to take at least one character. -/
def takesSome (p : Plan) : Bool := p.leastLength?.any (0 < ·)

mutual

/-- Whether each match of a plan has to begin where a condition holds, as far as its shape tells. -/
def beginsAt (l : Look) : Plan → Bool
  | .empty | .literal _ | .set _ => false
  | .look m => m = l
  | .repeated body low _ _ => low != 0 && body.beginsAt l
  | .capture body => body.beginsAt l
  | .cat ps => someBeginsAt l ps
  | .alt ps => allBeginAt l ps

def someBeginsAt (l : Look) : List Plan → Bool
  | [] => false
  | p :: ps => p.beginsAt l || (p.onlyEmpty && someBeginsAt l ps)

def allBeginAt (l : Look) : List Plan → Bool
  | [] => true
  | p :: ps => p.beginsAt l && allBeginAt l ps

end

mutual

/-- Whether every match of a plan has to end where a condition holds, as far as its shape tells. -/
def endsAt (l : Look) : Plan → Bool
  | .empty | .literal _ | .set _ => false
  | .look m => m = l
  | .repeated body low _ _ => low != 0 && body.endsAt l
  | .capture body => body.endsAt l
  | .cat ps => someEndsAt l ps
  | .alt ps => allEndAt l ps

/-- The same of plans after one another: the last ones decide. -/
def someEndsAt (l : Look) : List Plan → Bool
  | [] => false
  | p :: ps => someEndsAt l ps || (onlyEmptyList ps && p.endsAt l)

def allEndAt (l : Look) : List Plan → Bool
  | [] => true
  | p :: ps => p.endsAt l && allEndAt l ps

end

end Plan

end DirPicker.Pattern
