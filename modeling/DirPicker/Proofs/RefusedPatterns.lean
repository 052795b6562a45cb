import DirPicker.Proofs.WorkspaceRoot

/-!
# Patterns that are refused

What is compiled for a definition is not its pattern but the pattern with an anchor in front, and so
it might be a pattern although the text of the definition is none. There is one way for this to
happen: the text begins with a repetition operator, which then repeats the anchor. Otherwise the
caret and the text are read apart from each other:

    not_refused_of_caret :
      startsRepetition pattern = false → ¬ Refused ('^' :: pattern) → ¬ Refused pattern

For this the text is read without the caret (`parse_of_caret`), where it is nested no more deeply
(`depth_ofReversedBranches_le`), and the tree is turned into a matching tree with nothing in front
(`ofSyntax_uniform`). The main statement, `resolve_without_refused`, says of lists of definitions
when those with a refused text may be left out.
-/

namespace DirPicker

namespace Pattern

/-! ### Depth -/

def ClassSet.depth (inUnion : Bool) : ClassSet → Nat
  | .bracketed _ inner _ => inner.depth false + 1
  | .union a b => max (a.depth false) (b.depth true) + if inUnion then 0 else 1
  | .op _ a b => max (a.depth false) (b.depth false) + 1
  | _ => 0

/-- The number of levels of a syntax tree that continues a chain of the given kind. -/
def Syntax.depth (chain : Chain) : Syntax → Nat
  | .bracketed _ set _ => set.depth false + 1
  | .repeated body _ _ _ _ => body.depth .none + 1
  | .group _ _ body _ => body.depth .none + 1
  | .cat a b _ => max (a.depth .none) (b.depth .cat) + if chain = .cat then 0 else 1
  | .alt a b _ => max (a.depth .none) (b.depth .alt) + if chain = .alt then 0 else 1
  | _ => 0

theorem enter_eq_none_iff {span : Span} {budget depth : Nat} {inside : Nat → Option Span}
    (h : ∀ budget, inside budget = none ↔ depth ≤ budget) :
    enter span budget inside = none ↔ depth + 1 ≤ budget := by
  cases budget with
  | zero => simp [enter]
  | succ budget => rw [enter, h, Nat.add_le_add_iff_right]

/-- Of two parts neither is too deep if the deeper one is not. -/
theorem orElse_eq_none_iff {a b : Nat → Option Span} {m n : Nat}
    (ha : ∀ budget, a budget = none ↔ m ≤ budget) (hb : ∀ budget, b budget = none ↔ n ≤ budget)
    (budget : Nat) : (a budget <|> b budget) = none ↔ max m n ≤ budget := by
  rw [Nat.max_le, ← ha, ← hb]
  cases a budget <;> simp

/-- A class passes when it has no more levels than there are left. -/
theorem ClassSet.tooDeep?_eq_none_iff (set : ClassSet) (inUnion : Bool) (budget : Nat) :
    set.tooDeep? inUnion budget = none ↔ set.depth inUnion ≤ budget := by
  induction set generalizing inUnion budget with
  | bracketed negated inner span ih => exact enter_eq_none_iff (ih false)
  | union a b iha ihb =>
    have hparts := orElse_eq_none_iff (iha false) (ihb true)
    cases inUnion with
    | true => exact hparts budget
    | false => exact enter_eq_none_iff hparts
  | op kind a b iha ihb => exact enter_eq_none_iff (orElse_eq_none_iff (iha false) (ihb false))
  | _ => simp [tooDeep?, depth]

namespace Syntax

/-- A part is nested too deeply exactly when the tree has more levels than there may be. -/
theorem tooDeep?_eq_none_iff (x : Syntax) (chain : Chain) (budget : Nat) :
    x.tooDeep? chain budget = none ↔ x.depth chain ≤ budget := by
  induction x generalizing chain budget with
  | bracketed negated set span => exact enter_eq_none_iff (set.tooDeep?_eq_none_iff false)
  | repeated body low high greedy span ih => exact enter_eq_none_iff (ih .none)
  | group capturing changes body span ih => exact enter_eq_none_iff (ih .none)
  | cat a b span iha ihb =>
    have hparts := orElse_eq_none_iff (iha .none) (ihb .cat)
    by_cases hchain : chain = .cat
    · simpa [tooDeep?, depth, hchain] using hparts budget
    · simpa [tooDeep?, depth, hchain] using enter_eq_none_iff hparts
  | alt a b span iha ihb =>
    have hparts := orElse_eq_none_iff (iha .none) (ihb .alt)
    by_cases hchain : chain = .alt
    · simpa [tooDeep?, depth, hchain] using hparts budget
    · simpa [tooDeep?, depth, hchain] using enter_eq_none_iff hparts
  | _ => simp [tooDeep?, depth]

/-- A chain of concatenations counts once, where it begins. -/
theorem depth_none_le (x : Syntax) : x.depth .none ≤ x.depth .cat + 1 := by
  cases x <;> simp [depth]

/-- Two chains of the same parts are equally deep if each link keeps that. -/
theorem depth_foldl {f g : Syntax → Syntax → Syntax}
    (hlink : ∀ {x y}, (∀ chain, x.depth chain = y.depth chain) →
      ∀ item chain, (f x item).depth chain = (g y item).depth chain)
    {x y : Syntax} (h : ∀ chain, x.depth chain = y.depth chain) (xs : List Syntax) (chain : Chain) :
    (xs.foldl f x).depth chain = (xs.foldl g y).depth chain := by
  induction xs generalizing x y with
  | nil => exact h chain
  | cons item xs ih => exact ih (hlink h item)

/-- Where the parts of a tree stand makes no difference to its depth. -/
theorem depth_ofReversed (s s' : Span) (xs : List Syntax) (chain : Chain) :
    (ofReversed s xs).depth chain = (ofReversed s' xs).depth chain := by
  cases xs with
  | nil => rfl
  | cons x xs =>
    exact depth_foldl (fun h item chain => by simp only [depth, h]) (fun _ => rfl) xs chain

theorem depth_ofReversedBranches (s s' : Span) (xs : List Syntax) (chain : Chain) :
    (ofReversedBranches s xs).depth chain = (ofReversedBranches s' xs).depth chain := by
  cases xs with
  | nil => rfl
  | cons x xs =>
    exact depth_foldl (fun h item chain => by simp only [depth, h]) (fun _ => rfl) xs chain

/-- An item in front makes a concatenation no less deep. -/
theorem depth_ofReversed_le (s s' : Span) (xs : List Syntax) (x : Syntax) :
    (ofReversed s xs).depth .none ≤ (ofReversed s' (xs ++ [x])).depth .none := by
  cases xs with
  | nil => exact Nat.zero_le _
  | cons y ys =>
    have hle := (ofReversed s' (y :: ys)).depth_none_le
    rw [ofReversed_append s' (by simp) x, depth_ofReversed s s']
    simp only [depth, reduceCtorEq, if_false]
    omega

/-- An item more makes alternatives no shallower. -/
theorem depth_ofReversedBranches_le (s s' here here' : Span) (more xs : List Syntax)
    (x : Syntax) :
    (ofReversedBranches s (more ++ [ofReversed here xs])).depth .none ≤
      (ofReversedBranches s' (more ++ [ofReversed here' (xs ++ [x])])).depth .none := by
  have hle := depth_ofReversed_le here here' xs x
  cases more with
  | nil => exact hle
  | cons m ms =>
    rw [ofReversedBranches_append s (by simp), ofReversedBranches_append s' (by simp),
      depth, depth, depth_ofReversedBranches s s' (m :: ms)]
    omega

end Syntax

/-! ### Reading without the caret -/

/-- A pattern is read when its alternatives end where it ends and are not nested too deeply. -/
theorem parse_eq_ok_iff {pattern : Text} {tree : Syntax} :
    parse pattern = .ok tree ↔ ∃ behind : Cursor,
      branches (pattern.length + 1) pattern [] pattern [] ⟨pattern, false, []⟩ =
        .ok (tree, behind) ∧ behind.rest = [] ∧ tree.depth .none ≤ nestLimit := by
  constructor
  · intro h
    obtain ⟨⟨found, behind⟩, hread, h⟩ := exists_of_bind_eq_ok h
    dsimp only at h
    split at h
    · next hrest =>
      split at h
      · next hdeep =>
        obtain rfl := Except.ok.inj h
        exact ⟨behind, hread, List.isEmpty_iff.mp hrest, (found.tooDeep?_eq_none_iff ..).mp hdeep⟩
      · cases h
    · cases h
  · rintro ⟨behind, hread, hrest, hdepth⟩
    have hdeep := (tree.tooDeep?_eq_none_iff .none nestLimit).mpr hdepth
    simp [parse, hread, hrest, hdeep, bind, Except.bind]

/-- A text is a pattern if it is one with a caret in front, unless the caret is repeated there. -/
theorem parse_of_caret {pattern : Text} {tree' : Syntax}
    (hstarts : startsRepetition pattern = false) (h : parse ('^' :: pattern) = .ok tree') :
    ∃ tree, parse pattern = .ok tree := by
  obtain ⟨behind, hread, hrest, hdepth⟩ := parse_eq_ok_iff.mp h
  -- The first step takes the caret, and what has been read then does not matter.
  rw [List.length_cons, branches, step_caret hstarts] at hread
  simp only [bind, Except.bind] at hread
  obtain ⟨xs, more, stop, hall⟩ := branches_uniform hread
  rw [hall] at hread
  obtain ⟨rfl, -⟩ := Prod.mk.inj (Except.ok.inj hread)
  refine ⟨_, parse_eq_ok_iff.mpr ⟨behind, hall _ _ _ _, hrest, ?_⟩⟩
  rw [List.append_nil]
  exact Nat.le_trans (Syntax.depth_ofReversedBranches_le ..) hdepth

/-! ### The tree without the caret -/

section

variable {a a' : Node} {now now' : Reading}

theorem uniform_of_andThen {α : Type} {part : Except Failure α} {tree : α → Node}
    {behind : α → Reading}
    (h : (part >>= fun y => .ok (a.andThen (tree y), behind y)) = .ok (a', now')) (b : Node) :
    ∃ b', (part >>= fun y => .ok (b.andThen (tree y), behind y)) = .ok (b', now') := by
  cases part with
  | error e => cases h
  | ok y =>
    obtain ⟨-, rfl⟩ := Prod.mk.inj (Except.ok.inj h)
    exact ⟨_, rfl⟩

/-- Whether a syntax tree means something, and what is in force behind it, does not depend on what
stands before it. -/
theorem ofSyntax_uniform {x : Syntax} (h : Node.ofSyntax a x now = .ok (a', now')) (b : Node) :
    ∃ b', Node.ofSyntax b x now = .ok (b', now') := by
  -- What stands before is handed on by each constructor, and none of them looks at it.
  induction x generalizing a b a' now now' with
  | empty =>
    obtain ⟨-, rfl⟩ := Prod.mk.inj (Except.ok.inj h)
    exact ⟨b, rfl⟩
  | flags changes =>
    obtain ⟨-, rfl⟩ := Prod.mk.inj (Except.ok.inj h)
    exact ⟨b, rfl⟩
  | char c =>
    obtain ⟨-, rfl⟩ := Prod.mk.inj (Except.ok.inj h)
    exact ⟨_, rfl⟩
  | anchor kind =>
    obtain ⟨-, rfl⟩ := Prod.mk.inj (Except.ok.inj h)
    exact ⟨_, rfl⟩
  | byte c span =>
    simp only [Node.ofSyntax] at h ⊢
    split at h
    · next hbyte =>
      obtain ⟨-, rfl⟩ := Prod.mk.inj (Except.ok.inj h)
      exact ⟨_, if_pos hbyte⟩
    · cases h
  | dot span => exact uniform_of_andThen h b
  | property query negated span => exact uniform_of_andThen h b
  | shorthand kind negated span => exact uniform_of_andThen h b
  | bracketed negated set span =>
    obtain ⟨chars, hset, h⟩ := exists_of_bind_eq_ok h
    rw [Node.ofSyntax, hset]
    exact uniform_of_andThen h b
  | repeated body low high greedy span => exact uniform_of_andThen h b
  | group capturing changes body span => exact uniform_of_andThen h b
  | alt x y span =>
    obtain ⟨left, hleft, h⟩ := exists_of_bind_eq_ok h
    rw [Node.ofSyntax, hleft]
    exact uniform_of_andThen h b
  | cat x y span ihx ihy =>
    obtain ⟨⟨mid, behind⟩, hfirst, h⟩ := exists_of_bind_eq_ok h
    obtain ⟨mid', hmid⟩ := ihx hfirst b
    rw [Node.ofSyntax, hmid]
    exact ihy h mid'

/-- An alternative means something without the caret in front. -/
theorem ofReversed_of_caret {xs : List Syntax} {here' : Span} (here : Span)
    (h : Node.ofSyntax .empty (.ofReversed here' (xs ++ [.anchor .lineStart])) now =
      .ok (a', now')) :
    ∃ b', Node.ofSyntax .empty (.ofReversed here xs) now = .ok (b', now') := by
  have hcaret : Node.ofSyntax .empty (.anchor .lineStart) now =
      .ok (.stay (now.flags.look .lineStart), now) := rfl
  rw [ofSyntax_ofReversed_concat here' xs _ hcaret] at h
  rw [Syntax.sameMeaning_ofReversed here here' xs]
  exact ofSyntax_uniform h .empty

/-- A pattern means something without the caret in front of its first alternative. -/
theorem ofReversedBranches_of_caret {xs more : List Syntax} {whole' here' : Span}
    (whole here : Span)
    (h : Node.ofSyntax .empty
        (.ofReversedBranches whole'
          (more ++ [.ofReversed here' (xs ++ [.anchor .lineStart])])) now = .ok (a', now')) :
    ∃ b', Node.ofSyntax .empty (.ofReversedBranches whole (more ++ [.ofReversed here xs])) now =
      .ok (b', now') := by
  cases more with
  | nil => exact ofReversed_of_caret here h
  | cons m ms =>
    rw [Syntax.ofReversedBranches_append _ (by simp), Node.ofSyntax] at h ⊢
    obtain ⟨⟨left, behind⟩, hleft, h⟩ := exists_of_bind_eq_ok h
    obtain ⟨right, hright, h⟩ := exists_of_bind_eq_ok h
    obtain ⟨-, rfl⟩ := Prod.mk.inj (Except.ok.inj h)
    -- The other alternatives are read with what is in force behind the first, which is the same.
    obtain ⟨left', hleft'⟩ := ofReversed_of_caret here hleft
    rw [Syntax.sameMeaning_ofReversedBranches whole' whole (m :: ms)] at hright
    simp only [hleft', bind, Except.bind, hright]
    exact ⟨_, rfl⟩

end

/-! ### Refused texts -/

/-- The text is not a pattern, whatever the size of its machine would be. -/
def Refused (pattern : Text) : Prop :=
  ∃ failure, Program.compile false pattern = .error (.refused failure)

instance (pattern : Text) : Decidable (Refused pattern) :=
  match h : Program.compile false pattern with
  | .error (.refused failure) => .isTrue ⟨failure, h⟩
  | .error .tooLarge => .isFalse fun ⟨_, hrefused⟩ => by cases h.symm.trans hrefused
  | .ok _ => .isFalse fun ⟨_, hrefused⟩ => by cases h.symm.trans hrefused

theorem refused_of_parse {pattern : Text} {failure : Failure} (h : parse pattern = .error failure) :
    Refused pattern := ⟨failure, by rw [Program.compile, h]⟩

/-- Only reading a pattern and giving its tree a meaning can refuse it. -/
theorem not_refused_iff {pattern : Text} :
    ¬ Refused pattern ↔ ∃ tree node behind, parse pattern = .ok tree ∧
      Node.ofSyntax .empty tree ⟨{}, 0⟩ = .ok (node, behind) := by
  constructor
  · intro h
    cases hparse : parse pattern with
    | error failure => exact absurd (refused_of_parse hparse) h
    | ok tree =>
      cases hnode : Node.ofSyntax .empty tree ⟨{}, 0⟩ with
      | error failure =>
        refine absurd ⟨failure, ?_⟩ h
        simp [Program.compile, hparse, Syntax.node, hnode, bind, Except.bind]
      | ok found => exact ⟨tree, found.1, found.2, rfl, hnode⟩
  · rintro ⟨tree, node, behind, hparse, hnode⟩ ⟨failure, hrefused⟩
    simp only [Program.compile, hparse, Syntax.node, hnode, bind, Except.bind] at hrefused
    split at hrefused
    · cases hrefused
    · cases hrefused

/-- The caret in front makes readable only what begins with a repetition operator. -/
theorem not_refused_of_caret {pattern : Text} (hstarts : startsRepetition pattern = false)
    (h : ¬ Refused ('^' :: pattern)) : ¬ Refused pattern := by
  obtain ⟨tree', node, behind, hparse', hnode⟩ := not_refused_iff.mp h
  -- Both texts are read into the same items, and so one tree has a meaning if the other has.
  obtain ⟨tree, hparse⟩ := parse_of_caret hstarts hparse'
  obtain ⟨xs, more, whole, whole', here, here', rfl, rfl⟩ := parse_caret hparse hparse'
  obtain ⟨node', hnode'⟩ := ofReversedBranches_of_caret whole here hnode
  exact not_refused_iff.mpr ⟨_, node', behind, hparse, hnode'⟩

/-- A repetition operator has nothing to repeat at the beginning of a text. -/
theorem refused_of_startsRepetition {pattern : Text} (h : startsRepetition pattern = true) :
    Refused pattern := by
  cases hparse : parse pattern with
  | error failure => exact refused_of_parse hparse
  | ok tree => exact Bool.noConfusion (h.symm.trans (startsRepetition_of_parse hparse))

end Pattern

namespace Workspace

open Pattern

/-- The first definition with a root in `dir`, the root, and the definitions that follow. -/
inductive FirstRoot (dir : Text) : List Definition → Definition → Text → List Definition → Prop
  | here {d root after} : d.rootOf dir = some root → FirstRoot dir (d :: after) d root after
  | there {e ds d root after} : e.rootOf dir = none → FirstRoot dir ds d root after →
      FirstRoot dir (e :: ds) d root after

section

variable {d : Definition} {dir root : Text} {ds : List Definition}

/-! ### Definitions with a root -/

/-- A refused pattern gives a root only where the anchor is what it repeats. -/
theorem refused_iff_of_rootOf (h : d.rootOf dir = some root) :
    Refused d.pattern ↔ startsRepetition d.pattern = true := by
  have hcompiled : ¬ Refused d.anchored := by
    rintro ⟨failure, hrefused⟩
    rw [Definition.rootOf, hrefused] at h
    cases h
  refine ⟨fun hrefused => ?_, refused_of_startsRepetition⟩
  rw [Definition.anchored] at hcompiled
  split at hcompiled
  · exact absurd hrefused hcompiled
  · cases hstarts : startsRepetition d.pattern with
    | true => rfl
    | false => exact absurd hrefused (not_refused_of_caret hstarts hcompiled)

theorem FirstRoot.mem {after : List Definition} (h : FirstRoot dir ds d root after) : d ∈ ds := by
  induction h with
  | here => exact List.mem_cons_self
  | there _ _ ih => exact List.mem_cons_of_mem _ ih

theorem FirstRoot.rootOf {after : List Definition} (h : FirstRoot dir ds d root after) :
    d.rootOf dir = some root := by
  induction h with
  | here hroot => exact hroot
  | there _ _ ih => exact ih

/-! ### Leaving definitions out -/

theorem resolve_cons_of_some (h : d.rootOf dir = some root) (ds : List Definition) :
    resolve dir (d :: ds) = ⟨d.kind, root⟩ := by
  simp [resolve, h]

/-- A definition without a root leaves the choice to those behind it. -/
theorem resolve_cons_of_none (h : d.rootOf dir = none) (ds : List Definition) :
    resolve dir (d :: ds) = resolve dir ds := by
  simp [resolve, h]

/-- Only the first definition with a root makes a difference: if it is left out, then what follows
has to resolve to the same workspace. -/
theorem resolve_filter_iff (keep : Definition → Bool) (dir : Text) (ds : List Definition) :
    resolve dir (ds.filter keep) = resolve dir ds ↔
      ∀ d root after, FirstRoot dir ds d root after → keep d = false →
        resolve dir (after.filter keep) = ⟨d.kind, root⟩ := by
  induction ds with
  | nil => exact iff_of_true rfl fun _ _ _ hfirst => nomatch hfirst
  | cons e ds ih =>
    -- The induction is on the definitions; one without a root is passed over, kept or not.
    cases hroot : e.rootOf dir with
    | none =>
      have hfilter : resolve dir ((e :: ds).filter keep) = resolve dir (ds.filter keep) := by
        rw [List.filter_cons]
        split
        · exact resolve_cons_of_none hroot _
        · rfl
      rw [hfilter, resolve_cons_of_none hroot, ih]
      constructor
      · intro h d root after hfirst
        cases hfirst with
        | here hsome => cases hroot.symm.trans hsome
        | there _ hfirst => exact h d root after hfirst
      · exact fun h d root after hfirst => h d root after (.there hroot hfirst)
    | some found =>
      rw [resolve_cons_of_some hroot, List.filter_cons]
      -- This is the first with a root. If it is kept, it is found again; else those behind it
      -- decide.
      cases hkeep : keep e with
      | true =>
        refine iff_of_true (resolve_cons_of_some hroot _) fun d root after hfirst hdrop => ?_
        cases hfirst with
        | here => cases hkeep.symm.trans hdrop
        | there hnone => cases hroot.symm.trans hnone
      | false =>
        refine ⟨fun h d root after hfirst _ => ?_, fun h => h e found ds (.here hroot) hkeep⟩
        cases hfirst with
        | here hsome =>
          obtain rfl := Option.some.inj (hroot.symm.trans hsome)
          exact h
        | there hnone => cases hroot.symm.trans hnone

end

/-- Definitions with a refused text can be left out unless one that begins with a repetition
operator is the first with a root in the directory; and then, if what follows resolves to the same
workspace. No other definition with a refused text has a root. -/
theorem resolve_without_refused (ds : List Definition) :
    (∀ d ∈ ds, ∀ path root, d.rootOf path = some root →
      (Refused d.pattern ↔ startsRepetition d.pattern = true)) ∧
    (∀ dir, resolve dir (ds.filter fun d => ¬ Refused d.pattern) = resolve dir ds ↔
      ∀ d root after, FirstRoot dir ds d root after → startsRepetition d.pattern = true →
        resolve dir (after.filter fun d => ¬ Refused d.pattern) = ⟨d.kind, root⟩) ∧
    ((∀ d ∈ ds, startsRepetition d.pattern = false) →
      (∀ d ∈ ds, Refused d.pattern → ∀ path, d.rootOf path = none) ∧
      ∀ dir, resolve dir (ds.filter fun d => ¬ Refused d.pattern) = resolve dir ds) := by
  have hiff : ∀ dir, resolve dir (ds.filter fun d => ¬ Refused d.pattern) = resolve dir ds ↔
      ∀ d root after, FirstRoot dir ds d root after → startsRepetition d.pattern = true →
        resolve dir (after.filter fun d => ¬ Refused d.pattern) = ⟨d.kind, root⟩ := by
    intro dir
    rw [resolve_filter_iff]
    refine forall₃_congr fun d root after => forall_congr' fun hfirst => ?_
    rw [← refused_iff_of_rootOf hfirst.rootOf]
    simp
  refine ⟨fun d _ path root => refused_iff_of_rootOf, hiff, fun hstarts => ⟨?_, fun dir => ?_⟩⟩
  · intro d hd hrefused path
    cases hroot : d.rootOf path with
    | none => rfl
    | some root =>
      have htrue := (refused_iff_of_rootOf hroot).mp hrefused
      cases (hstarts d hd).symm.trans htrue
  · refine (hiff dir).mpr fun d root after hfirst htrue => ?_
    cases (hstarts d hfirst.mem).symm.trans htrue

/-- A group that is not closed makes no difference to the definition behind it. -/
theorem resolve_without_refused_group :
    let ds : List Definition :=
      [⟨"broken".toList, "/home/(u".toList⟩, ⟨"ok".toList, "/home/u".toList⟩]
    (∀ d ∈ ds, startsRepetition d.pattern = false) ∧ Refused "/home/(u".toList ∧
      resolve "/home/u/work".toList ds = ⟨"ok".toList, "/home/u".toList⟩ := by
  intro ds
  have hstarts : ∀ d ∈ ds, startsRepetition d.pattern = false := by decide
  obtain ⟨-, -, hkept⟩ := resolve_without_refused ds
  refine ⟨hstarts, by decide +kernel, ?_⟩
  rw [← (hkept hstarts).2]
  decide +kernel

/-- A star that nothing stands in front of is refused, but with the anchor in front the definition
has a root. -/
theorem resolve_differs_without_refused :
    let d : Definition := ⟨['w'], "*/home".toList⟩
    Refused d.pattern ∧ d.rootOf "/home/u".toList = some "/home".toList ∧
      resolve "/home/u".toList ([d].filter fun d => ¬ Refused d.pattern) ≠
        resolve "/home/u".toList [d] := by
  decide +kernel

end Workspace

end DirPicker
