import DirPicker.Pattern.Program
import DirPicker.Proofs.FilterExpression
import DirPicker.Proofs.PreferredMatch

/-!
# A caret in front of a pattern

A caret put in front of the text of a pattern belongs to the first alternative only. So the tree of
the longer pattern is that of the pattern itself, but with the condition that the text starts here in
front of the first alternative (`Anchored`), and it may well take something further on. From the
start of a text, though, both trees have the same preferred end:

    Anchored.matchFrom?_eq : Anchored a b → b.matchFrom? t 0 = a.matchFrom? t 0

That a caret makes an `Anchored` tree is shown along the way from the text to the tree. What has been
read before has no influence on how the rest is read (`branches_uniform`), so both texts are read
into the same items, and the caret stands in front of those of the first alternative
(`parse_caret`); and the trees are put together in the same way from there on
(`Anchored.ofSyntax`).
-/

namespace DirPicker.Pattern

/-- A sequence that gives a result gave one at each step. -/
theorem exists_of_bind_eq_ok {ε α β : Type} {x : Except ε α} {f : α → Except ε β} {b : β}
    (h : (x >>= f) = .ok b) : ∃ a, x = .ok a ∧ f a = .ok b := by
  cases x with
  | error e => cases h
  | ok a => exact ⟨a, rfl, h⟩

/-! ### Reading the text -/

/-- The rest of a group or pattern is read into the same items and alternatives, whatever has been
read before. -/
theorem branches_uniform {fuel : Nat} {start here : Text} {done items : List Syntax}
    {cursor behind : Cursor} {tree : Syntax}
    (h : branches fuel start done here items cursor = .ok (tree, behind)) :
    ∃ xs more stop, ∀ start done here items,
      branches fuel start done here items cursor =
        .ok (.ofReversedBranches (.between start behind.rest)
          (more ++ .ofReversed (.between here stop) (xs ++ items) :: done), behind) := by
  -- The step itself looks at the cursor only, so that each kind of step is taken with any items.
  induction fuel generalizing start here done items cursor with
  | zero => cases h
  | succ fuel ih =>
    obtain ⟨found, hstep, h⟩ := exists_of_bind_eq_ok h
    cases found with
    | stop last =>
      obtain ⟨-, rfl⟩ := Prod.mk.inj (Except.ok.inj h)
      refine ⟨[], [], last.rest, fun start done here items => ?_⟩
      simp only [branches, hstep, bind, Except.bind, List.nil_append]
    -- A bar closes the alternative, so that what follows begins with no items.
    | bar bar next =>
      obtain ⟨xs, more, stop, hrest⟩ := ih h
      refine ⟨[], more ++ [.ofReversed (.between next.rest stop) xs], bar,
        fun start done here items => ?_⟩
      simp only [branches, hstep, bind, Except.bind, hrest, List.append_nil, List.nil_append,
        List.append_assoc, List.cons_append]
    | item x next =>
      obtain ⟨xs, more, stop, hrest⟩ := ih h
      refine ⟨xs ++ [x], more, stop, fun start done here items => ?_⟩
      simp only [branches, hstep, bind, Except.bind, hrest, List.append_assoc,
        List.cons_append, List.nil_append]

/-- A caret is an anchor where nothing repeats it. -/
theorem step_caret {fuel : Nat} {t : Text} (h : startsRepetition t = false)
    (inner : Cursor → Except Failure (Syntax × Cursor)) (names : GroupNames) :
    step fuel inner ⟨'^' :: t, false, names⟩ = .ok (.item (.anchor .lineStart) ⟨t, false, names⟩) := by
  simp [step, skip, finish, repetitions_eq_self h, bind, Except.bind]

/-- A whole pattern is read by `branches`. -/
theorem branches_of_parse {pattern : Text} {tree : Syntax} (h : parse pattern = .ok tree) :
    ∃ behind, branches (pattern.length + 1) pattern [] pattern [] ⟨pattern, false, []⟩ =
      .ok (tree, behind) := by
  obtain ⟨⟨found, behind⟩, hread, h⟩ := exists_of_bind_eq_ok h
  dsimp only at h
  split at h
  · split at h
    · obtain rfl := Except.ok.inj h
      exact ⟨behind, hread⟩
    · cases h
  · cases h

/-- No pattern begins with a repetition operator. -/
theorem startsRepetition_of_parse {pattern : Text} {tree : Syntax} (h : parse pattern = .ok tree) :
    startsRepetition pattern = false := by
  rw [← Bool.not_eq_true]
  intro hstarts
  obtain ⟨behind, h⟩ := branches_of_parse h
  unfold startsRepetition at hstarts
  split at hstarts
  case h_5 => cases hstarts
  all_goals simp [branches, step, skip, bind, Except.bind, startsRepetition] at h

/-- A pattern and the same pattern with a caret in front are read into the same items, but for the
caret, which comes first in the first alternative. -/
theorem parse_caret {pattern : Text} {tree tree' : Syntax} (h : parse pattern = .ok tree)
    (h' : parse ('^' :: pattern) = .ok tree') :
    ∃ xs more whole whole' here here',
      tree = .ofReversedBranches whole (more ++ [.ofReversed here xs]) ∧
      tree' = .ofReversedBranches whole'
        (more ++ [.ofReversed here' (xs ++ [.anchor .lineStart])]) := by
  have hstarts := startsRepetition_of_parse h
  obtain ⟨behind, hread⟩ := branches_of_parse h
  obtain ⟨behind', hread'⟩ := branches_of_parse h'
  obtain ⟨xs, more, stop, hrest⟩ := branches_uniform hread
  rw [hrest] at hread
  obtain ⟨rfl, -⟩ := Prod.mk.inj (Except.ok.inj hread)
  -- The first step over the longer pattern takes the caret, and leaves the pattern to be read.
  rw [List.length_cons, branches, step_caret hstarts] at hread'
  simp only [bind, Except.bind, hrest] at hread'
  obtain ⟨rfl, -⟩ := Prod.mk.inj (Except.ok.inj hread')
  exact ⟨xs, more, _, _, _, _, by rw [List.append_nil], rfl⟩

/-! ### Spans do not matter -/

namespace Syntax

/-- Two trees mean the same wherever they stand. -/
def SameMeaning (x y : Syntax) : Prop :=
  ∀ before now, Node.ofSyntax before x now = Node.ofSyntax before y now

theorem SameMeaning.refl (x : Syntax) : x.SameMeaning x := fun _ _ => rfl

theorem SameMeaning.foldl_cat {x y : Syntax} (h : x.SameMeaning y) (s s' : Span)
    (xs : List Syntax) :
    (xs.foldl (fun tree item => .cat item tree s) x).SameMeaning
      (xs.foldl (fun tree item => .cat item tree s') y) := by
  induction xs generalizing x y with
  | nil => exact h
  | cons item xs ih =>
    refine ih fun before now => ?_
    simp only [Node.ofSyntax]
    exact congrArg _ (funext fun _ => h _ _)

theorem SameMeaning.foldl_alt {x y : Syntax} (h : x.SameMeaning y) (s s' : Span)
    (xs : List Syntax) :
    (xs.foldl (fun tree branch => .alt branch tree s) x).SameMeaning
      (xs.foldl (fun tree branch => .alt branch tree s') y) := by
  induction xs generalizing x y with
  | nil => exact h
  | cons branch xs ih =>
    refine ih fun before now => ?_
    simp only [Node.ofSyntax, h _ _]

/-- Where a concatenation stands plays no part in what it means. -/
theorem sameMeaning_ofReversed (s s' : Span) (xs : List Syntax) :
    (ofReversed s xs).SameMeaning (ofReversed s' xs) := by
  cases xs with
  | nil => exact .refl _
  | cons x xs => exact (SameMeaning.refl x).foldl_cat s s' xs

/-- Where alternatives stand plays no part in what they mean. -/
theorem sameMeaning_ofReversedBranches (s s' : Span) (xs : List Syntax) :
    (ofReversedBranches s xs).SameMeaning (ofReversedBranches s' xs) := by
  cases xs with
  | nil => exact .refl _
  | cons x xs => exact (SameMeaning.refl x).foldl_alt s s' xs

/-- The alternative that was read first stands in front. -/
theorem ofReversedBranches_append (span : Span) {xs : List Syntax} (h : xs ≠ []) (x : Syntax) :
    ofReversedBranches span (xs ++ [x]) = .alt x (ofReversedBranches span xs) span := by
  cases xs with
  | nil => exact absurd rfl h
  | cons y xs => simp [ofReversedBranches, List.foldl_append]

end Syntax

/-! ### Putting the trees together -/

/-- `Anchored a b`: the tree `b` is `a` with the condition that the text starts here in front, or in
front of its first alternative. -/
inductive Anchored : Node → Node → Prop
  | start : Anchored .empty (.stay .start)
  | andThen {a b : Node} (c : Node) : Anchored a b → Anchored (a.andThen c) (b.andThen c)
  | alt {a b : Node} (id : Nat) (c : Node) : Anchored a b → Anchored (.alt id a c) (.alt id b c)

section

variable {a b a' : Node} {now' : Reading}

/-- What has been made of a part of the syntax tree is put behind both trees. -/
theorem Anchored.bind_andThen {α : Type} {part : Except Failure α} {tree : α → Node}
    {behind : α → Reading} (h : Anchored a b)
    (hpart : (part >>= fun y => .ok (a.andThen (tree y), behind y)) = .ok (a', now')) :
    ∃ b', (part >>= fun y => .ok (b.andThen (tree y), behind y)) = .ok (b', now') ∧
      Anchored a' b' := by
  cases part with
  | error e => cases hpart
  | ok y =>
    obtain ⟨rfl, rfl⟩ := Prod.mk.inj (Except.ok.inj hpart)
    exact ⟨_, rfl, h.andThen (tree y)⟩

/-- What a syntax tree means is put behind both trees. -/
theorem Anchored.ofSyntax {x : Syntax} {now : Reading} (h : Anchored a b)
    (hx : Node.ofSyntax a x now = .ok (a', now')) :
    ∃ b', Node.ofSyntax b x now = .ok (b', now') ∧ Anchored a' b' := by
  -- Every part is put behind the trees, which keeps `Anchored` by its second constructor.
  induction x generalizing a b a' now now' with
  | empty =>
    obtain ⟨rfl, rfl⟩ := Prod.mk.inj (Except.ok.inj hx)
    exact ⟨b, rfl, h⟩
  | flags changes =>
    obtain ⟨rfl, rfl⟩ := Prod.mk.inj (Except.ok.inj hx)
    exact ⟨b, rfl, h⟩
  | char c =>
    obtain ⟨rfl, rfl⟩ := Prod.mk.inj (Except.ok.inj hx)
    exact ⟨_, rfl, h.andThen _⟩
  | anchor kind =>
    obtain ⟨rfl, rfl⟩ := Prod.mk.inj (Except.ok.inj hx)
    exact ⟨_, rfl, h.andThen _⟩
  | byte c span =>
    simp only [Node.ofSyntax] at hx ⊢
    split at hx
    · next hbyte =>
      obtain ⟨rfl, rfl⟩ := Prod.mk.inj (Except.ok.inj hx)
      exact ⟨_, if_pos hbyte, h.andThen _⟩
    · cases hx
  | dot span => exact h.bind_andThen hx
  | property query negated span => exact h.bind_andThen hx
  | shorthand kind negated span => exact h.bind_andThen hx
  | bracketed negated set span =>
    obtain ⟨chars, hset, hx⟩ := exists_of_bind_eq_ok hx
    rw [Node.ofSyntax, hset]
    exact h.bind_andThen hx
  | repeated body low high greedy span => exact h.bind_andThen hx
  | group capturing changes body span => exact h.bind_andThen hx
  | alt x y span =>
    obtain ⟨left, hleft, hx⟩ := exists_of_bind_eq_ok hx
    rw [Node.ofSyntax, hleft]
    exact h.bind_andThen hx
  -- The first part leaves trees that are `Anchored` again, for the second to be put behind.
  | cat x y span ihx ihy =>
    obtain ⟨⟨mid, behind⟩, hfirst, hx⟩ := exists_of_bind_eq_ok hx
    obtain ⟨mid', hmid, hanchored⟩ := ihx h hfirst
    rw [Node.ofSyntax, hmid]
    exact ihy hanchored hx

/-- The last item of a reversed concatenation is the first to be laid. -/
theorem ofSyntax_ofReversed_concat (span : Span) (xs : List Syntax) (x : Syntax) {before : Node}
    {now : Reading} (hx : Node.ofSyntax before x now = .ok (a, now')) :
    Node.ofSyntax before (.ofReversed span (xs ++ [x])) now =
      Node.ofSyntax a (.ofReversed span xs) now' := by
  cases xs with
  | nil => exact hx
  | cons y ys =>
    rw [Syntax.ofReversed_append span (by simp) x, Node.ofSyntax, hx]
    rfl

/-- Outside multi-line mode a caret asks for the start of the text. Flags in the pattern stand behind
the caret, and so they do not change what it asks. -/
theorem anchored_of_caret {now : Reading} {xs : List Syntax} {here : Span} (here' : Span)
    (h : Node.ofSyntax .empty (.ofReversed here xs) now = .ok (a, now'))
    (hflags : now.flags.multiLine = false) :
    ∃ b, Node.ofSyntax .empty (.ofReversed here' (xs ++ [.anchor .lineStart])) now = .ok (b, now') ∧
      Anchored a b := by
  have hcaret : Node.ofSyntax .empty (.anchor .lineStart) now = .ok (.stay .start, now) := by
    simp [Node.ofSyntax, Flags.look, hflags, Tree.andThen]
  rw [Syntax.sameMeaning_ofReversed here here' xs] at h
  rw [ofSyntax_ofReversed_concat here' xs _ hcaret]
  exact Anchored.start.ofSyntax h

/-- The caret changes the first alternative, and leaves the others as they are. -/
theorem anchored_of_caret_in_front {now : Reading} {xs more : List Syntax}
    {whole whole' here here' : Span}
    (h : Node.ofSyntax .empty (.ofReversedBranches whole (more ++ [.ofReversed here xs])) now =
      .ok (a, now')) (hflags : now.flags.multiLine = false) :
    ∃ b, Node.ofSyntax .empty
        (.ofReversedBranches whole'
          (more ++ [.ofReversed here' (xs ++ [.anchor .lineStart])])) now = .ok (b, now') ∧
      Anchored a b := by
  cases more with
  | nil => exact anchored_of_caret here' h hflags
  -- The first alternative is read first. The others are read alike behind it.
  | cons m ms =>
    rw [Syntax.ofReversedBranches_append _ (by simp), Node.ofSyntax] at h ⊢
    obtain ⟨⟨left, behind⟩, hleft, h⟩ := exists_of_bind_eq_ok h
    obtain ⟨⟨right, last⟩, hright, h⟩ := exists_of_bind_eq_ok h
    obtain ⟨rfl, rfl⟩ := Prod.mk.inj (Except.ok.inj h)
    obtain ⟨left', hleft', hanchored⟩ := anchored_of_caret here' hleft hflags
    rw [Syntax.sameMeaning_ofReversedBranches whole whole' (m :: ms)] at hright
    simp only [hleft', bind, Except.bind, hright]
    exact ⟨_, rfl, hanchored.alt now.nextId right⟩

end

/-! ### The search -/

/-- From the start of a text, the condition in front makes no difference. -/
theorem Anchored.firstEnd_eq {a b : Node} (h : Anchored a b) (t : Text) (copies : List Nat)
    (goals : Nat) (onward : Onward) (passed : List Choice) :
    Laid.firstEnd t.length (b.over t) copies goals onward ⟨0, passed⟩ =
      Laid.firstEnd t.length (a.over t) copies goals onward ⟨0, passed⟩ := by
  induction h generalizing goals onward passed with
  -- The condition holds at place 0, whatever the text.
  | start =>
    have hstart : (boundaries Look.start.holds none t).testBit 0 = true :=
      testBit_boundaries Look.start.holds none [] t
    simp only [Node.over, Tree.map, Laid.firstEnd, within, Nat.testBit_and, hstart, Bool.and_true]
  | andThen c _ ih =>
    have hat : ∀ a : Node,
        Laid.firstEnd t.length (Node.over (a.andThen c) t) copies goals onward ⟨0, passed⟩ =
          Laid.firstEnd t.length (a.over t) copies (Laid.sources t.length (c.over t) goals)
            (Laid.firstEnd t.length (c.over t) copies goals onward) ⟨0, passed⟩ :=
      fun a => firstEnd_andThen (l := []) a c (List.nil_append t)
    rw [hat, hat, ih]
  | alt id c _ ih =>
    simp only [Node.over, Tree.map, Laid.firstEnd, choose]
    simp only [Node.over] at ih
    rw [ih]

/-- A match that is tried at the start of a text is the same with the anchor and without it. -/
theorem Anchored.matchFrom?_eq {a b : Node} (h : Anchored a b) (t : Text) :
    b.matchFrom? t 0 = a.matchFrom? t 0 := h.firstEnd_eq t _ _ _ _

/-! ### Compiled patterns -/

namespace Program

/-- A pattern that compiles can be read, and its syntax tree has a meaning. -/
theorem node_of_compile {ignoreCase : Bool} {pattern : Text} {program : Program}
    (h : compile ignoreCase pattern = .ok program) :
    ∃ tree behind, parse pattern = .ok tree ∧
      Node.ofSyntax .empty tree ⟨{ ignoreCase := ignoreCase }, 0⟩ = .ok (program.node, behind) := by
  unfold compile at h
  split at h
  · cases h
  · next tree hparse =>
    split at h
    · cases h
    · next node hnode =>
      split at h
      · obtain rfl := Except.ok.inj h
        obtain ⟨found, hfound, hnode⟩ := exists_of_bind_eq_ok hnode
        obtain rfl := Except.ok.inj hnode
        exact ⟨tree, found.2, hparse, hfound⟩
      · cases h

/-- A caret in front of a pattern makes no difference to what it matches at the start of a text. -/
theorem anchored_of_compile {ignoreCase : Bool} {pattern : Text} {p q : Program}
    (hp : compile ignoreCase pattern = .ok p) (hq : compile ignoreCase ('^' :: pattern) = .ok q) :
    Anchored p.node q.node := by
  obtain ⟨tree, behind, hparse, hp⟩ := node_of_compile hp
  obtain ⟨tree', behind', hparse', hq⟩ := node_of_compile hq
  obtain ⟨xs, more, whole, whole', here, here', rfl, rfl⟩ := parse_caret hparse hparse'
  obtain ⟨b, hb, hanchored⟩ := anchored_of_caret_in_front hp rfl
  rw [hb] at hq
  obtain ⟨rfl, -⟩ := Prod.mk.inj (Except.ok.inj hq)
  exact hanchored

end Program

end DirPicker.Pattern
