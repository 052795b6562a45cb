import DirPicker.Proofs.Anchoring
import DirPicker.Workspace

/-!
# Roots of workspaces

The root that a definition finds in a path is described here by its own pattern, tried at the start
of the path only, and not by the search for the pattern with an anchor in front (`HasRoot`). The main
statement is that the two agree for every pattern that compiles with and without the anchor, and that
a directory belongs to the first definition that has a root in it (`Belongs`).
-/

namespace DirPicker.Workspace

open Pattern

/-- The pattern compiles, and so it does with the anchor in front. -/
structure Definition.Compiles (d : Definition) : Prop where
  alone : ∃ p, Program.compile false d.pattern = .ok p
  anchored : ∃ p, Program.compile false d.anchored = .ok p

theorem exists_of_isOk {ε α : Type} {x : Except ε α} (h : x.isOk = true) : ∃ a, x = .ok a := by
  cases x with
  | error e => cases h
  | ok a => exact ⟨a, rfl⟩

theorem Definition.compiles_iff {d : Definition} :
    d.Compiles ↔ (Program.compile false d.pattern).isOk = true ∧
      (Program.compile false d.anchored).isOk = true := by
  constructor
  · rintro ⟨⟨p, hp⟩, q, hq⟩
    rw [hp, hq]
    exact ⟨rfl, rfl⟩
  · rintro ⟨hp, hq⟩
    exact ⟨exists_of_isOk hp, exists_of_isOk hq⟩

instance (d : Definition) : Decidable d.Compiles := decidable_of_iff' _ d.compiles_iff

/-- What the pattern matches when it is tried at the start of the path only. -/
def Definition.matchAtStart? (d : Definition) (path : Text) : Option Text :=
  match Program.compile false d.pattern with
  | .error _ => none
  | .ok program => (program.node.matchFrom? path 0).map path.take

/-- At the start of the path, the pattern matches `root`, and this is not empty. -/
def Definition.HasRoot (d : Definition) (path root : Text) : Prop :=
  d.matchAtStart? path = some root ∧ root ≠ []

instance (d : Definition) (path root : Text) : Decidable (d.HasRoot path root) :=
  inferInstanceAs (Decidable (_ ∧ _))

/-- The workspace is that of the first definition with a root in `dir`, or there is none. -/
inductive Belongs (dir : Text) : List Definition → Workspace → Prop
  | outside {ds} : (∀ d ∈ ds, ∀ root, ¬ d.HasRoot dir root) → Belongs dir ds outside
  | first {before d root} (after : List Definition) :
      (∀ e ∈ before, ∀ root, ¬ e.HasRoot dir root) → d.HasRoot dir root →
      Belongs dir (before ++ d :: after) ⟨d.kind, root⟩

section

variable {d : Definition} {p q : Program} {path root : Text}

/-- At the start of a text, the anchor makes no difference. -/
theorem matchFrom?_of_anchored (hp : Program.compile false d.pattern = .ok p)
    (hq : Program.compile false d.anchored = .ok q) (path : Text) :
    q.node.matchFrom? path 0 = p.node.matchFrom? path 0 := by
  unfold Definition.anchored at hq
  split at hq
  · obtain rfl := Except.ok.inj (hp.symm.trans hq)
    rfl
  · exact (Program.anchored_of_compile hp hq).matchFrom?_eq path

theorem matchAtStart?_eq_some_iff (hp : Program.compile false d.pattern = .ok p) :
    d.matchAtStart? path = some root ↔
      ∃ stop, p.node.matchFrom? path 0 = some stop ∧ path.take stop = root := by
  simp only [Definition.matchAtStart?, hp, Option.map_eq_some_iff]

/-- What is matched at the start of the path is a text that the pattern takes there. -/
theorem takes_of_matchFrom? {stop : Nat} (h : p.node.matchFrom? path 0 = some stop) :
    ∃ rest, path = path.take stop ++ rest ∧ stop ≤ path.length ∧
      p.node.Takes [] (path.take stop) rest := by
  obtain ⟨u, rest, rfl, rfl, hu⟩ := matchFrom?_takes (l := []) h
  exact ⟨rest, by simp, by simp, by simpa using hu⟩

/-- A root is a span that the anchored pattern matches at the start, and is not empty. -/
theorem rootOf_eq_some (hq : Program.compile false d.anchored = .ok q) :
    d.rootOf path = some root ↔
      ∃ stop, q.node.matchFrom? path 0 = some stop ∧ stop ≠ 0 ∧ path.take stop = root := by
  simp only [Definition.rootOf, hq, Program.find?]
  -- The leftmost match is at the start just if there is a match at the start.
  constructor
  · intro h
    split at h
    · next start stop hfind =>
      split at h
      · next hspan =>
        obtain ⟨rfl, hne⟩ := hspan
        exact ⟨stop, find?_start_iff.mp hfind, hne, Option.some.inj h⟩
      · cases h
    · cases h
  · rintro ⟨stop, hstop, hne, rfl⟩
    rw [find?_start_iff.mpr hstop]
    simp [hne]

/-- `rootOf` finds the root that the definition has, if it has one. -/
theorem rootOf_eq_some_iff (h : d.Compiles) : d.rootOf path = some root ↔ d.HasRoot path root := by
  obtain ⟨⟨p, hp⟩, q, hq⟩ := h
  rw [rootOf_eq_some hq, Definition.HasRoot, matchAtStart?_eq_some_iff hp,
    matchFrom?_of_anchored hp hq]
  -- The match is not empty just if the span it cuts off is not.
  constructor
  · rintro ⟨stop, hstop, hne, rfl⟩
    obtain ⟨rest, -, hle, -⟩ := takes_of_matchFrom? hstop
    refine ⟨⟨stop, hstop, rfl⟩, fun hnil => ?_⟩
    obtain h | rfl := List.take_eq_nil_iff.mp hnil
    · exact hne h
    · exact hne (Nat.le_zero.mp hle)
  · rintro ⟨⟨stop, hstop, rfl⟩, hne⟩
    refine ⟨stop, hstop, ?_, rfl⟩
    rintro rfl
    exact hne List.take_zero

/-- The root is the start of the path, and a text that the pattern takes there. -/
theorem takes_of_hasRoot (h : d.HasRoot path root) :
    ∃ p rest, Program.compile false d.pattern = .ok p ∧ path = root ++ rest ∧ root ≠ [] ∧
      p.node.Takes [] root rest := by
  obtain ⟨hmatch, hne⟩ := h
  cases hp : Program.compile false d.pattern with
  | error e => simp [Definition.matchAtStart?, hp] at hmatch
  | ok p =>
    obtain ⟨stop, hstop, rfl⟩ := (matchAtStart?_eq_some_iff hp).mp hmatch
    obtain ⟨rest, hpath, -, htakes⟩ := takes_of_matchFrom? hstop
    exact ⟨p, rest, rfl, hpath, hne, htakes⟩

end

theorem rootOf_eq_none_iff {d : Definition} (h : d.Compiles) {path : Text} :
    d.rootOf path = none ↔ ∀ root, ¬ d.HasRoot path root := by
  simp only [Option.eq_none_iff_forall_ne_some, Ne, rootOf_eq_some_iff h]

section

variable {dir : Text} {ds : List Definition}

/-- The workspace that a definition makes of `dir`. -/
def Definition.workspace? (dir : Text) (d : Definition) : Option Workspace :=
  (d.rootOf dir).map fun root => ⟨d.kind, root⟩

theorem resolve_eq (dir : Text) (ds : List Definition) :
    resolve dir ds = (ds.findSome? (Definition.workspace? dir)).getD outside := rfl

theorem workspace?_eq_none_iff {d : Definition} (h : d.Compiles) :
    d.workspace? dir = none ↔ ∀ root, ¬ d.HasRoot dir root := by
  rw [Definition.workspace?, Option.map_eq_none_iff, rootOf_eq_none_iff h]

theorem resolve_eq_of_belongs (h : ∀ d ∈ ds, d.Compiles) {w : Workspace} (hw : Belongs dir ds w) :
    resolve dir ds = w := by
  cases hw with
  | outside hnone =>
    have hfind : ds.findSome? (Definition.workspace? dir) = none :=
      List.findSome?_eq_none_iff.mpr fun d hd => (workspace?_eq_none_iff (h d hd)).mpr (hnone d hd)
    rw [resolve_eq, hfind, Option.getD_none]
  | @first before d root after hbefore hroot =>
    have hd : d.workspace? dir = some ⟨d.kind, root⟩ := by
      rw [Definition.workspace?, (rootOf_eq_some_iff (h d (by simp))).mpr hroot, Option.map_some]
    -- Those in front make none, so that the search stops here.
    have hfind : (before ++ d :: after).findSome? (Definition.workspace? dir) =
        some ⟨d.kind, root⟩ :=
      List.findSome?_eq_some_iff.mpr ⟨before, d, after, rfl, hd, fun e he =>
        (workspace?_eq_none_iff (h e (List.mem_append_left _ he))).mpr (hbefore e he)⟩
    rw [resolve_eq, hfind, Option.getD_some]

/-- `resolve` finds the workspace of the first definition with a root. -/
theorem belongs_resolve (h : ∀ d ∈ ds, d.Compiles) (dir : Text) :
    Belongs dir ds (resolve dir ds) := by
  rw [resolve_eq]
  cases hfind : ds.findSome? (Definition.workspace? dir) with
  | none =>
    have hnone := List.findSome?_eq_none_iff.mp hfind
    exact .outside fun d hd => (workspace?_eq_none_iff (h d hd)).mp (hnone d hd)
  | some w =>
    obtain ⟨before, d, after, rfl, hd, hbefore⟩ := List.findSome?_eq_some_iff.mp hfind
    obtain ⟨root, hroot, rfl⟩ := Option.map_eq_some_iff.mp hd
    refine .first after (fun e he => ?_) ((rootOf_eq_some_iff (h d (by simp))).mp hroot)
    exact (workspace?_eq_none_iff (h e (List.mem_append_left _ he))).mp (hbefore e he)

end

/-- Definitions with patterns that compile with and without the anchor: a root is what the pattern
matches at the start of the path when it is tried nowhere else, and is not empty; so it is a text at
the start of the path that the pattern takes there; and a directory belongs to the first definition
that has a root in it, whatever follows, or to none. -/
theorem resolve_first_root {ds : List Definition} (h : ∀ d ∈ ds, d.Compiles) :
    (∀ d ∈ ds, ∀ path root, d.rootOf path = some root ↔ d.HasRoot path root) ∧
    (∀ d ∈ ds, ∀ path root, d.rootOf path = some root →
      ∃ p rest, Program.compile false d.pattern = .ok p ∧ path = root ++ rest ∧ root ≠ [] ∧
        p.node.Takes [] root rest) ∧
    ∀ dir w, resolve dir ds = w ↔ Belongs dir ds w :=
  ⟨fun d hd _ _ => rootOf_eq_some_iff (h d hd),
    fun d hd _ _ hroot => takes_of_hasRoot ((rootOf_eq_some_iff (h d hd)).mp hroot),
    fun dir _ => ⟨fun hw => hw ▸ belongs_resolve h dir, resolve_eq_of_belongs h⟩⟩

/-- The pattern of the first definition takes something further on in the path, through its second
alternative, and that does not count; that of the second one takes the root through its second
alternative. -/
theorem resolve_first_root_of_alternatives :
    let ds : List Definition :=
      [⟨['a'], "/x|/c".toList⟩, ⟨['b'], "/x|/s/[st]*".toList⟩, ⟨['c'], "/s".toList⟩]
    (∀ d ∈ ds, d.Compiles) ∧ resolve "/s/st/c".toList ds = ⟨['b'], "/s/st".toList⟩ := by
  intro ds
  have hcompiles : ∀ d ∈ ds, d.Compiles := by decide +kernel
  have hfirst : Definition.matchAtStart? ⟨['a'], "/x|/c".toList⟩ "/s/st/c".toList = none := by
    decide +kernel
  have hsecond : Definition.HasRoot ⟨['b'], "/x|/s/[st]*".toList⟩ "/s/st/c".toList
      "/s/st".toList := by
    decide +kernel
  refine ⟨hcompiles, ((resolve_first_root hcompiles).2.2 _ _).mpr ?_⟩
  refine @Belongs.first _ [_] _ _ _ (fun e he root hroot => ?_) hsecond
  obtain rfl := List.mem_singleton.mp he
  rw [Definition.HasRoot, hfirst] at hroot
  cases hroot.1

end DirPicker.Workspace
