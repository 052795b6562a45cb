import DirPicker.Proofs.CandidateList
import DirPicker.Proofs.WorkspaceRoot

/-!
# Where a root ends

The root of a workspace is what a pattern matches at the start of the directory, and a pattern may
well stop inside a segment or behind a separator. Then the directory does not lie below the root:
`resolve_inside_segment` has one root that is the beginning of a sibling's name, and one with a
separator at its end. The main statement tells what does hold:

    root_of_resolve : dir = (resolve dir ds).root ++ rest ∧
      (Path.hasPrefix dir (resolve dir ds).root = true ↔ rest is empty or begins with `/`) ∧
      (d.endsWithSegment = true → Path.hasPrefix dir (resolve dir ds).root = true)

A tree that ends with a segment (`Node.endsWithSegment`) takes, as the last thing in each of its
alternatives, as many characters other than the separator as it can get. The search prefers one more
of them to going on (`again_atBoundary`), so that it stops only where a separator or the end of the
text comes next (`firstEnd_atBoundary`).
-/

namespace DirPicker

namespace Pattern

/-- All characters but the separator. -/
def segmentChars : CharSet := (CharSet.singleton '/').complement

theorem contains_segmentChars {c : Char} : segmentChars.contains c = true ↔ c ≠ '/' :=
  CharSet.contains_complement_singleton (by decide) c

/-- Whether the tree has at its end, in each alternative, as many characters of a segment as there
are, or the end of the text. -/
def Node.endsWithSegment : Node → Bool
  | .rep _ (.step set) _ none greedy => greedy && set = segmentChars
  | .stay look => look = .stop
  | .seq _ b => Node.endsWithSegment b
  | .alt _ a b => Node.endsWithSegment a && Node.endsWithSegment b
  | .group _ body => Node.endsWithSegment body
  | _ => false

/-! ### The search goes on from somewhere -/

section

variable {whole : Text} {goals stop : Nat} {T onward : Onward} {P : Spans} {l r : Text}
variable {passed : List Choice}

/-- An end that a part finds is found by what comes behind it, from some place of the text. -/
theorem Leads.exists_front {T : Onward → Onward} (h : Leads whole goals T P) (hlr : l ++ r = whole)
    (hstop : T onward ⟨l.length, passed⟩ = some stop) :
    ∃ l' r' passed', l' ++ r' = whole ∧ onward ⟨l'.length, passed'⟩ = some stop := by
  obtain ⟨u, r', passed', rfl, -, -, hbehind⟩ := h.exists_text hlr hstop
  exact ⟨l ++ u, r', passed', by rw [← hlr, List.append_assoc], hbehind⟩

theorem exists_front_of_firstCopies {copy : Nat → Nat → Onward → Onward}
    (hcopy : ∀ k goals, Leads whole goals (copy k goals) P) (once : Nat → Nat) {count k g : Nat}
    (hlr : l ++ r = whole)
    (hstop : Laid.firstEnd.firstCopies copy once count k g onward ⟨l.length, passed⟩ = some stop) :
    ∃ l' r' passed', l' ++ r' = whole ∧ onward ⟨l'.length, passed'⟩ = some stop := by
  induction count generalizing k l r passed with
  | zero => exact ⟨l, r, passed, hlr, hstop⟩
  | succ count ih =>
    obtain ⟨l', r', passed', hlr', hrest⟩ := (hcopy _ _).exists_front hlr hstop
    exact ih hlr' hrest

end

/-! ### A run of characters of a segment -/

/-- The goals are among the places that reach them. -/
theorem testBit_closure (f : Nat → Nat) (rounds : Nat) {goals i : Nat}
    (h : goals.testBit i = true) : (closure f rounds goals).testBit i = true := by
  induction rounds generalizing goals with
  | zero => exact h
  | succ rounds ih =>
    rw [closure]
    split
    · exact h
    · apply ih
      rw [Nat.testBit_or, h, Bool.true_or]

section

variable {whole : Text} {looped stop fuel : Nat} {choice : Choice} {copies : List Nat} {l r : Text}
variable {passed : List Choice}

/-- Behind a whole pattern, where the search may end at any place of the text. -/
def anyEnd (whole : Text) : Onward := within (allPlaces whole.length) fun front => some front.place

theorem anyEnd_eq_some_iff {front : Front} :
    anyEnd whole front = some stop ↔ front.place ≤ whole.length ∧ front.place = stop := by
  simp [anyEnd, within, testBit_allPlaces]

/-- A run can be left at once. -/
theorem again_ne_none {body : Onward → Onward} {place : Nat} (h : place ≤ whole.length) :
    again true choice body (anyEnd whole) fuel ⟨place, []⟩ ≠ none := by
  have hleave : ∀ passed, anyEnd whole ⟨place, passed⟩ = some place :=
    fun _ => anyEnd_eq_some_iff.mpr ⟨h, rfl⟩
  cases fuel with
  | zero => simp [again, hleave]
  | succ fuel =>
    simp only [again, chooseBody, if_true, choose, List.not_mem_nil, if_false, hleave]
    split <;> simp

/-- Where a character of a segment comes next, a run goes on. -/
theorem step_ne_none {c : Char} (hlooped : ∀ i ≤ whole.length, looped.testBit i = true)
    (hlr : l ++ c :: r = whole) (hc : c ≠ '/') {body : Onward → Onward} :
    Laid.firstEnd whole.length (.step (places segmentChars.contains whole)) copies looped
      (again true choice body (anyEnd whole) fuel) ⟨l.length, passed⟩ ≠ none := by
  have hplace : l.length + 1 ≤ whole.length := by
    rw [← hlr, List.length_append, List.length_cons]
    omega
  have hbit : (places segmentChars.contains whole).testBit l.length = true := by
    rw [← hlr, testBit_places]
    exact contains_segmentChars.mpr hc
  simp only [Laid.firstEnd, hbit, hlooped _ hplace, Bool.and_self, if_true]
  exact again_ne_none hplace

/-- A run of characters of a segment ends in front of a separator or at the end of the text. -/
theorem again_atBoundary (hlooped : ∀ i ≤ whole.length, looped.testBit i = true)
    (hlr : l ++ r = whole) (hfuel : whole.length < l.length + fuel)
    (hstop : again true choice
      (Laid.firstEnd whole.length (.step (places segmentChars.contains whole)) copies looped)
      (anyEnd whole) fuel ⟨l.length, passed⟩ = some stop) :
    Path.atBoundary (whole.drop stop) = true := by
  -- The induction is on the characters that are left, of which there are fewer than `fuel`.
  induction fuel generalizing l r passed with
  | zero =>
    rw [← hlr, List.length_append] at hfuel
    omega
  | succ fuel ih =>
    simp only [again, chooseBody, if_true, choose] at hstop
    split at hstop
    · cases hstop
    · split at hstop
      · next hfirst =>
        obtain rfl := Option.some.inj hstop
        obtain ⟨_, r', passed', rfl, -, ⟨c, -, rfl⟩, hrest⟩ :=
          (Leads.step segmentChars).exists_text hlr hfirst
        have hcut : (l ++ [c]) ++ r' = whole := by rw [← hlr, List.append_assoc]
        have hleft : whole.length < (l ++ [c]).length + fuel := by
          rw [List.length_append, List.length_singleton]
          omega
        exact ih hcut hleft hrest
      · next hfirst =>
        -- The run is left here, so that no character of a segment comes next.
        obtain ⟨-, rfl⟩ := anyEnd_eq_some_iff.mp hstop
        rw [← hlr, List.drop_left]
        cases r with
        | nil => rfl
        | cons c r =>
          by_cases hc : c = '/'
          · rw [hc]
            rfl
          · exact absurd hfirst (step_ne_none hlooped hlr hc)

end

theorem rep_of_endsWithSegment {id low : Nat} {body : Node} {high : Option Nat} {greedy : Bool}
    (h : Node.endsWithSegment (.rep id body low high greedy) = true) :
    body = .step segmentChars ∧ high = none ∧ greedy = true := by
  cases body with
  | step set => cases high <;> simp_all [Node.endsWithSegment]
  | _ => simp [Node.endsWithSegment] at h

/-- What a tree that ends with a segment matches ends in front of a separator or at the end of the
text. -/
theorem firstEnd_atBoundary {whole : Text} {node : Node} (h : node.endsWithSegment = true)
    {copies : List Nat} {l r : Text} (hlr : l ++ r = whole) {passed : List Choice} {stop : Nat}
    (hstop : Laid.firstEnd whole.length (node.over whole) copies (allPlaces whole.length)
      (fun front => some front.place) ⟨l.length, passed⟩ = some stop) :
    Path.atBoundary (whole.drop stop) = true := by
  induction node generalizing l r passed copies with
  | empty => cases h
  | step s => cases h
  | stay look =>
    obtain rfl : look = .stop := by simpa [Node.endsWithSegment] using h
    obtain ⟨_, r', _, rfl, -, ⟨rfl, hr⟩, hend⟩ := (Leads.stay .stop).exists_text hlr hstop
    obtain rfl := Option.some.inj hend
    obtain rfl : r' = [] := by simpa [Look.holds] using hr
    rw [← hlr]
    simp [Path.atBoundary]
  | seq a b iha ihb =>
    obtain ⟨l', r', passed', hlr', hrest⟩ := (leads_firstEnd whole a _ _).exists_front hlr hstop
    exact ihb h hlr' hrest
  | alt id a b iha ihb =>
    obtain ⟨ha, hb⟩ := Bool.and_eq_true_iff.mp h
    simp only [Node.over, Tree.map, Laid.firstEnd, choose] at hstop
    split at hstop
    · cases hstop
    · split at hstop
      · next hfirst =>
        obtain rfl := Option.some.inj hstop
        exact iha ha hlr hfirst
      · exact ihb hb hlr hstop
  | group capturing body ih => exact ih h hlr hstop
  | rep id body low high greedy =>
    obtain ⟨rfl, rfl, rfl⟩ := rep_of_endsWithSegment h
    have hlooped : ∀ i ≤ whole.length, (closure (Laid.sources whole.length
        (Node.over (.step segmentChars) whole)) (whole.length + 1)
        (allPlaces whole.length)).testBit i = true := fun i hi =>
      testBit_closure _ _ (by simpa [testBit_allPlaces] using hi)
    have hstep : ∀ k goals, Leads whole goals
        (Laid.firstEnd whole.length (Node.over (.step segmentChars) whole) (k :: copies) goals) _ :=
      fun k goals => leads_firstEnd whole (.step segmentChars) (k :: copies) goals
    cases low with
    | zero => exact again_atBoundary hlooped hlr (by omega) hstop
    | succ low =>
      -- Behind the copies that must be there, the run is one that may be left at once.
      obtain ⟨l₁, r₁, passed₁, hlr₁, hlast⟩ := exists_front_of_firstCopies hstep _ hlr hstop
      obtain ⟨l₂, r₂, passed₂, hlr₂, hrun⟩ := (hstep _ _).exists_front hlr₁ hlast
      exact again_atBoundary hlooped hlr₂ (by omega) hrun

end Pattern

namespace Workspace

open Pattern

variable {d : Definition} {path root : Text}

/-- Whether the pattern of the definition, with the anchor in front, ends with a segment. -/
def Definition.endsWithSegment (d : Definition) : Bool :=
  match Program.compile false d.anchored with
  | .ok program => program.node.endsWithSegment
  | .error _ => false

/-- A definition that gives a root has a pattern that compiles behind the anchor. -/
theorem exists_program_of_rootOf (h : d.rootOf path = some root) :
    ∃ q, Program.compile false d.anchored = .ok q := by
  unfold Definition.rootOf at h
  split at h
  · cases h
  · next q hq => exact ⟨q, hq⟩

/-- A root is a text at the start of the path, whatever the pattern. -/
theorem exists_rest_of_rootOf (h : d.rootOf path = some root) :
    ∃ rest, path = root ++ rest ∧ root ≠ [] ∧
      (d.endsWithSegment = true → Path.atBoundary rest = true) := by
  obtain ⟨q, hq⟩ := exists_program_of_rootOf h
  obtain ⟨stop, hstop, hne, rfl⟩ := (rootOf_eq_some hq).mp h
  obtain ⟨-, -, hle, -⟩ := takes_of_matchFrom? hstop
  refine ⟨path.drop stop, (List.take_append_drop stop path).symm, ?_, ?_⟩
  · intro hnil
    have hlength := congrArg List.length hnil
    rw [List.length_take, Nat.min_eq_left hle] at hlength
    exact hne hlength
  · intro hends
    rw [Definition.endsWithSegment, hq] at hends
    exact firstEnd_atBoundary hends (List.nil_append path) hstop

theorem hasPrefix_append_iff {root rest : Text} :
    Path.hasPrefix (root ++ rest) root = true ↔ Path.atBoundary rest = true := by
  rw [Path.hasPrefix_iff]
  constructor
  · rintro ⟨rest', heq, hrest⟩
    rwa [List.append_cancel_left heq]
  · intro hrest
    exact ⟨rest, rfl, hrest⟩

/-- A workspace is that of the first definition with a root in the directory. -/
theorem exists_of_resolve {dir : Text} {ds : List Definition} (h : resolve dir ds ≠ outside) :
    ∃ before d after, ds = before ++ d :: after ∧ (∀ e ∈ before, e.rootOf dir = none) ∧
      d.rootOf dir = some (resolve dir ds).root ∧ (resolve dir ds).kind = d.kind := by
  cases hfind : ds.findSome? (Definition.workspace? dir) with
  | none =>
    rw [resolve_eq, hfind] at h
    exact absurd rfl h
  | some w =>
    have hw : resolve dir ds = w := by rw [resolve_eq, hfind, Option.getD_some]
    obtain ⟨before, d, after, hds, hd, hbefore⟩ := List.findSome?_eq_some_iff.mp hfind
    obtain ⟨root, hroot, rfl⟩ := Option.map_eq_some_iff.mp hd
    rw [hw]
    exact ⟨before, d, after, hds, fun e he => Option.map_eq_none_iff.mp (hbefore e he), hroot, rfl⟩

/-- A directory begins with the root of its workspace, which is what the first definition with a
root matches there. It is the root or lies below it exactly when what follows the root is nothing or
begins with a separator, and so it does whenever the pattern of that definition ends with a
segment. -/
theorem root_of_resolve {dir : Text} {ds : List Definition} (h : (resolve dir ds).root ≠ []) :
    ∃ before d after rest, ds = before ++ d :: after ∧ (∀ e ∈ before, e.rootOf dir = none) ∧
      d.rootOf dir = some (resolve dir ds).root ∧ (resolve dir ds).kind = d.kind ∧
      dir = (resolve dir ds).root ++ rest ∧
      (Path.hasPrefix dir (resolve dir ds).root = true ↔
        rest = [] ∨ ∃ below, rest = '/' :: below) ∧
      (d.endsWithSegment = true → Path.hasPrefix dir (resolve dir ds).root = true) := by
  have hsome : resolve dir ds ≠ outside := fun houtside => h (by rw [houtside, outside])
  obtain ⟨before, d, after, hds, hbefore, hroot, hkind⟩ := exists_of_resolve hsome
  obtain ⟨rest, hdir, -, hends⟩ := exists_rest_of_rootOf hroot
  have hboundary : Path.hasPrefix dir (resolve dir ds).root = true ↔
      Path.atBoundary rest = true := by
    have happend := @hasPrefix_append_iff (resolve dir ds).root rest
    rwa [← hdir] at happend
  refine ⟨before, d, after, rest, hds, hbefore, hroot, hkind, hdir, ?_, ?_⟩
  · rw [hboundary, Path.atBoundary_iff]
  · intro hd
    exact hboundary.mpr (hends hd)

/-- The second alternative of the pattern runs to the end of the segment that the directory goes on
with. -/
theorem root_of_resolve_in_checkout :
    let ds : List Definition := [⟨['w'], "/mnt$|/home/[a-z]+/[^/]+".toList⟩]
    let dir : Text := "/home/u/work2/src".toList
    (resolve dir ds).root ≠ [] ∧ (resolve dir ds).root = "/home/u/work2".toList ∧
      Path.hasPrefix dir (resolve dir ds).root = true := by
  intro ds dir
  have hroot : (resolve dir ds).root = "/home/u/work2".toList := by decide +kernel
  have hne : (resolve dir ds).root ≠ [] := by
    rw [hroot]
    decide
  obtain ⟨before, d, after, -, hds, -, -, -, -, -, hends⟩ := root_of_resolve hne
  have hd : d ∈ ds := by
    rw [hds]
    simp
  obtain rfl := List.mem_singleton.mp hd
  exact ⟨hne, hroot, hends (by decide +kernel)⟩

/-- The root of a sibling with a longer name, and a root with a separator at its end. -/
theorem resolve_inside_segment :
    (resolve "/home/u/work2".toList [⟨['w'], "/home/u/work".toList⟩] =
        ⟨['w'], "/home/u/work".toList⟩ ∧
      Path.hasPrefix "/home/u/work2".toList "/home/u/work".toList = false) ∧
    resolve "/s/p".toList [⟨['w'], "/s/".toList⟩] = ⟨['w'], "/s/".toList⟩ ∧
      Path.hasPrefix "/s/p".toList "/s/".toList = false := by
  decide +kernel

end Workspace

end DirPicker
