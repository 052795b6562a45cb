import DirPicker.Proofs.Matching

/-!
# Preferred ends

`firstEnd` goes through a tree by its order of preference and, where a way through the tree leads to
no end, tries the next one. Here it is shown never to leave the tree: an end that it finds lies
behind a text that the tree takes,

    matchFrom?_takes : node.matchFrom? (l ++ r) l.length = some stop →
      ∃ u r', r = u ++ r' ∧ stop = (l ++ u).length ∧ node.Takes l u r'

`Leads` says this of a part of the search, whatever comes behind it. There is one lemma for each way
to put parts together, and `leads_firstEnd` collects them by induction on the tree. So a search
finds an end only from a place that `sources` has found, and `find?_eq_some_iff` tells which place
and which end a search of the whole text answers.
-/

namespace DirPicker.Pattern

variable {whole : Text} {goals mid : Nat} {T S : Onward → Onward} {P Q : Spans}
variable {onward : Onward} {l r : Text} {passed : List Choice} {stop : Nat}
variable {copies : List Nat}

/-- From wherever `T` finds an end, there is a text for `P` that goes up to a goal, and what comes
behind `T` finds this end from there. -/
structure Leads (whole : Text) (goals : Nat) (T : Onward → Onward) (P : Spans) : Prop where
  exists_text : ∀ {onward l r passed stop}, l ++ r = whole →
    T onward ⟨l.length, passed⟩ = some stop →
      ∃ u r' passed', r = u ++ r' ∧ goals.testBit (l ++ u).length = true ∧ P l u r' ∧
        onward ⟨(l ++ u).length, passed'⟩ = some stop

namespace Leads

/-- What leads through some texts leads through more. -/
theorem mono (h : Leads whole goals T P) (hPQ : ∀ {l u r}, P l u r → Q l u r) :
    Leads whole goals T Q where
  exists_text hlr hstop := by
    obtain ⟨u, r', passed', hr, hgoal, hP, hbehind⟩ := h.exists_text hlr hstop
    exact ⟨u, r', passed', hr, hgoal, hPQ hP, hbehind⟩

/-- What `T` finds is found from a place from which `P` reaches a goal. -/
theorem reaches (h : Leads whole goals T P) (hlr : l ++ r = whole)
    (hstop : T onward ⟨l.length, passed⟩ = some stop) : Reaches P goals l r := by
  obtain ⟨u, r', -, hr, hgoal, hP, -⟩ := h.exists_text hlr hstop
  exact ⟨u, r', hr, hgoal, hP⟩

theorem within : Leads whole goals (within goals) (fun _ t _ => t = []) where
  exists_text {onward l r passed stop} _ hstop := by
    unfold Pattern.within at hstop
    split at hstop
    · next hgoal => exact ⟨[], r, passed, rfl, by simpa using hgoal, rfl, by simpa using hstop⟩
    · cases hstop

theorem step (s : CharSet) :
    Leads whole goals (Laid.firstEnd whole.length (.step (places s.contains whole)) copies goals)
      (fun _ t _ => ∃ c, s.contains c = true ∧ t = [c]) where
  exists_text {onward l r passed stop} hlr hstop := by
    subst hlr
    simp only [Laid.firstEnd, testBit_places] at hstop
    split at hstop
    · next h =>
      rw [Bool.and_eq_true] at h
      obtain ⟨hc, hgoal⟩ := h
      cases r with
      | nil => simp at hc
      | cons c r =>
        have hlength : (l ++ [c]).length = l.length + 1 := by simp
        exact ⟨[c], r, [], rfl, hlength ▸ hgoal, ⟨c, by simpa using hc, rfl⟩, hlength ▸ hstop⟩
    · cases hstop

theorem stay (look : Look) :
    Leads whole goals
      (Laid.firstEnd whole.length (.stay (boundaries look.holds none whole)) copies goals)
      (fun l t r => t = [] ∧ look.holds l.getLast? r.head? = true) where
  exists_text {onward l r passed stop} hlr hstop := by
    subst hlr
    simp only [Laid.firstEnd, Pattern.within, Nat.testBit_and, testBit_boundaries,
      Option.or_none] at hstop
    split at hstop
    · next h =>
      rw [Bool.and_eq_true] at h
      exact ⟨[], r, passed, rfl, by simpa using h.1, ⟨rfl, h.2⟩, by simpa using hstop⟩
    · cases hstop

theorem seq (hT : Leads whole mid T P) (hS : Leads whole goals S Q) :
    Leads whole goals (fun onward => T (S onward)) (P.seq Q) where
  exists_text hlr hstop := by
    obtain ⟨u, r₁, passed₁, rfl, -, hP, hmid⟩ := hT.exists_text hlr hstop
    obtain ⟨v, r₂, passed₂, rfl, hgoal, hQ, hbehind⟩ := hS.exists_text (by simpa using hlr) hmid
    rw [List.append_assoc] at hgoal hbehind
    exact ⟨u ++ v, r₂, passed₂, by simp, hgoal, ⟨u, v, rfl, hP, hQ⟩, hbehind⟩

theorem choose (choice : Choice) (hT : Leads whole goals T P) (hS : Leads whole goals S Q) :
    Leads whole goals (fun onward => choose choice (T onward) (S onward))
      (fun l t r => P l t r ∨ Q l t r) where
  exists_text hlr hstop := by
    simp only [Pattern.choose] at hstop
    split at hstop
    · cases hstop
    · split at hstop
      · next hfirst =>
        obtain rfl := Option.some.inj hstop
        exact (hT.mono Or.inl).exists_text hlr hfirst
      · exact (hS.mono Or.inr).exists_text hlr hstop

/-- Going on and leaving, whichever comes first. -/
theorem chooseBody (greedy : Bool) (choice : Choice) (hT : Leads whole goals T P)
    (hS : Leads whole goals S Q) :
    Leads whole goals (fun onward => chooseBody greedy choice (T onward) (S onward))
      (fun l t r => P l t r ∨ Q l t r) := by
  cases greedy with
  | true => exact hT.choose choice hS
  | false => exact (hS.choose choice hT).mono Or.symm

/-! ### Repetitions -/

/-- A body and then any number of them. -/
theorem power_of_seq {l t r : Text} (h : P.seq (fun l t r => ∃ k, P.power k l t r) l t r) :
    ∃ k, P.power (k + 1) l t r := by
  obtain ⟨u, v, rfl, hu, k, hv⟩ := h
  exact ⟨k, (Spans.power_succ k).symm ▸ ⟨u, v, rfl, hu, hv⟩⟩

theorem power_of_seq_or {l t r : Text}
    (h : P.seq (fun l t r => ∃ k, P.power k l t r) l t r ∨ t = []) : ∃ k, P.power k l t r := by
  obtain h | rfl := h
  · obtain ⟨k, hk⟩ := power_of_seq h
    exact ⟨k + 1, hk⟩
  · exact ⟨0, rfl⟩

/-- A body that is repeated leads through any number of its texts. -/
theorem again (greedy : Bool) (choice : Choice) {body : Onward → Onward}
    (hbody : Leads whole mid body P) (fuel : Nat) :
    Leads whole goals (fun onward => again greedy choice body (Pattern.within goals onward) fuel)
      (fun l t r => ∃ k, P.power k l t r) := by
  induction fuel with
  | zero => exact within.mono fun h => ⟨0, h⟩
  | succ fuel ih => exact ((hbody.seq ih).chooseBody greedy choice within).mono power_of_seq_or

variable {copy : Nat → Nat → Onward → Onward} (hcopy : ∀ k goals, Leads whole goals (copy k goals) P)
include hcopy

theorem firstCopies (once : Nat → Nat) (hS : Leads whole goals S Q) (count k g : Nat) :
    Leads whole goals (fun onward => Laid.firstEnd.firstCopies copy once count k g (S onward))
      ((P.power count).seq Q) := by
  induction count generalizing k with
  | zero =>
    show Leads whole goals S _
    rw [show (P.power 0).seq Q = Q from Spans.empty_seq]
    exact hS
  | succ count ih =>
    rw [Spans.power_succ, Spans.seq_assoc]
    exact (hcopy _ _).seq (ih (k + 1))

theorem spareCopies (once : Nat → Nat) (id low : Nat) (copies : List Nat) (greedy : Bool)
    (g count : Nat) :
    Leads whole goals
      (fun onward => Laid.firstEnd.spareCopies copy once id low copies greedy g
        (Pattern.within goals onward) count)
      (fun l t r => ∃ k, k ≤ count ∧ P.power k l t r) := by
  induction count with
  | zero => exact within.mono fun h => ⟨0, Nat.le_refl 0, h⟩
  | succ count ih =>
    refine (((hcopy _ _).seq ih).chooseBody greedy _ within).mono ?_
    rintro l t r (⟨u, v, rfl, hu, k, hk, hv⟩ | rfl)
    · exact ⟨k + 1, by omega, (Spans.power_succ k).symm ▸ ⟨u, v, rfl, hu, hv⟩⟩
    · exact ⟨0, Nat.zero_le _, rfl⟩

/-- A body any number of times, which the search does without the place of choice in front of the
loop unless the body can take nothing. -/
theorem loop (entrance greedy : Bool) (id fuel : Nat) :
    Leads whole goals (fun onward =>
      let loop := Pattern.again greedy (id, 0, copies) (copy 0 mid) (Pattern.within goals onward) fuel
      if entrance then
        Pattern.chooseBody greedy (id, 1, copies) (copy 0 mid loop) (Pattern.within goals onward)
      else loop) (fun l t r => ∃ k, P.power k l t r) := by
  cases entrance with
  | true =>
    exact (((hcopy 0 mid).seq (again greedy _ (hcopy 0 mid) fuel)).chooseBody greedy _ within).mono
      power_of_seq_or
  | false => exact again greedy _ (hcopy 0 mid) fuel

omit hcopy

theorem rep {body : Node}
    (hbody : ∀ copies goals, Leads whole goals
      (Laid.firstEnd whole.length (Node.over body whole) copies goals) (Node.Takes body))
    (id low : Nat) (high : Option Nat) (greedy : Bool) (copies : List Nat) (goals : Nat) :
    Leads whole goals
      (Laid.firstEnd whole.length (Node.over (.rep id body low high greedy) whole) copies goals)
      (Node.Takes (.rep id body low high greedy)) := by
  have hcopy : ∀ k goals, Leads whole goals
      (Laid.firstEnd whole.length (Node.over body whole) (k :: copies) goals) (Node.Takes body) :=
    fun k goals => hbody (k :: copies) goals
  -- With a bound, `low` copies come first and then spare ones; without, the last is repeated.
  cases high with
  | some high =>
    refine (firstCopies hcopy _ (spareCopies hcopy _ id low copies greedy goals (high - low)) low
      0 _).mono ?_
    rintro l t r ⟨u, v, rfl, hu, k, hk, hv⟩
    refine ⟨low + k, by omega, ?_, (Spans.power_add low k).symm ▸ ⟨u, v, rfl, hu, hv⟩⟩
    rintro m ⟨⟩
    omega
  | none =>
    cases low with
    | zero =>
      refine (loop hcopy (Tree.nullable (Node.over body whole)) greedy id (whole.length + 1)).mono ?_
      rintro l t r ⟨k, hk⟩
      exact ⟨k, Nat.zero_le k, by simp, hk⟩
    | succ low =>
      refine (firstCopies hcopy _
        ((hcopy low _).seq (again greedy _ (hcopy low _) (whole.length + 1))) low 0 _).mono ?_
      rintro l t r ⟨u, v, rfl, hu, hv⟩
      obtain ⟨k, hv⟩ := power_of_seq hv
      exact ⟨low + (k + 1), by omega, by simp, (Spans.power_add low (k + 1)).symm ▸
        ⟨u, v, rfl, hu, hv⟩⟩

end Leads

/-! ### Trees -/

/-- The search goes through the tree by texts that the tree takes. -/
theorem leads_firstEnd (whole : Text) (node : Node) (copies : List Nat) (goals : Nat) :
    Leads whole goals (Laid.firstEnd whole.length (node.over whole) copies goals) node.Takes := by
  induction node generalizing copies goals with
  | empty => exact .within
  | step s => exact .step s
  | stay look => exact .stay look
  | seq a b iha ihb => exact (iha _ _).seq (ihb _ _)
  | alt id a b iha ihb => exact (iha _ _).choose _ (ihb _ _)
  | group capturing body ih => exact ih _ _
  | rep id body low high greedy ih => exact .rep ih id low high greedy copies goals

/-! ### Places from which there is no end -/

/-- Nothing is found from where `sources` finds nothing. -/
theorem firstEnd_eq_none (node : Node) (hlr : l ++ r = whole)
    (h : (Laid.sources whole.length (node.over whole) goals).testBit l.length = false) :
    Laid.firstEnd whole.length (node.over whole) copies goals onward ⟨l.length, passed⟩ = none := by
  rw [Option.eq_none_iff_forall_ne_some]
  intro stop hstop
  have hreaches := (leads_firstEnd whole node copies goals).reaches hlr hstop
  rw [(finds_sources whole node).testBit goals hlr |>.mpr hreaches] at h
  cases h

/-- To go on only from places that reach a goal loses no end. -/
theorem within_sources (node : Node) (hlr : l ++ r = whole) :
    within (Laid.sources whole.length (node.over whole) goals)
        (Laid.firstEnd whole.length (node.over whole) copies goals onward) ⟨l.length, passed⟩ =
      Laid.firstEnd whole.length (node.over whole) copies goals onward ⟨l.length, passed⟩ := by
  rw [within]
  split
  · rfl
  · next h => exact (firstEnd_eq_none node hlr (by simpa using h)).symm

/-- The way through two trees is the way through the first, and on through the second. -/
theorem firstEnd_andThen (a b : Node) (hlr : l ++ r = whole) :
    Laid.firstEnd whole.length (Node.over (a.andThen b) whole) copies goals onward
        ⟨l.length, passed⟩ =
      Laid.firstEnd whole.length (a.over whole) copies
        (Laid.sources whole.length (b.over whole) goals)
        (Laid.firstEnd whole.length (b.over whole) copies goals onward) ⟨l.length, passed⟩ := by
  cases a with
  | empty => exact (within_sources b hlr).symm
  | _ => rfl

/-! ### Matches -/

variable {node : Node} {t : Text}

/-- The preferred end from a place lies behind a text that the tree takes there. -/
theorem matchFrom?_takes (h : node.matchFrom? (l ++ r) l.length = some stop) :
    ∃ u r', r = u ++ r' ∧ stop = (l ++ u).length ∧ node.Takes l u r' := by
  obtain ⟨u, r', passed, hr, -, hu, hstop⟩ := (leads_firstEnd _ node _ _).exists_text rfl h
  exact ⟨u, r', hr, (Option.some.inj hstop).symm, hu⟩

/-- A search takes the first place to start at, and the preferred end from there. -/
theorem find?_eq_some {start : Nat} : node.find? t = some (start, stop) ↔
    (List.range (t.length + 1)).find?
        (Laid.sources t.length (node.over t) (allPlaces t.length)).testBit = some start ∧
      node.matchFrom? t start = some stop := by
  rw [Node.find?]
  cases (List.range (t.length + 1)).find? _ with
  | none => simp
  | some first =>
    constructor
    · intro h
      obtain ⟨found, hfound, hpair⟩ := Option.map_eq_some_iff.mp h
      obtain ⟨rfl, rfl⟩ := Prod.mk.inj hpair
      exact ⟨rfl, hfound⟩
    · rintro ⟨hfirst, hstop⟩
      obtain rfl := Option.some.inj hfirst
      exact Option.map_eq_some_iff.mpr ⟨stop, hstop, rfl⟩

/-- A search answers a place and an end when this is the preferred end from there, and the tree
takes nothing from any place before. -/
theorem find?_eq_some_iff : node.find? (l ++ r) = some (l.length, stop) ↔
    node.matchFrom? (l ++ r) l.length = some stop ∧
      ∀ l' u r', l ++ r = l' ++ (u ++ r') → l'.length < l.length → ¬ node.Takes l' u r' := by
  -- Places to start at are those from which the tree takes some text.
  have hstarts : ∀ l' s, l ++ r = l' ++ s →
      ((Laid.sources (l ++ r).length (node.over (l ++ r)) (allPlaces (l ++ r).length)).testBit
        l'.length = true ↔ ∃ u r', s = u ++ r' ∧ node.Takes l' u r') := by
    intro l' s hs
    rw [hs]
    exact testBit_sources_allPlaces node l' s
  rw [find?_eq_some, List.find?_range_eq_some]
  generalize Laid.sources _ _ _ = starts at hstarts
  constructor
  · rintro ⟨⟨-, -, hbefore⟩, hstop⟩
    refine ⟨hstop, fun l' u r' hsplit hlt hu => ?_⟩
    have hbit := (hstarts l' (u ++ r') hsplit).mpr ⟨u, r', rfl, hu⟩
    simpa [hbit] using hbefore l'.length hlt
  · rintro ⟨hstop, hbefore⟩
    obtain ⟨u, r', hr, -, hu⟩ := matchFrom?_takes hstop
    have hplace : l.length ∈ List.range ((l ++ r).length + 1) := by
      rw [List.mem_range, List.length_append]
      omega
    refine ⟨⟨(hstarts l r rfl).mpr ⟨u, r', hr, hu⟩, hplace, fun j hj => ?_⟩, hstop⟩
    -- A place before `l` cuts `l` in two.
    have hlength : (l.take j).length = j := by
      rw [List.length_take]
      omega
    have hcut : l ++ r = l.take j ++ (l.drop j ++ r) := by
      rw [← List.append_assoc, List.take_append_drop]
    have hbit : starts.testBit (l.take j).length ≠ true := by
      rw [Ne, hstarts _ _ hcut]
      rintro ⟨v, r'', hv, htakes⟩
      exact hbefore _ v r'' (hv ▸ hcut) (by rwa [hlength]) htakes
    rw [hlength] at hbit
    simpa using hbit

/-- No place comes before the start of the text. -/
theorem find?_start_iff : node.find? t = some (0, stop) ↔ node.matchFrom? t 0 = some stop := by
  have h := @find?_eq_some_iff [] t stop node
  simpa using h

end DirPicker.Pattern
