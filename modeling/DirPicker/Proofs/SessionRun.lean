import DirPicker.Proofs.Cycle
import DirPicker.Proofs.Lifecycle
import DirPicker.Session

/-!
# Sessions keep the view and the picker in step

In a session the view and the picker change apart from each other: a key changes the view, and what
it asks for changes the picker. `InStep` is what the two have in common whenever an input is waited
for, and `Ready` is what follows for that input. The main statement says that they hold after every
run of inputs:

    inStep_of_run :
      (∀ s, (opening p query).run size inputs = .running s → InStep p s ∧ Ready size s) ∧
        ∀ r, (opening p query).run size inputs = .closed r → r.picker.state = .closed

`Presses` tells apart what a key does to the view. A key that asks for nothing moves the highlight
among the rows there are; a key that asks for a filter puts it on the first row, so that it does not
matter how many rows the filter leaves.
-/

namespace DirPicker

def Key.IsCancel (key : Key) : Prop :=
  key.code = .escape ∨ key.code = .char 'c' ∧ key.modifiers.control = true

namespace View

/-- The number is that of a row, or 0 when there are no rows. -/
def OnRow (rows selected : Nat) : Prop := selected < rows ∨ rows = 0 ∧ selected = 0

/-- What a key may ask for, and the view that it leaves. -/
inductive Presses (v : View) (key : Key) (rows : Nat) : Action × View → Prop
  | moved {selected : Nat} (h : OnRow rows v.selected → OnRow rows selected) :
      Presses v key rows (.none, ⟨v.query, selected⟩)
  | edited {query : Text} : Presses v key rows (.filterChanged, ⟨query, 0⟩)
  | accepted (h : key.code = .enter) : Presses v key rows (.accept, v)
  | cancelled (h : key.IsCancel) : Presses v key rows (.cancel, v)

/-! ### Keys -/

section

variable {rows selected : Nat}

theorem onRow_zero (rows : Nat) : OnRow rows 0 := by
  obtain rfl | hpos := Nat.eq_zero_or_pos rows
  · exact .inr ⟨rfl, rfl⟩
  · exact .inl hpos

theorem onRow_rowAbove (h : OnRow rows selected) : OnRow rows (rowAbove rows selected) := by
  rcases h with h | ⟨rfl, rfl⟩
  · exact .inl (rowAbove_lt h)
  · exact .inr ⟨rfl, rfl⟩

theorem onRow_rowBelow (rows selected : Nat) : OnRow rows (rowBelow rows selected) := by
  rcases Nat.eq_zero_or_pos rows with rfl | hpos
  · exact .inr ⟨rfl, rfl⟩
  · exact .inl (rowBelow_lt hpos selected)

end

section

variable (v : View) (key : Key) (rows : Nat)

theorem presses_still : Presses v key rows (.none, v) := .moved id

theorem presses_above :
    Presses v key rows (.none, { v with selected := rowAbove rows v.selected }) :=
  .moved onRow_rowAbove

theorem presses_below :
    Presses v key rows (.none, { v with selected := rowBelow rows v.selected }) :=
  .moved fun _ => onRow_rowBelow rows v.selected

theorem presses_edit {query : Text} (h : query <+: v.query ∨ v.query <+: query) :
    Presses v key rows (v.edit query) := by
  rw [edit_eq h]
  split
  · exact presses_still v key rows
  · exact .edited

/-- Every key does one of the things that keys may do. -/
theorem presses_press : Presses v key rows (v.press key rows) := by
  unfold press
  split
  · next hcode => exact .cancelled (.inl hcode)
  · next hcode => exact .accepted hcode
  · exact presses_above v key rows
  · exact presses_below v key rows
  · exact presses_edit v key rows (.inl (List.dropLast_prefix _))
  · next c hcode =>
    split
    · next hcontrol =>
      split
      · exact .cancelled (.inr ⟨hcode, hcontrol⟩)
      · exact presses_above v key rows
      · exact presses_below v key rows
      · exact presses_edit v key rows (.inl List.nil_prefix)
      · exact presses_still v key rows
    · exact presses_edit v key rows (.inr (List.prefix_append _ _))
  · exact presses_still v key rows

end

end View

namespace Session

open View

/-- The session on a picker, with the query as its filter if there is a query. -/
def opening (p : Picker) (query : Option Text) : Session :=
  Session.start ((query.map p.setFilter).getD p)

/-- The view of the session `s` fits its picker, which shows candidates of `p`. -/
structure InStep (p : Picker) (s : Session) : Prop where
  opened : s.picker.state = .opened
  query : s.view.query = s.picker.filter
  list : Picker.SameList p s.picker
  shown : s.picker.shown = CandidateList.narrow p.all p.home s.view.query
  selected : OnRow s.picker.size s.view.selected

/-- What the keys that end a session lead to. -/
structure Ready (size : Size) (s : Session) : Prop where
  /-- Counting on from the highlighted row comes to no more than the rows, or 1 without rows. -/
  bounded : s.view.selected + 1 ≤ max s.picker.size 1
  /-- With rows, Enter asks for the directory of the highlighted one. -/
  enter : s.picker.size ≠ 0 → ∀ key : Key, key.code = .enter → ∃ e r,
    s.picker.shown[s.view.selected]? = some e ∧ s.run size [.press key] = .closed r ∧
      r.asked = some (s.picker.workspace.expand e.path)
  /-- Enter without rows, and each key that gives up, ends the session and asks for nothing. -/
  leave : ∀ key : Key, key.code = .enter ∧ s.picker.size = 0 ∨ key.IsCancel → ∃ r,
    s.run size [.press key] = .closed r ∧ r.asked = none ∧ r.entered = none ∧ r.notes = []

/-- The rows follow from the other parts: they are those of the filter, which is the text typed. -/
theorem inStep_of {p : Picker} {s : Session} (hopen : s.picker.state = .opened)
    (hquery : s.view.query = s.picker.filter) (hlist : Picker.SameList p s.picker)
    (hrow : OnRow s.picker.size s.view.selected) : InStep p s :=
  ⟨hopen, hquery, hlist, by rw [hquery, hlist.shown], hrow⟩

/-! ### One input -/

section

variable {p : Picker} {s s' : Session} {size : Size}

theorem handle_enter {key : Key} (h : key.code = .enter) :
    s.handle (.press key) = .closed (s.picker.accept s.view.selected) := by
  simp [handle, View.press, h]

theorem handle_cancel {key : Key} (h : key.IsCancel) :
    s.handle (.press key) = .closed ⟨s.picker.cancel, none, none, []⟩ := by
  obtain h | ⟨h, hcontrol⟩ := h
  · simp [handle, View.press, h]
  · simp [handle, View.press, h, hcontrol]

/-- What an input does: it leaves the picker alone, narrows it to the new text, or ends. -/
theorem handle_cases (s : Session) (input : Input) :
    (∃ selected, (OnRow s.picker.size s.view.selected → OnRow s.picker.size selected) ∧
      s.handle input = .running { s with view := ⟨s.view.query, selected⟩ }) ∨
    (∃ query, s.handle input =
      .running { s with picker := s.picker.setFilter query, view := ⟨query, 0⟩ }) ∨
    s.handle input = .closed (s.picker.accept s.view.selected) ∨
    s.handle input = .closed ⟨s.picker.cancel, none, none, []⟩ := by
  cases input with
  | other => exact .inl ⟨_, id, rfl⟩
  | press key =>
    simp only [handle]
    have hpress := presses_press s.view key s.picker.size
    generalize s.view.press key s.picker.size = pressed at hpress
    cases hpress with
    | moved h => exact .inl ⟨_, h, rfl⟩
    | edited => exact .inr (.inl ⟨_, rfl⟩)
    | accepted => exact .inr (.inr (.inl rfl))
    | cancelled => exact .inr (.inr (.inr rfl))

theorem inStep_drawn (h : InStep p s) (size : Size) : InStep p (s.drawn size) :=
  ⟨h.opened, h.query, h.list, h.shown, h.selected⟩

/-- What an input does to a session that goes on. -/
theorem running_cases {input : Input} (hs : s.handle input = .running s') :
    (∃ selected, (OnRow s.picker.size s.view.selected → OnRow s.picker.size selected) ∧
      s' = { s with view := ⟨s.view.query, selected⟩ }) ∨
    ∃ query, s' = { s with picker := s.picker.setFilter query, view := ⟨query, 0⟩ } := by
  obtain ⟨selected, hrow, heq⟩ | ⟨query, heq⟩ | heq | heq := handle_cases s input
  · exact .inl ⟨selected, hrow, Next.running.inj (hs.symm.trans heq)⟩
  · exact .inr ⟨query, Next.running.inj (hs.symm.trans heq)⟩
  · exact Next.noConfusion (heq.symm.trans hs)
  · exact Next.noConfusion (heq.symm.trans hs)

/-- An input that goes on leaves view and picker in step. -/
theorem inStep_handle (h : InStep p s) {input : Input} (hs : s.handle input = .running s') :
    InStep p s' := by
  obtain ⟨selected, hrow, rfl⟩ | ⟨query, rfl⟩ := running_cases hs
  · exact inStep_of h.opened h.query h.list (hrow h.selected)
  · have hlist := Picker.sameList_call h.list (.setFilter query)
    have hopen := (Picker.call_state s.picker (.setFilter query)).mpr ⟨h.opened, id⟩
    -- An open picker takes the filter, so that it is again the text typed.
    have hquery : query = (s.picker.setFilter query).filter := by simp [Picker.setFilter, h.opened]
    exact inStep_of hopen hquery hlist (onRow_zero _)

/-- An input that ends the session has closed the picker. -/
theorem closed_of_handle {input : Input} {r : Picker.Accepted}
    (hs : s.handle input = .closed r) : r.picker.state = .closed := by
  obtain ⟨selected, -, heq⟩ | ⟨query, heq⟩ | heq | heq := handle_cases s input
  · exact Next.noConfusion (heq.symm.trans hs)
  · exact Next.noConfusion (heq.symm.trans hs)
  · obtain rfl := Next.closed.inj (heq.symm.trans hs)
    rw [Picker.accept_picker]
  · obtain rfl := Next.closed.inj (heq.symm.trans hs)
    rfl

end

/-! ### Runs of inputs -/

section

variable {p : Picker} {s s' : Session} {size : Size}

theorem run_single {input : Input} {r : Picker.Accepted}
    (h : (s.drawn size).handle input = .closed r) : s.run size [input] = .closed r := by
  rw [run, h]

/-- Through a whole session view and picker stay in step. -/
theorem inStep_run (h : InStep p s) {inputs : List Input}
    (hs : s.run size inputs = .running s') : InStep p s' := by
  induction inputs generalizing s with
  | nil =>
    obtain rfl := Next.running.inj hs
    exact h
  | cons input rest ih =>
    rw [run] at hs
    split at hs
    · next next hnext => exact ih (inStep_handle (inStep_drawn h size) hnext) hs
    · simp at hs

theorem closed_of_run {inputs : List Input} {r : Picker.Accepted}
    (hs : s.run size inputs = .closed r) : r.picker.state = .closed := by
  induction inputs generalizing s with
  | nil => simp [run] at hs
  | cons input rest ih =>
    rw [run] at hs
    split at hs
    · exact ih hs
    · next result hnext =>
      obtain rfl := Next.closed.inj hs
      exact closed_of_handle hnext

/-- In step, a session can be ended by Enter and by the keys that give up. -/
theorem ready_of_inStep (h : InStep p s) (size : Size) : Ready size s where
  bounded := by
    obtain hlt | ⟨hsize, hselected⟩ := h.selected <;> omega
  enter hsize key hkey := by
    obtain hlt | ⟨hzero, -⟩ := h.selected
    · have hrow := List.getElem?_eq_getElem hlt
      refine ⟨_, _, hrow, run_single (handle_enter hkey), ?_⟩
      exact ((Picker.lawful_call s.picker (.accept s.view.selected)).asked _).mpr
        ⟨h.opened, _, _, rfl, hrow, rfl⟩
    · exact absurd hzero hsize
  leave key hkey := by
    obtain ⟨hkey, hsize⟩ | hkey := hkey
    · have htarget : s.picker.target? s.view.selected = none := by
        have hnil : s.picker.shown = [] := List.length_eq_zero_iff.mp hsize
        simp [Picker.target?, hnil]
      have haccept : (s.drawn size).picker.accept (s.drawn size).view.selected = _ :=
        Picker.accept_of_none h.opened htarget
      refine ⟨_, run_single (handle_enter hkey), ?_⟩
      rw [haccept]
      exact ⟨rfl, rfl, rfl⟩
    · exact ⟨_, run_single (handle_cancel hkey), rfl, rfl, rfl⟩

theorem inStep_opening {config : Config} (h : (Picker.start config).picker = some p)
    (query : Option Text) : InStep p (opening p query) := by
  have hfresh := Picker.fresh_of_start h
  cases query with
  | none => exact inStep_of hfresh.state rfl hfresh.sameList (onRow_zero _)
  | some filter =>
    have hlist := Picker.sameList_call hfresh.sameList (.setFilter filter)
    have hopen := (Picker.call_state p (.setFilter filter)).mpr ⟨hfresh.state, id⟩
    exact inStep_of hopen rfl hlist (onRow_zero _)

end

/-- Whatever the inputs, a session that waits for the next one has its view and its picker in step
and is ready for it; and a session that has ended has closed its picker. -/
theorem inStep_of_run {config : Config} {p : Picker} (h : (Picker.start config).picker = some p)
    (query : Option Text) (size : Size) (inputs : List Input) :
    (∀ s, (opening p query).run size inputs = .running s → InStep p s ∧ Ready size s) ∧
      ∀ r, (opening p query).run size inputs = .closed r → r.picker.state = .closed := by
  constructor
  · intro s hs
    have hstep := inStep_run (inStep_opening h query) hs
    exact ⟨hstep, ready_of_inStep hstep size⟩
  · intro r hr
    exact closed_of_run hr

/-- After a move up from the first of two rows, and a character that leaves one of them, the first
row is highlighted again, and Enter asks for its directory. -/
theorem inStep_of_run_to_narrowed :
    let config : Config := {
      store := some ⟨.ok ['/', 'w'], fun _ => .ok [], fun _ => .ok ()⟩
      choices := ⟨[['/', 'a'], ['/', 'b']], [], []⟩
      home := ⟨none⟩ }
    ∃ p, (Picker.start config).picker = some p ∧
      ∃ s, (opening p none).run ⟨80, 24⟩ [.press ⟨.up, {}⟩, .press ⟨.char 'b', {}⟩] = .running s ∧
        s.view = ⟨['b'], 0⟩ ∧
        ∃ r, s.run ⟨80, 24⟩ [.press ⟨.enter, {}⟩] = .closed r ∧ r.asked = some ['/', 'b'] := by
  intro config
  refine ⟨_, rfl, _, rfl, rfl, ?_⟩
  obtain ⟨hrunning, -⟩ := inStep_of_run (show (Picker.start config).picker = some _ from rfl) none
    ⟨80, 24⟩ [.press ⟨.up, {}⟩, .press ⟨.char 'b', {}⟩]
  obtain ⟨-, hready⟩ := hrunning _ rfl
  obtain ⟨e, r, he, hr, hasked⟩ := hready.enter (by decide +kernel) ⟨.enter, {}⟩ rfl
  obtain rfl : e = ⟨['/', 'b'], .pinned⟩ := Option.some.inj (he.symm.trans (by decide +kernel))
  exact ⟨r, hr, hasked⟩

end Session

end DirPicker
