import DirPicker.Program
import DirPicker.Proofs.SessionRun

/-!
# Selecting in a session and selecting at once

A user who types, moves the highlight and presses Enter gets what a caller gets who gives the last
text and the number of the last highlighted row. The main statement says so of the picker and of the
program:

    run_enter : (opening p query).run size (inputs ++ [.press enter]) =
      .closed ((p.setFilter s.view.query).accept s.view.selected)

Here `s` is the session that waits for Enter. What was typed before leaves no trace, because the
picker of a session in step is the first picker with the text in force as its filter
(`picker_of_inStep`).
-/

namespace DirPicker

/-- Inputs among which no key accepts and none gives up. -/
def Browses (inputs : List Input) : Prop :=
  ∀ key, .press key ∈ inputs → key.code ≠ .enter ∧ ¬ key.IsCancel

/-- The same ending for the user and for the caller: all but the log. -/
def Ending.Agrees (a b : Ending) : Prop := { a with log := [] } = { b with log := [] }

namespace Session

/-! ### The picker of a session -/

section

variable {p : Picker} {s s' : Session} {size : Size} {inputs : List Input}

/-- A session in step has the picker that the text typed gives at once. -/
theorem picker_of_inStep (h : InStep p s) (hp : p.state = .opened) :
    s.picker = p.setFilter s.view.query := by
  obtain ⟨hopened, hquery, ⟨hstore, hhome, hworkspace, hall, -⟩, hshown, -⟩ := h
  rw [Picker.setFilter, hp, hquery]
  rw [hquery] at hshown
  cases hs : s.picker
  simp_all

/-! ### Runs that go on -/

theorem handle_running (s : Session) {input : Input}
    (h : ∀ key, input = .press key → key.code ≠ .enter ∧ ¬ key.IsCancel) :
    ∃ s', s.handle input = .running s' := by
  cases input with
  | other => exact ⟨s, rfl⟩
  | press key =>
    obtain ⟨henter, hcancel⟩ := h key rfl
    simp only [handle]
    -- Of the four answers to a key, two end the session.
    have hpress := View.presses_press s.view key s.picker.size
    generalize s.view.press key s.picker.size = pressed at hpress
    cases hpress with
    | moved => exact ⟨_, rfl⟩
    | edited => exact ⟨_, rfl⟩
    | accepted h => exact absurd h henter
    | cancelled h => exact absurd h hcancel

/-- As long as the user browses, the session goes on. -/
theorem run_browsing (size : Size) (s : Session) (h : Browses inputs) :
    ∃ s', s.run size inputs = .running s' := by
  induction inputs generalizing s with
  | nil => exact ⟨s, rfl⟩
  | cons input rest ih =>
    have hinput : ∀ key, input = .press key → key.code ≠ .enter ∧ ¬ key.IsCancel :=
      fun key hkey => h key (by simp [hkey])
    obtain ⟨next, hnext⟩ := (s.drawn size).handle_running hinput
    rw [run, hnext]
    exact ih next fun key hkey => h key (by simp [hkey])

/-- A session that goes on can be cut at any input. -/
theorem run_append (h : s.run size inputs = .running s') (more : List Input) :
    s.run size (inputs ++ more) = s'.run size more := by
  induction inputs generalizing s with
  | nil =>
    obtain rfl := Next.running.inj h
    rfl
  | cons input rest ih =>
    rw [List.cons_append]
    simp only [run] at h ⊢
    cases hnext : (s.drawn size).handle input with
    | running next =>
      simp only [hnext] at h ⊢
      exact ih h
    | closed result => simp [hnext] at h

/-- Enter behind inputs that browse accepts what the first picker shows for the text typed. -/
theorem run_enter_of_running {config : Config} (hp : (Picker.start config).picker = some p)
    {query : Option Text} (h : (opening p query).run size inputs = .running s) {enter : Key}
    (henter : enter.code = .enter) :
    (opening p query).run size (inputs ++ [.press enter]) =
      .closed ((p.setFilter s.view.query).accept s.view.selected) := by
  have hstep := inStep_run (inStep_opening hp query) h
  rw [run_append h, run_single (handle_enter henter),
    ← picker_of_inStep hstep (Picker.fresh_of_start hp).state]
  rfl

end

end Session

/-! ### The program -/

namespace Program

section

variable {around : Surroundings} (options : Options) {p : Picker}

theorem ofOptions_of_not_started (hp : (Picker.start (config around options)).picker = none) :
    Course.ofOptions around options =
      .ended { log := openingEvents around options
               notes := (Picker.start (config around options)).notes
               status := statusOf false } := by
  simp only [Course.ofOptions, hp]

/-- Without a row to choose, a session on the picker is opened. -/
theorem ofOptions_asking (hp : (Picker.start (config around options)).picker = some p)
    (hlist : options.list = false) (hpick : options.pick = none) :
    Course.ofOptions around options =
      .asking (openingEvents around options ++ queryEvents options)
        (Picker.start (config around options)).notes (Session.opening p options.query) := by
  have hsession : Session.start (narrowed options p) = Session.opening p options.query := by
    cases hquery : options.query <;> simp [narrowed, Session.opening, hquery]
  simp only [Course.ofOptions, hp, hlist, hpick, hsession]
  rfl

/-- With a row to choose, it is accepted in the list for the filter. -/
theorem ofOptions_picking (hp : (Picker.start (config around options)).picker = some p)
    (hlist : options.list = false) {query : Text} (hquery : options.query = some query) {row : Nat}
    (hpick : options.pick = some row) : ∃ log,
    Course.ofOptions around options =
      .ended ((chosen ((p.setFilter query).accept row)).after log
        (Picker.start (config around options)).notes) := by
  simp only [Course.ofOptions, hp, hlist, hpick, narrowed, hquery]
  exact ⟨_, rfl⟩

end

section

variable (around : Surroundings) (options : Options)

/-- The ending when the user chooses on a terminal. -/
def asked (terminal : Terminal) : Ending :=
  (Course.ofOptions around { options with list := false, pick := none }).finish (.ok terminal)

/-- The ending when a row of the list for a filter is chosen without a terminal. -/
def picked (query : Text) (row : Nat) : Ending :=
  (Course.ofOptions around
    { options with query := some query, list := false, pick := some row }).finish (.error .noDevice)

end

variable {around : Surroundings} {options : Options} {p : Picker}

/-- Without a picker there is nothing to choose from, however it is chosen. -/
theorem agrees_of_not_started (hp : (Picker.start (config around options)).picker = none)
    (terminal : Terminal) (query : Text) (row : Nat) :
    (asked around options terminal).Agrees (picked around options query row) := by
  rw [asked, picked, ofOptions_of_not_started { options with list := false, pick := none } hp,
    ofOptions_of_not_started { options with query := some query, list := false, pick := some row } hp]
  rfl

/-- A session that comes to what accepting a row comes to ends the program as the row does. -/
theorem agrees_of_run (hp : (Picker.start (config around options)).picker = some p)
    {terminal : Terminal} {query : Text} {row : Nat}
    (h : (Session.opening p options.query).run terminal.size terminal.inputs =
      .closed ((p.setFilter query).accept row)) :
    (asked around options terminal).Agrees (picked around options query row) := by
  obtain ⟨log, hpicked⟩ := ofOptions_picking
    { options with query := some query, list := false, pick := some row } hp rfl rfl rfl
  rw [asked, picked, ofOptions_asking { options with list := false, pick := none } hp rfl rfl,
    hpicked, Course.finish, Course.finish, ask, h]
  rfl

end Program

namespace Session

/-- Inputs that browse, and then Enter, come to what the last text and the last highlighted row come
to at once: for a picker, and for the program with everything else the same. -/
theorem run_enter {inputs : List Input} (hinputs : Browses inputs) {enter : Key}
    (henter : enter.code = .enter) (size : Size) :
    (∀ config p, (Picker.start config).picker = some p → ∀ query, ∃ s,
      (opening p query).run size inputs = .running s ∧
      (opening p query).run size (inputs ++ [.press enter]) =
        .closed ((p.setFilter s.view.query).accept s.view.selected)) ∧
    ∀ around options, ∃ view : View,
      (∀ p, (Picker.start (Program.config around options)).picker = some p →
        ∃ s, (opening p options.query).run size inputs = .running s ∧ s.view = view) ∧
      (Program.asked around options ⟨size, inputs ++ [.press enter]⟩).Agrees
        (Program.picked around options view.query view.selected) := by
  constructor
  · intro config p hp query
    obtain ⟨s, hs⟩ := run_browsing size (opening p query) hinputs
    exact ⟨s, hs, run_enter_of_running hp hs henter⟩
  · intro around options
    cases hp : (Picker.start (Program.config around options)).picker with
    | none =>
      refine ⟨⟨[], 0⟩, ?_, Program.agrees_of_not_started hp _ _ _⟩
      intro p h
      cases h
    | some p =>
      obtain ⟨s, hs⟩ := run_browsing size (opening p options.query) hinputs
      refine ⟨s.view, ?_, Program.agrees_of_run hp (run_enter_of_running hp hs henter)⟩
      intro q hq
      obtain rfl := Option.some.inj hq
      exact ⟨s, hs, rfl⟩

/-- A character that leaves no row, its deletion and a move down come to the second row of all. -/
theorem run_enter_behind_detour :
    let config : Config := {
      store := some ⟨.ok ['/', 'w'], fun _ => .ok [], fun _ => .ok ()⟩
      choices := ⟨[['/', 'a'], ['/', 'b']], [], []⟩
      home := ⟨none⟩ }
    let inputs : List Input := [.press ⟨.char 'x', {}⟩, .press ⟨.backspace, {}⟩, .other,
      .press ⟨.down, {}⟩]
    ∃ p, (Picker.start config).picker = some p ∧ Browses inputs ∧
      (opening p none).run ⟨80, 24⟩ (inputs ++ [.press ⟨.enter, {}⟩]) =
        .closed ((p.setFilter []).accept 1) ∧
      ((p.setFilter []).accept 1).asked = some ['/', 'b'] := by
  intro config inputs
  have hinputs : Browses inputs := by
    intro key hkey
    simp only [inputs, List.mem_cons, Input.press.injEq, List.not_mem_nil, reduceCtorEq, or_false,
      false_or] at hkey
    rcases hkey with rfl | rfl | rfl <;> simp [Key.IsCancel]
  refine ⟨_, rfl, hinputs, ?_, rfl⟩
  have hall := (run_enter hinputs (show (⟨.enter, {}⟩ : Key).code = .enter from rfl) ⟨80, 24⟩).1
  obtain ⟨s, hs, hrun⟩ := hall config _ rfl none
  obtain rfl := Next.running.inj hs
  exact hrun

end Session

end DirPicker
