import DirPicker.Program
import DirPicker.Proofs.Lifecycle

/-!
# What a run leaves to its caller

A shell goes where the program tells it on its output, so that the output has to be right on every
way out, and empty where there is nowhere to go. In each of its modes a run makes some calls on the
picker it has started (`Program.calls`), of which only the last one may close it. What a picker is
asked to enter and what it notes in such a run is what that last call leads to (`ComesTo`), and a
session comes to nothing else either, whatever keys are pressed. What is printed is said in lines,
by `Prints`. The main statement puts the modes together:

    runDespite_outcome : an ending `Reports` the notes of the start and then those of the calls,
      each printed once and in this order, and it `Lists` the rows or `Chooses` a directory

A terminal that fails leaves nothing on the output (`output_of_failure`), and there is nothing to
print when it cannot be opened or is lost while the picker is open, for then no directory is asked
for. Only to put it back comes later. Whether that fails is not decided by the arguments, the
environment, the listing or the directories, and behind a directory that has been entered it is the
one case in which the ending does not tell the caller.
-/

namespace DirPicker

namespace Picker

/-- The notes that a run of calls makes. -/
def raised (p : Picker) : List Call → List Note
  | [] => []
  | c :: calls => (p.call c).notes ++ (p.call c).picker.raised calls

/-- In the run of calls on `p`, what is asked for and what is noted is what `r` tells. -/
structure ComesTo (p : Picker) (calls : List Call) (r : Accepted) : Prop where
  asked : p.requests calls = r.asked.toList
  notes : p.raised calls = r.notes
  /-- A directory is told to be entered when it has been asked for and entered. -/
  entered : ∀ dir, r.entered = some dir ↔ r.asked = some dir ∧ p.store.enter dir = .ok ()

/-! ### Calls that do not close the picker -/

section

variable {p : Picker} {c : Call} {calls : List Call}

/-- A call that leaves the picker open has nothing to note. -/
theorem call_notes_of_not_closes (h : ¬ c.Closes) : (p.call c).notes = [] := by
  apply (lawful_call p c).quiet
  intro dir e hasked
  rw [call_asked_of_not_closes h] at hasked
  cases hasked

/-- Calls that leave a picker open neither ask for anything nor note anything. -/
theorem told_append (h : ∀ c ∈ calls, ¬ c.Closes) (more : List Call) :
    p.requests (calls ++ more) = (p.after calls).requests more ∧
      p.raised (calls ++ more) = (p.after calls).raised more := by
  induction calls generalizing p with
  | nil => exact ⟨rfl, rfl⟩
  | cons c calls ih =>
    obtain ⟨hc, hcalls⟩ := List.forall_mem_cons.mp h
    obtain ⟨hrequests, hraised⟩ := ih (p := (p.call c).picker) hcalls
    constructor
    · rw [List.cons_append, requests, call_asked_of_not_closes hc, hrequests]
      rfl
    · rw [List.cons_append, raised, call_notes_of_not_closes hc, hraised]
      rfl

theorem after_append (p : Picker) (calls more : List Call) :
    p.after (calls ++ more) = (p.after calls).after more := by
  induction calls generalizing p with
  | nil => rfl
  | cons c calls ih => exact ih _

/-! ### What a run of calls comes to -/

/-- Calls that leave the picker open come to nothing. -/
theorem comesTo_silence (h : ∀ c ∈ calls, ¬ c.Closes) (next : Picker) :
    ComesTo p calls ⟨next, none, none, []⟩ := by
  obtain ⟨hrequests, hraised⟩ := told_append (p := p) h []
  rw [List.append_nil] at hrequests hraised
  exact ⟨hrequests, hraised, fun dir => by simp⟩

/-- Behind calls that leave the picker open, the last call tells everything. -/
theorem comesTo_last (hp : SameList p p) (h : ∀ c ∈ calls, ¬ c.Closes) (c : Call) :
    ComesTo p (calls ++ [c]) ((p.after calls).call c) := by
  obtain ⟨hrequests, hraised⟩ := told_append (p := p) h [c]
  refine ⟨hrequests.trans (List.append_nil _), hraised.trans (List.append_nil _), ?_⟩
  intro dir
  rw [← (sameList_after hp calls).store]
  exact (lawful_call _ c).entered dir

end

end Picker

/-! ### Sessions -/

namespace Session

open Picker

def callsOf (s : Session) : Input → List Call
  | .other => []
  | .press key =>
    let (action, view) := s.view.press key s.picker.size
    match action with
    | .none => []
    | .filterChanged => [.setFilter view.query]
    | .accept => [.accept view.selected]
    | .cancel => [.cancel]

def calls (size : Size) (s : Session) : List Input → List Call
  | [] => []
  | input :: rest =>
    s.callsOf input ++
      match (s.drawn size).handle input with
      | .running next => calls size next rest
      | .closed _ => []

section

variable {p : Picker} {s s' : Session} {size : Size} {inputs : List Input}

/-- An input either leaves the picker open, or ends the session with what its only call leads to. -/
theorem handle_calls (s : Session) (input : Input) :
    (∃ next, s.handle input = .running next ∧ next.picker = s.picker.after (s.callsOf input) ∧
      ∀ c ∈ s.callsOf input, ¬ c.Closes) ∨
    ∃ c, s.callsOf input = [c] ∧ s.handle input = .closed (s.picker.call c) := by
  cases input with
  | other => exact .inl ⟨s, rfl, rfl, by simp [callsOf]⟩
  | press key =>
    simp only [handle, callsOf]
    generalize s.view.press key s.picker.size = pressed
    obtain ⟨action, view⟩ := pressed
    cases action with
    | none => exact .inl ⟨_, rfl, rfl, by simp⟩
    | filterChanged => exact .inl ⟨_, rfl, rfl, by simp [Call.Closes]⟩
    | accept => exact .inr ⟨.accept view.selected, rfl, rfl⟩
    | cancel => exact .inr ⟨.cancel, rfl, rfl⟩

/-- A session that goes on has not closed its picker. -/
theorem calls_of_running (h : s.run size inputs = .running s') :
    ∀ c ∈ s.calls size inputs, ¬ c.Closes := by
  induction inputs generalizing s with
  | nil => simp [calls]
  | cons input rest ih =>
    obtain ⟨next, hnext, -, hopen⟩ | ⟨c, -, hclosed⟩ := handle_calls (s.drawn size) input
    · rw [run, hnext] at h
      rw [calls, hnext]
      exact List.forall_mem_append.mpr ⟨hopen, ih h⟩
    · rw [run, hclosed] at h
      cases h

/-- An ended session tells what its last call led to; the others have left the picker open. -/
theorem calls_of_closed {r : Accepted} (h : s.run size inputs = .closed r) :
    ∃ before c, s.calls size inputs = before ++ [c] ∧ (∀ c ∈ before, ¬ c.Closes) ∧
      r = (s.picker.after before).call c := by
  -- The induction is on the inputs; those that go on add to the calls in front of the last one.
  induction inputs generalizing s with
  | nil => cases h
  | cons input rest ih =>
    obtain ⟨next, hnext, hpicker, hopen⟩ | ⟨c, hc, hclosed⟩ := handle_calls (s.drawn size) input
    · rw [run, hnext] at h
      obtain ⟨before, c, hcalls, hbefore, hr⟩ := ih h
      refine ⟨s.callsOf input ++ before, c, ?_, List.forall_mem_append.mpr ⟨hopen, hbefore⟩, ?_⟩
      · rw [calls, hnext, List.append_assoc, ← hcalls]
      · rw [hr, hpicker, after_append]
        rfl
    · rw [run, hclosed] at h
      obtain rfl := Next.closed.inj h
      refine ⟨[], c, ?_, by simp, rfl⟩
      rw [calls, hclosed]
      exact (List.append_nil _).trans hc

/-- Whatever is typed, the user is told what the calls of the session come to. -/
theorem ask_comesTo (hp : SameList p p) {before : List Call} (hbefore : ∀ c ∈ before, ¬ c.Closes)
    (hs : s.picker = p.after before) (terminal : Terminal) :
    ∃ r log, Program.ask (.ok terminal) s = { Program.chosen r with log } ∧
      ComesTo p (before ++ s.calls terminal.size terminal.inputs) r := by
  rw [Program.ask]
  cases hrun : s.run terminal.size terminal.inputs with
  | running last =>
    -- The inputs have ended before the session: nothing has been asked for or noted.
    have hopen := List.forall_mem_append.mpr ⟨hbefore, calls_of_running hrun⟩
    exact ⟨_, _, rfl, comesTo_silence hopen s.picker⟩
  | closed r =>
    obtain ⟨more, c, hcalls, hmore, rfl⟩ := calls_of_closed hrun
    refine ⟨_, _, rfl, ?_⟩
    rw [hcalls, ← List.append_assoc, hs, ← after_append]
    exact comesTo_last hp (List.forall_mem_append.mpr ⟨hbefore, hmore⟩) c

end

end Session

/-! ### The program -/

namespace Program

open Picker

def queryCalls (options : Options) : List Call := options.query.toList.map .setFilter

/-- The calls that a run makes on the picker `p` it has started, but for those that only read. -/
def calls (options : Options) (terminal : Except SystemError Terminal) (p : Picker) : List Call :=
  queryCalls options ++
    if options.list then [.cancel]
    else match options.pick, terminal with
      | some index, _ => [.accept index]
      | none, .ok opened =>
        (Session.start (narrowed options p)).calls opened.size opened.inputs
      | none, .error _ => []

/-- The text is these lines, one after another, with a line feed behind each. -/
inductive Prints : List Text → Text → Prop
  | nil : Prints [] []
  | cons (line : Text) {lines : List Text} {text : Text} (h : Prints lines text) :
    Prints (line :: lines) (line ++ '\n' :: text)

/-- The terminal fails in the session, and why: it cannot be opened, it is lost while the picker is
open, or it cannot be put back when the session is over. -/
inductive TerminalFails (faults : Faults) (session : Session) :
    Except SystemError Terminal → SystemError → Prop
  | unopened (cause : SystemError) : TerminalFails faults session (.error cause) cause
  | lost {opened : Terminal} {last : Session} {cause : SystemError}
      (hrun : session.run opened.size opened.inputs = .running last)
      (hcause : faults.lost = some cause) (hrestored : faults.unrestored = none) :
      TerminalFails faults session (.ok opened) cause
  | unrestored {opened : Terminal} {cause : SystemError}
      (hover : ∀ last, session.run opened.size opened.inputs = .running last → faults.lost ≠ none)
      (hcause : faults.unrestored = some cause) : TerminalFails faults session (.ok opened) cause

/-- The ending `e` tells of the notes `raised` and the requests made in a run, and of why its
terminal has failed. -/
structure Reports (raised : List Note) (requests : List Text) (failure : Option SystemError)
    (e : Ending) : Prop where
  notes : e.notes = raised
  /-- Behind the log, each note is printed for the user once. -/
  errors : ∀ (rules : Log.Rules) time, Prints
    ((e.log.filter rules.allow).map (fun event => time ++ ' ' :: event.line) ++
      raised.map ("hcd: ".toList ++ ·) ++
      failure.toList.map fun cause => "Error: terminal: ".toList ++ cause.message)
    (e.errors rules time)
  asked : e.asked.toList = requests

/-- The ending of a run that lists the rows of `q`. -/
structure Lists (q : Picker) (e : Ending) : Prop where
  /-- Each row is printed, in the order of the rows. -/
  output : ∃ rows : List Text, rows.length = q.size ∧ (∀ i, rows[i]? = q.row? i) ∧
    Prints rows e.output
  asked : e.asked = none
  status : e.status = if 0 < q.size then 0 else 1

/-- A directory has been asked for and entered. -/
def Enters (store : Store) (e : Ending) : Prop :=
  ∃ dir, e.asked = some dir ∧ store.enter dir = .ok ()

/-- The ending of a run that chooses a directory of the store. -/
inductive Chooses (store : Store) (e : Ending) : Prop
  | entered {dir : Text} (hasked : e.asked = some dir) (hentered : store.enter dir = .ok ())
      (houtput : e.output = dir ++ ['\n']) (hstatus : e.status = 0)
  | nothing (hnothing : ¬ Enters store e) (houtput : e.output = []) (hstatus : e.status = 1)

section

variable {options : Options} {p : Picker} {calls : List Call} {r : Accepted} {e : Ending}
  {failure : Option SystemError}

theorem not_closes_of_query (options : Options) : ∀ c ∈ queryCalls options, ¬ c.Closes :=
  not_closes_of_filters _

theorem narrowed_eq_after (options : Options) (p : Picker) :
    narrowed options p = p.after (queryCalls options) := by
  unfold narrowed queryCalls
  cases options.query <;> rfl

/-! ### What is printed -/

theorem Prints.append {lines more : List Text} {text rest : Text} (h : Prints lines text)
    (hmore : Prints more rest) : Prints (lines ++ more) (text ++ rest) := by
  induction h with
  | nil => exact hmore
  | cons line _ ih =>
    rw [List.cons_append, List.append_assoc, List.cons_append]
    exact .cons line ih

/-- `printed` puts a line feed behind each line. -/
theorem prints_printed (lines : List Text) : Prints lines (printed lines) := by
  induction lines with
  | nil => exact .nil
  | cons line lines ih =>
    have hprinted : printed (line :: lines) = line ++ '\n' :: printed lines := by
      simp [printed]
    rw [hprinted]
    exact .cons line ih

/-- The lines determine what is printed. -/
theorem Prints.eq_printed {lines : List Text} {text : Text} (h : Prints lines text) :
    text = printed lines := by
  induction h with
  | nil => rfl
  | cons line _ ih =>
    rw [ih]
    simp [printed]

/-! ### Endings -/

theorem lists_listed (q : Picker) (log : List Log.Event) (before : List Note) :
    Lists q ((listed q).after log before) where
  output := by
    refine ⟨q.rows, List.length_map _, ?_, prints_printed _⟩
    intro i
    exact List.getElem?_map
  asked := rfl
  status := by
    simp only [Ending.after, listed, statusOf, Picker.isEmpty, Picker.size]
    by_cases h : q.shown = [] <;> simp [h, List.length_pos_iff]

/-- What is printed by a run that lists is all rows of the picker. -/
theorem Lists.output_eq {q : Picker} (h : Lists q e) : e.output = printed q.rows := by
  obtain ⟨rows, -, hrows, hprints⟩ := h.output
  have hall : rows = q.rows := by
    apply List.ext_getElem?
    intro i
    exact (hrows i).trans List.getElem?_map.symm
  rw [hprints.eq_printed, hall]

/-- An ending reports its own notes, if it complains of the failure and of nothing else. -/
theorem reports_self (hcomplaint : e.complaint = (failure.map noTerminal).bind (·.complaint)) :
    Reports e.notes e.asked.toList failure e where
  notes := rfl
  errors rules time := by
    -- The log, the notes and the complaint are printed one behind another.
    refine ((prints_printed _).append (prints_printed _)).append ?_
    rw [hcomplaint]
    cases failure with
    | none => exact .nil
    | some cause => exact .cons _ .nil
  asked := rfl

/-- An ending that tells what the calls come to reports them behind the notes made before. -/
theorem reports_of_comesTo (h : ComesTo p calls r) (hnotes : e.notes = r.notes)
    (hasked : e.asked = r.asked)
    (hcomplaint : e.complaint = (failure.map noTerminal).bind (·.complaint))
    (log : List Log.Event) (before : List Note) :
    Reports (before ++ p.raised calls) (p.requests calls) failure (e.after log before) := by
  rw [h.notes, h.asked, ← hnotes, ← hasked]
  exact reports_self (e := e.after log before) hcomplaint

/-- A directory that has been entered is printed. -/
theorem chooses_of_comesTo (h : ComesTo p calls r) (hasked : e.asked = r.asked)
    (houtput : e.output = (chosen r).output) (hstatus : e.status = (chosen r).status) :
    Chooses p.store e := by
  -- What the calls come to is entered exactly if it is asked for and the store enters it.
  cases hr : r.entered with
  | none =>
    refine .nothing ?_ (by simp [houtput, chosen, hr, printed])
      (by simp [hstatus, chosen, hr, statusOf])
    rintro ⟨dir, hdir, hok⟩
    have hentered := (h.entered dir).mpr ⟨hasked.symm.trans hdir, hok⟩
    rw [hr] at hentered
    cases hentered
  | some dir =>
    obtain ⟨hdir, hok⟩ := (h.entered dir).mp hr
    exact .entered (hasked.trans hdir) hok (by simp [houtput, chosen, hr, printed])
      (by simp [hstatus, chosen, hr, statusOf])

/-! ### Terminals that fail -/

section

variable {faults : Faults} {session : Session} {opened : Terminal}

/-- `failure?` finds why an opened terminal fails, if it does. -/
theorem terminalFails_iff {cause : SystemError} :
    TerminalFails faults session (.ok opened) cause ↔
      failure? faults opened session = some cause := by
  rw [failure?]
  -- While the session goes on, it is the loss that ends it; but a failure to put back comes last.
  constructor
  · intro h
    cases h with
    | lost hrun hcause hrestored =>
      rw [hrun, hcause, hrestored]
      rfl
    | unrestored hover hcause =>
      cases hrun : session.run opened.size opened.inputs with
      | running last =>
        obtain ⟨lost, hlost⟩ := Option.ne_none_iff_exists'.mp (hover last hrun)
        rw [hlost, hcause]
        rfl
      | closed r => exact hcause
  · intro h
    cases hrun : session.run opened.size opened.inputs with
    | running last =>
      rw [hrun] at h
      obtain ⟨lost, hlost, hcause⟩ := Option.map_eq_some_iff.mp h
      cases hunrestored : faults.unrestored with
      | none =>
        rw [hunrestored] at hcause
        exact .lost hrun (hlost.trans (congrArg some hcause)) hunrestored
      | some unrestored =>
        rw [hunrestored] at hcause
        refine .unrestored ?_ (hunrestored.trans (congrArg some hcause))
        intro _ _ hnone
        cases hnone.symm.trans hlost
    | closed r =>
      rw [hrun] at h
      refine .unrestored ?_ h
      intro last hlast
      cases hrun.symm.trans hlast

/-- A terminal that can be put back fails while the picker is open, if it does. -/
theorem running_of_failure (hrestored : faults.unrestored = none) {cause : SystemError}
    (h : failure? faults opened session = some cause) :
    ∃ last, session.run opened.size opened.inputs = .running last := by
  rw [failure?] at h
  cases hrun : session.run opened.size opened.inputs with
  | running last => exact ⟨last, rfl⟩
  | closed r =>
    rw [hrun, hrestored] at h
    cases h

/-- A terminal that fails leaves nothing on the output. When it cannot be put back, this is so even
behind a directory that has been entered. -/
theorem output_of_failure {terminal : Except SystemError Terminal} {cause : SystemError}
    (h : TerminalFails faults session terminal cause) :
    let e := askDespite faults terminal session
    e.output = [] ∧ e.status = 1 ∧ e.complaint = (noTerminal cause).complaint := by
  cases terminal with
  | error =>
    cases h
    exact ⟨rfl, rfl, rfl⟩
  | ok opened =>
    rw [askDespite, terminalFails_iff.mp h]
    exact ⟨rfl, rfl, rfl⟩

/-- A run that lists or chooses a row by its number does without a terminal. -/
theorem failure_eq_none {terminal : Except SystemError Terminal}
    (h : ∀ cause, failure = some cause ↔ options.list = false ∧ options.pick = none ∧
      TerminalFails faults session terminal cause)
    (hsettled : options.list = true ∨ options.pick ≠ none) : failure = none := by
  refine Option.eq_none_iff_forall_ne_some.mpr fun cause hcause => ?_
  obtain ⟨hlist, hpick, -⟩ := (h cause).mp hcause
  rcases hsettled with hsettled | hsettled
  · cases hlist.symm.trans hsettled
  · exact hsettled hpick

end

/-! ### The modes -/

/-- The user chooses: what is asked for and noted is what the calls of the session come to. Only a
terminal that cannot be put back can fail behind a directory that has been entered. -/
theorem asking_outcome (hp : SameList p p) (hlist : options.list = false)
    (hpick : options.pick = none) (faults : Faults) (terminal : Except SystemError Terminal)
    (log : List Log.Event) (before : List Note) :
    let session := Session.start (narrowed options p)
    let calls := Program.calls options terminal p
    let e := (askDespite faults terminal session).after log before
    ∃ failure, (∀ cause, failure = some cause ↔ TerminalFails faults session terminal cause) ∧
      Reports (before ++ p.raised calls) (p.requests calls) failure e ∧
      (failure ≠ none → faults.unrestored = none → e.asked = none) ∧
      ((Enters p.store e → failure = none) → Chooses p.store e) := by
  intro session calls e
  have hquery := not_closes_of_query options
  cases terminal with
  | error cause =>
    have hcalls : calls = queryCalls options := by simp [calls, Program.calls, hlist, hpick]
    rw [hcalls]
    refine ⟨some cause, ?_, reports_of_comesTo (comesTo_silence hquery p) rfl rfl rfl _ _,
      fun _ _ => rfl, fun _ => .nothing nofun rfl rfl⟩
    intro other
    constructor
    · rintro ⟨⟩
      exact .unopened cause
    · rintro ⟨⟩
      rfl
  | ok opened =>
    obtain ⟨r, sessionLog, hask, hcomes⟩ := Session.ask_comesTo hp hquery
      (show session.picker = _ from narrowed_eq_after options p) opened
    have hcalls : calls = queryCalls options ++ session.calls opened.size opened.inputs := by
      simp [calls, Program.calls, hlist, hpick, session]
    rw [hcalls]
    refine ⟨failure? faults opened session, fun cause => terminalFails_iff.symm, ?_⟩
    cases hfailure : failure? faults opened session with
    | none =>
      have he : e = ({ chosen r with log := sessionLog }).after log before := by
        simp only [e, askDespite, hfailure, hask]
      rw [he]
      exact ⟨reports_of_comesTo hcomes rfl rfl rfl _ _, fun h => absurd rfl h,
        fun _ => chooses_of_comesTo hcomes rfl rfl rfl⟩
    | some cause =>
      -- What was asked for and noted stays, but nothing is printed any more.
      have he : e = (spoiled cause { chosen r with log := sessionLog }).after log before := by
        simp only [e, askDespite, hfailure, hask]
      rw [he]
      refine ⟨reports_of_comesTo hcomes rfl rfl rfl _ _, fun _ hrestored => ?_, fun hsound => ?_⟩
      · obtain ⟨last, hrun⟩ := running_of_failure hrestored hfailure
        have hopen := List.forall_mem_append.mpr ⟨hquery, Session.calls_of_running hrun⟩
        exact Option.toList_eq_nil_iff.mp
          (hcomes.asked.symm.trans (comesTo_silence hopen p).asked)
      · refine .nothing (fun hentered => ?_) rfl rfl
        cases hsound hentered

/-- What a run on an opened picker comes to. -/
theorem ofOptions_outcome {around : Surroundings}
    (hp : (Picker.start (config around options)).picker = some p) (faults : Faults)
    (terminal : Except SystemError Terminal) :
    let session := Session.start (narrowed options p)
    let calls := Program.calls options terminal p
    let e := (Course.ofOptions around options).finishDespite faults terminal
    ∃ failure, (∀ cause, failure = some cause ↔
        options.list = false ∧ options.pick = none ∧ TerminalFails faults session terminal cause) ∧
      Reports ((Picker.start (config around options)).notes ++ p.raised calls) (p.requests calls)
        failure e ∧
      (options.list = true → Lists (narrowed options p) e) ∧
      (failure ≠ none → faults.unrestored = none → e.asked = none) ∧
      (options.list = false → (Enters p.store e → failure = none) → Chooses p.store e) := by
  intro session calls e
  have hsame := (fresh_of_start hp).sameList
  have hlast := comesTo_last hsame (not_closes_of_query options)
  rw [← narrowed_eq_after] at hlast
  cases hlist : options.list with
  | true =>
    have hcalls : calls = queryCalls options ++ [.cancel] := by simp [calls, Program.calls, hlist]
    simp only [e, Course.ofOptions, hp, hlist, hcalls]
    exact ⟨none, by simp, reports_of_comesTo (hlast .cancel) rfl rfl rfl _ _,
      fun _ => lists_listed _ _ _, fun h => absurd rfl h, nofun⟩
  | false =>
    cases hpick : options.pick with
    | some index =>
      have hcalls : calls = queryCalls options ++ [.accept index] := by
        simp [calls, Program.calls, hlist, hpick]
      simp only [e, Course.ofOptions, hp, hlist, hpick, hcalls]
      exact ⟨none, by simp, reports_of_comesTo (hlast (.accept index)) rfl rfl rfl _ _, nofun,
        fun h => absurd rfl h, fun _ _ => chooses_of_comesTo (hlast (.accept index)) rfl rfl rfl⟩
    | none =>
      simp only [e, Course.ofOptions, hp, hlist, hpick, true_and]
      obtain ⟨failure, hfailure, hreports, hunasked, hchooses⟩ := asking_outcome hsame hlist hpick faults
        terminal (openingEvents around options ++ queryEvents options)
        (Picker.start (config around options)).notes
      exact ⟨failure, hfailure, hreports, nofun, hunasked, fun _ => hchooses⟩

end

end Program

end DirPicker
