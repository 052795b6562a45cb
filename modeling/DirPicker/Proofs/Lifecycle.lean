import DirPicker.Picker

/-!
# The life of a picker

A host may call a picker in any order and as often as it likes. A `Call` is one such request, and
`p.after calls` is the picker behind a run of them. The main statement, `lifecycle`, says of every
run on a picker that has been started, and of every call behind it:

* the candidates are those of the start, and the rows shown are those that the filter in force
  passes, whatever filters have been there before (`SameList`);
* the picker is open as long as no call has closed it;
* a call reaches the outside only as `Lawful` tells, and the store is asked to enter a directory at
  most once in the run.

Each part is shown for one call first, and then for runs by induction on the calls.
-/

namespace DirPicker.Picker

/-- What a host may ask of a picker. -/
inductive Call
  | setFilter (filter : Text)
  | row (index : Nat)
  | size
  | accept (index : Nat)
  | cancel
deriving DecidableEq, Repr

/-- Whether a call ends the picker. -/
def Call.Closes : Call → Prop
  | .accept _ | .cancel => True
  | .setFilter _ | .row _ | .size => False

def call (p : Picker) : Call → Accepted
  | .setFilter filter => ⟨p.setFilter filter, none, none, []⟩
  | .row _ | .size => ⟨p, none, none, []⟩
  | .accept index => p.accept index
  | .cancel => ⟨p.cancel, none, none, []⟩

def after (p : Picker) : List Call → Picker
  | [] => p
  | c :: calls => (p.call c).picker.after calls

/-- The directories that the store is asked to enter in a run of calls. -/
def requests (p : Picker) : List Call → List Text
  | [] => []
  | c :: calls => (p.call c).asked.toList ++ (p.call c).picker.requests calls

/-- The picker `q` shows what its filter passes of the candidates of `p`, in the same place. -/
structure SameList (p q : Picker) : Prop where
  store : q.store = p.store
  home : q.home = p.home
  workspace : q.workspace = p.workspace
  all : q.all = p.all
  shown : q.shown = CandidateList.narrow p.all p.home q.filter

/-- What the call `c` on the picker `q` may lead to. -/
structure Lawful (q : Picker) (c : Call) (r : Accepted) : Prop where
  /-- Only accepting a row of an open picker asks for a directory: the one the row stands for. -/
  asked : ∀ d, r.asked = some d ↔ q.state = .opened ∧
    ∃ i e, c = .accept i ∧ q.shown[i]? = some e ∧ d = q.workspace.expand e.path
  /-- A directory is returned when it has been asked for and entered. -/
  entered : ∀ d, r.entered = some d ↔ r.asked = some d ∧ q.store.enter d = .ok ()
  /-- A directory that could not be entered makes one note, the message of the failure. -/
  failure : ∀ d e, r.asked = some d → q.store.enter d = .error e → r.notes = [e.message]
  /-- Nothing else makes a note. -/
  quiet : (∀ d e, r.asked = some d → q.store.enter d ≠ .error e) → r.notes = []
  closes : c.Closes → r.picker.state = .closed
  /-- A closed picker ignores the call. -/
  ignored : q.state = .closed → r = ⟨q, none, none, []⟩

/-- The picker `p` is the one that `config` starts. -/
structure Fresh (config : Config) (p : Picker) : Prop where
  store : config.store = some p.store
  home : p.home = config.home
  built : ∃ warning, Candidates.build p.store config.choices = .ok ⟨p.all, p.workspace, warning⟩
  shown : p.shown = p.all
  filter : p.filter = []
  state : p.state = .opened

/-! ### The start -/

theorem fresh_of_start {config : Config} {p : Picker} (h : (start config).picker = some p) :
    Fresh config p := by
  unfold start at h
  split at h
  · simp at h
  · next store hstore =>
    split at h
    · simp at h
    · next candidates hbuild =>
      obtain rfl := Option.some.inj h
      exact ⟨hstore, rfl, ⟨candidates.warning, hbuild⟩, rfl, rfl, rfl⟩

theorem narrow_nil (candidates : CandidateList) (home : Home) :
    CandidateList.narrow candidates home [] = candidates := rfl

theorem Fresh.sameList {config : Config} {p : Picker} (h : Fresh config p) : SameList p p :=
  ⟨rfl, rfl, rfl, rfl, by rw [h.filter, narrow_nil, h.shown]⟩

/-! ### One call -/

section

variable {p q : Picker} {c : Call}

/-- A closed picker does nothing and says nothing. -/
theorem call_of_closed (h : q.state = .closed) (c : Call) : q.call c = ⟨q, none, none, []⟩ := by
  cases c with
  | setFilter filter => simp [call, setFilter, h]
  | row index => rfl
  | size => rfl
  | accept index => simp [call, accept, h]
  | cancel => simp [call, cancel, ← h]

theorem accept_of_none {i : Nat} (h : q.state = .opened) (ht : q.target? i = none) :
    q.accept i = ⟨{ q with state := .closed }, none, none, []⟩ := by
  simp [accept, h, ht]

theorem accept_of_ok {i : Nat} {d : Text} (h : q.state = .opened) (ht : q.target? i = some d)
    (he : q.store.enter d = .ok ()) :
    q.accept i = ⟨{ q with state := .closed }, some d, some d, []⟩ := by
  simp [accept, h, ht, he]

theorem accept_of_error {i : Nat} {d : Text} {e : StoreError} (h : q.state = .opened)
    (ht : q.target? i = some d) (he : q.store.enter d = .error e) :
    q.accept i = ⟨{ q with state := .closed }, some d, none, [e.message]⟩ := by
  simp [accept, h, ht, he]

/-- Accepting closes the picker, whatever becomes of the row. -/
theorem accept_picker (q : Picker) (i : Nat) :
    (q.accept i).picker = { q with state := .closed } := by
  unfold accept
  split
  · next h => simp [← h]
  · split
    · rfl
    · split <;> rfl

/-- No call changes what there is to choose from. -/
theorem sameList_call (h : SameList p q) (c : Call) : SameList p (q.call c).picker := by
  obtain ⟨hstore, hhome, hworkspace, hall, hshown⟩ := h
  cases c with
  | setFilter filter =>
    simp only [call, setFilter]
    split
    · exact ⟨hstore, hhome, hworkspace, hall, hshown⟩
    · exact ⟨hstore, hhome, hworkspace, hall, by rw [hall, hhome]⟩
  | row index => exact ⟨hstore, hhome, hworkspace, hall, hshown⟩
  | size => exact ⟨hstore, hhome, hworkspace, hall, hshown⟩
  | accept index =>
    rw [call, accept_picker]
    exact ⟨hstore, hhome, hworkspace, hall, hshown⟩
  | cancel => exact ⟨hstore, hhome, hworkspace, hall, hshown⟩

/-- A call leaves a picker open exactly when it was open and the call does not close it. -/
theorem call_state (q : Picker) (c : Call) :
    (q.call c).picker.state = .opened ↔ q.state = .opened ∧ ¬ c.Closes := by
  cases c with
  | setFilter filter =>
    simp only [call, setFilter]
    split <;> simp_all [Call.Closes]
  | row index => simp [call, Call.Closes]
  | size => simp [call, Call.Closes]
  | accept index => simp [call, accept_picker, Call.Closes]
  | cancel => simp [call, cancel, Call.Closes]

/-- Calls that do not close the picker ask for nothing. -/
theorem call_asked_of_not_closes (h : ¬ c.Closes) : (q.call c).asked = none := by
  cases c with
  | accept index => exact absurd trivial h
  | cancel => exact absurd trivial h
  | _ => rfl

theorem target?_eq_some_iff {i : Nat} {d : Text} :
    q.target? i = some d ↔ ∃ e, q.shown[i]? = some e ∧ d = q.workspace.expand e.path := by
  unfold target?
  rw [Option.map_eq_some_iff]
  constructor
  · rintro ⟨e, he, rfl⟩
    exact ⟨e, he, rfl⟩
  · rintro ⟨e, he, rfl⟩
    exact ⟨e, he, rfl⟩

/-- A call that asks for nothing is lawful if nothing was there to ask for. -/
theorem lawful_of_silent {next : Picker}
    (hnone : q.state = .opened → ∀ i, c = .accept i → q.target? i = none)
    (hcloses : c.Closes → next.state = .closed) (hignored : q.state = .closed → next = q) :
    Lawful q c ⟨next, none, none, []⟩ where
  asked d := by
    constructor
    · intro h
      simp at h
    · rintro ⟨ho, i, e, hc, he⟩
      have ht := target?_eq_some_iff.mpr ⟨e, he⟩
      rw [hnone ho i hc] at ht
      simp at ht
  entered d := by simp
  failure d e h := by simp at h
  quiet _ := rfl
  closes := hcloses
  ignored h := by rw [hignored h]

theorem lawful_accept (ho : q.state = .opened) (i : Nat) :
    Lawful q (.accept i) (q.accept i) := by
  have hpicker := accept_picker q i
  cases ht : q.target? i with
  | none =>
    rw [accept_of_none ho ht]
    refine lawful_of_silent ?_ (fun _ => rfl) (fun h => by simp [ho] at h)
    rintro - j hj
    obtain rfl := Call.accept.inj hj
    exact ht
  | some d =>
    -- What is asked for does not depend on the answer of the store.
    have hasked : ∀ d', some d = some d' ↔ q.state = .opened ∧
        ∃ j e, Call.accept i = .accept j ∧ q.shown[j]? = some e ∧
          d' = q.workspace.expand e.path := by
      intro d'
      rw [← ht, target?_eq_some_iff]
      constructor
      · rintro ⟨e, he⟩
        exact ⟨ho, i, e, rfl, he⟩
      · rintro ⟨-, j, e, hj, he⟩
        obtain rfl := Call.accept.inj hj
        exact ⟨e, he⟩
    cases he : q.store.enter d with
    | ok u =>
      rw [accept_of_ok ho ht he]
      refine ⟨hasked, ?_, ?_, fun _ => rfl, fun _ => rfl, fun h => by simp [ho] at h⟩
      · intro d'
        constructor
        · intro h
          obtain rfl := Option.some.inj h
          exact ⟨rfl, he⟩
        · exact fun h => h.1
      · intro d' e h hfail
        obtain rfl := Option.some.inj h
        simp [he] at hfail
    | error e =>
      rw [accept_of_error ho ht he]
      refine ⟨hasked, ?_, ?_, ?_, fun _ => rfl, fun h => by simp [ho] at h⟩
      · intro d'
        constructor
        · intro h
          simp at h
        · rintro ⟨h, hok⟩
          obtain rfl := Option.some.inj h
          simp [he] at hok
      · intro d' e' h hfail
        obtain rfl := Option.some.inj h
        rw [he] at hfail
        obtain rfl := Except.error.inj hfail
        rfl
      · exact fun h => absurd he (h d e rfl)

/-- The law holds of each call on each picker. -/
theorem lawful_call (q : Picker) (c : Call) : Lawful q c (q.call c) := by
  cases hq : q.state with
  | closed =>
    rw [call_of_closed hq]
    exact lawful_of_silent (fun h => by simp [hq] at h) (fun _ => hq) (fun _ => rfl)
  | opened =>
    have hclosed : q.state ≠ .closed := by simp [hq]
    -- Of the calls on an open picker only accepting can ask for anything.
    cases c with
    | setFilter filter =>
      exact lawful_of_silent (fun _ _ h => Call.noConfusion h) False.elim (absurd · hclosed)
    | row index =>
      exact lawful_of_silent (fun _ _ h => Call.noConfusion h) False.elim (absurd · hclosed)
    | size =>
      exact lawful_of_silent (fun _ _ h => Call.noConfusion h) False.elim (absurd · hclosed)
    | accept index => exact lawful_accept hq index
    | cancel =>
      exact lawful_of_silent (fun _ _ h => Call.noConfusion h) (fun _ => rfl) (absurd · hclosed)

end

/-! ### Runs of calls -/

section

variable {p q : Picker}

/-- A run of calls leaves the same to choose from, narrowed by the filter in force. -/
theorem sameList_after (h : SameList p q) (calls : List Call) : SameList p (q.after calls) := by
  induction calls generalizing q with
  | nil => exact h
  | cons c calls ih => exact ih (sameList_call h c)

/-- A run leaves a picker open exactly when it was open and no call of the run closes it. -/
theorem after_state (q : Picker) (calls : List Call) :
    (q.after calls).state = .opened ↔ q.state = .opened ∧ ∀ c ∈ calls, ¬ c.Closes := by
  induction calls generalizing q with
  | nil => simp [after]
  | cons c calls ih =>
    rw [after, ih, call_state, List.forall_mem_cons, and_assoc]

theorem not_closes_of_filters (filters : List Text) :
    ∀ c ∈ filters.map Call.setFilter, ¬ c.Closes := by
  intro c hc
  obtain ⟨filter, -, rfl⟩ := List.mem_map.mp hc
  exact id

/-- Behind the closing of the picker nothing is asked for. -/
theorem requests_of_closed (h : q.state = .closed) (calls : List Call) : q.requests calls = [] := by
  induction calls with
  | nil => rfl
  | cons c calls ih =>
    rw [requests, call_of_closed h]
    exact ih

/-- The call that asks for a directory closes the picker, and a closed picker asks for nothing. -/
theorem length_requests_le_one (q : Picker) (calls : List Call) :
    (q.requests calls).length ≤ 1 := by
  induction calls generalizing q with
  | nil => simp [requests]
  | cons c calls ih =>
    rw [requests]
    -- Either this call closes the picker and nothing is asked for behind it, or it asks for none.
    by_cases hc : c.Closes
    · rw [requests_of_closed ((lawful_call q c).closes hc), List.append_nil]
      exact Option.length_toList_le
    · rw [call_asked_of_not_closes hc]
      exact ih _

end

/-- The life of a picker: a run of calls leaves the candidates as they are and the rows as the
filter has them; it leaves the picker open when no call closes it; the next call is lawful; and the
store is asked to enter a directory at most once. -/
theorem lifecycle {config : Config} {p : Picker} (h : (start config).picker = some p)
    (calls : List Call) (c : Call) :
    Fresh config p ∧ SameList p (p.after calls) ∧
      ((p.after calls).state = .opened ↔ ∀ d ∈ calls, ¬ d.Closes) ∧
      Lawful (p.after calls) c ((p.after calls).call c) ∧ (p.requests calls).length ≤ 1 := by
  have hfresh := fresh_of_start h
  refine ⟨hfresh, sameList_after hfresh.sameList calls, ?_, lawful_call _ c,
    length_requests_le_one p calls⟩
  rw [after_state]
  exact and_iff_right hfresh.state

/-- With a filter that leaves the second of two rows, the first row accepted is `/b`; as it cannot
be entered, accepting it makes a note and closes the picker. -/
theorem lifecycle_of_refused_row :
    let config : Config := {
      store := some ⟨.ok ['/', 'w'], fun _ => .ok [], fun d => .error (.enter d .notFound)⟩
      choices := ⟨[['/', 'a'], ['/', 'b']], [], []⟩
      home := ⟨none⟩ }
    ∃ p, (start config).picker = some p ∧
      ((p.after [.setFilter ['B'], .size]).call (.accept 0)).asked = some ['/', 'b'] ∧
      ((p.after [.setFilter ['B'], .size]).call (.accept 0)).notes =
        [(StoreError.enter ['/', 'b'] .notFound).message] ∧
      ((p.after [.setFilter ['B'], .size]).call (.accept 0)).picker.state = .closed := by
  intro config
  refine ⟨_, rfl, ?_⟩
  obtain ⟨-, -, hopen, hlawful, -⟩ :=
    lifecycle (show (start config).picker = some _ from rfl) [.setFilter ['B'], .size] (.accept 0)
  have ho := hopen.mpr (by simp [Call.Closes])
  have hasked := (hlawful.asked ['/', 'b']).mpr
    ⟨ho, 0, ⟨['/', 'b'], .pinned⟩, rfl, by decide +kernel, rfl⟩
  exact ⟨hasked, hlawful.failure _ _ hasked rfl, hlawful.closes trivial⟩

end DirPicker.Picker
