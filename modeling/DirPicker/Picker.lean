import DirPicker.Candidates

/-!
# The picker

A `Picker` holds the candidates of a place and those shown. It is started on a store, narrowed by
filters, and closed by the first `accept` or `cancel`; a closed picker ignores everything.
Failures never leave it as errors: they become notes for the user.
-/

namespace DirPicker

/-- What a picker is started with. Without a store it does not open. -/
structure Config where
  store : Option Store
  choices : Choices
  home : Home

inductive PickerState
  | opened
  | closed
deriving DecidableEq, Repr

structure Picker where
  store : Store
  home : Home
  workspace : Workspace
  /-- All candidates. -/
  all : CandidateList
  /-- Those that pass the filter. -/
  shown : CandidateList
  filter : Text
  state : PickerState

/-- A line of text for the user. -/
abbrev Note := Text

namespace Picker

/-- The note for a failure of the history. -/
def historyNote (e : StoreError) : Note := "db error: ".toList ++ e.message

structure Started where
  notes : List Note
  picker : Option Picker

/-- Starts a picker with all candidates shown. -/
def start (config : Config) : Started :=
  match config.store with
  | none => ⟨["no dir history store".toList], none⟩
  | some store =>
    match Candidates.build store config.choices with
    | .error e => ⟨[historyNote e], none⟩
    | .ok candidates =>
      ⟨candidates.warning.toList.map historyNote,
        some {
          store
          home := config.home
          workspace := candidates.workspace
          all := candidates.list
          shown := candidates.list
          filter := []
          state := .opened }⟩

def size (p : Picker) : Nat := p.shown.length

def isEmpty (p : Picker) : Bool := p.shown.isEmpty

def row? (p : Picker) (index : Nat) : Option Text := CandidateList.row? p.shown p.home index

def rows (p : Picker) : List Text := CandidateList.rows p.shown p.home

/-- Shows the candidates that pass a filter. -/
def setFilter (p : Picker) (filter : Text) : Picker :=
  match p.state with
  | .closed => p
  | .opened => { p with filter, shown := CandidateList.narrow p.all p.home filter }

/-- The directory that accepting a row would enter. -/
def target? (p : Picker) (index : Nat) : Option Text :=
  p.shown[index]?.map fun c => p.workspace.expand c.path

structure Accepted where
  picker : Picker
  /-- The directory that the store was asked to enter. -/
  asked : Option Text
  /-- The directory entered. -/
  entered : Option Text
  notes : List Note

/-- Enters the directory of a row shown, and closes the picker whether or not that succeeds. -/
def accept (p : Picker) (index : Nat) : Accepted :=
  match p.state with
  | .closed => ⟨p, none, none, []⟩
  | .opened =>
    let closed := { p with state := .closed }
    match p.target? index with
    | none => ⟨closed, none, none, []⟩
    | some dir =>
      match p.store.enter dir with
      | .ok _ => ⟨closed, some dir, some dir, []⟩
      | .error e => ⟨closed, some dir, none, [e.message]⟩

def cancel (p : Picker) : Picker := { p with state := .closed }

end Picker

end DirPicker
