import DirPicker.Log.Basic
import DirPicker.Pattern.Message
import DirPicker.Session
import DirPicker.Setting

/-!
# What the program logs

The events of each thing the program does, in the order in which they happen. They are functions of
their own beside what they speak of, so that a picker does its work without a word about the log.

The events of a session (`ofSession`) are logged while the picker is on the screen: they come to the
user among the frames, and before the notes.
-/

namespace DirPicker.Log

open Pattern

/-! ### Settings -/

def malformedDefinition (e : Workspace.Malformed) : Event where
  level := .debug
  part := .program
  message := "skipping workspace".toList
  fields := [("err".toList, .plain e.message)]

def ofDefinitions (value : Text) : List Event :=
  (Setting.items Setting.definitionSeparator value).filterMap fun item =>
    match Workspace.Definition.parse item with
    | .ok _ => none
    | .error e => some (malformedDefinition e)

/-! ### Candidates -/

def brokenPattern (d : Workspace.Definition) (e : Pattern.Error) : Event where
  level := .debug
  part := .workspace
  message := "skipping workspace".toList
  fields := [("kind".toList, .plain d.kind), ("pattern".toList, .plain d.pattern),
    ("err".toList, .plain (e.message d.anchored))]

/-- The events of looking for the workspace of a directory: the broken patterns met before the
first definition that gives it a root. -/
def ofResolve (dir : Text) : List Workspace.Definition → List Event
  | [] => []
  | d :: ds =>
    match Program.compile false d.anchored with
    | .error e => brokenPattern d e :: ofResolve dir ds
    | .ok _ => if (d.rootOf dir).isSome then [] else ofResolve dir ds

def noWorkingDir (e : StoreError) : Event where
  level := .debug
  part := .candidates
  message := "building candidates without current directory".toList
  fields := [("err".toList, .plain e.message)]

def noHistory (e : StoreError) (pinned : Nat) : Event where
  level := .debug
  part := .candidates
  message := "history unavailable, showing pinned only".toList
  fields := [("err".toList, .plain e.message), ("pinned".toList, .ofNat pinned)]

def ofBuild (store : Store) (choices : Choices) : List Event :=
  (match store.workingDir with
    | .ok dir => ofResolve dir choices.workspaces
    | .error e => [noWorkingDir e]) ++
  match Candidates.build store choices with
  | .ok { warning := some e, .. } => [noHistory e choices.pinned.length]
  | _ => []

/-! ### The picker -/

def opened (p : Picker) : Event where
  level := .debug
  part := .picker
  message := "location picker opened".toList
  fields := [("candidates".toList, .ofNat p.all.length),
    ("workspace".toList, .plain p.workspace.kind)]

def ofStart (config : Config) : List Event :=
  match config.store with
  | none => []
  | some store =>
    ofBuild store config.choices ++ (Picker.start config).picker.toList.map opened

def brokenFilter (filter : Text) (e : Pattern.Error) : Event where
  level := .debug
  part := .pattern
  message := "filter expression failed to compile".toList
  fields := [("pattern".toList, .quoted filter),
    ("err".toList, .plain (e.message (Filter.expression filter)))]

def ofFilter (filter : Text) : List Event :=
  if filter.isEmpty then []
  else match Filter.program filter with
    | .ok _ => []
    | .error e => [brokenFilter filter e]

def outOfRange (index rows : Nat) : Event where
  level := .debug
  part := .picker
  message := "accepted row out of range".toList
  fields := [("index".toList, .ofNat index), ("rows".toList, .ofNat rows)]

def entered (dir : Text) : Event where
  level := .info
  part := .store
  message := "changed directory".toList
  fields := [("dir".toList, .quoted dir)]

/-- The events of accepting a row of an open picker. -/
def ofAccept (p : Picker) (index : Nat) : List Event :=
  match p.target? index with
  | none => [outOfRange index p.size]
  | some _ => (p.accept index).entered.toList.map entered

/-! ### Sessions -/

/-- The events of an input. Moving the highlight and giving up are not logged. -/
def ofInput (s : Session) : Input → List Event
  | .other => []
  | .press key =>
    let (action, view) := s.view.press key s.picker.size
    match action with
    | .filterChanged => ofFilter view.query
    | .accept => ofAccept s.picker view.selected
    | .none | .cancel => []

/-- The events of a session, up to the input that closes the picker. -/
def ofSession (size : Size) (s : Session) : List Input → List Event
  | [] => []
  | input :: rest =>
    ofInput s input ++
      match (s.drawn size).handle input with
      | .running next => ofSession size next rest
      | .closed _ => []

end DirPicker.Log
