import DirPicker.Filter
import DirPicker.Path
import DirPicker.Score
import DirPicker.Store
import DirPicker.Workspace

/-!
# Candidates

The directories a user can pick from: pinned ones first, then those of the history that are not
left out. `Candidates.build` makes the list from a store, and survives a store without a history
as long as something is pinned. `CandidateList.narrow` keeps what a filter passes, and
`CandidateList.row?` is the text of a row.
-/

namespace DirPicker

structure Candidate where
  path : Text
  score : Score
deriving DecidableEq, Repr

abbrev CandidateList := List Candidate

namespace Candidate

/-- The text of the row: the score cell, a blank, and the path as shown. -/
def row (c : Candidate) (home : Home) : Text := c.score.cell ++ ' ' :: home.abbreviate c.path

end Candidate

namespace CandidateList

/-- The candidates whose path, as shown, passes the filter; the empty filter passes all. -/
def narrow (candidates : CandidateList) (home : Home) (filter : Text) : CandidateList :=
  if filter.isEmpty then candidates
  else
    let matcher := Matcher.ofFilter filter
    candidates.filter fun c => matcher.passes (home.abbreviate c.path)

/-- The text of the row with the given number, counted from 0. -/
def row? (candidates : CandidateList) (home : Home) (index : Nat) : Option Text :=
  candidates[index]?.map (·.row home)

def rows (candidates : CandidateList) (home : Home) : List Text := candidates.map (·.row home)

end CandidateList

structure Choices where
  /-- Always listed, and never from the history. -/
  pinned : List Text
  /-- Never listed from the history. -/
  hidden : List Text
  /-- Tried in order; the first that contains the working directory counts. -/
  workspaces : List Workspace.Definition
deriving DecidableEq, Repr

structure Candidates where
  list : CandidateList
  /-- The workspace of the working directory. -/
  workspace : Workspace
  /-- Why there are no candidates from the history, if there are none. -/
  warning : Option StoreError
deriving DecidableEq, Repr

namespace Candidates

/-- The workspace of the working directory; without a working directory there is none. -/
def workspaceOf (store : Store) (choices : Choices) : Workspace :=
  match store.workingDir with
  | .ok dir => Workspace.resolve dir choices.workspaces
  | .error _ => .outside

/-- The paths that the history is asked to leave out. -/
def leftOut (store : Store) (choices : Choices) : List Text :=
  choices.pinned ++ choices.hidden ++
    match store.workingDir with
    | .ok dir => [dir]
    | .error _ => []

def ofPinned (pinned : List Text) : CandidateList := pinned.map fun path => ⟨path, .pinned⟩

/-- Whether an entry of the history is meant for this place: its path is absolute, or recorded
relative to the workspace. -/
def belongs (workspace : Workspace) (entry : Entry) : Bool :=
  Path.isAbsolute entry.path || workspace.contains entry.path

def ofHistory (workspace : Workspace) (entries : List Entry) : CandidateList :=
  (entries.filter (belongs workspace)).map fun entry => ⟨entry.path, .ranked entry.score⟩

/-- Builds the list: what is pinned, and then what the history holds for this place. -/
def build (store : Store) (choices : Choices) : Except StoreError Candidates :=
  let workspace := workspaceOf store choices
  let pinned := ofPinned choices.pinned
  match store.history (leftOut store choices) with
  | .ok entries => .ok ⟨pinned ++ ofHistory workspace entries, workspace, none⟩
  | .error e => if pinned.isEmpty then .error e else .ok ⟨pinned, workspace, some e⟩

end Candidates

end DirPicker
