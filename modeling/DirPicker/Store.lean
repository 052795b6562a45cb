import DirPicker.Listing
import DirPicker.SystemError
import DirPicker.Text.Quoted

/-!
# Stores

A `Store` answers what the picker asks of its surroundings: where it stands, which directories the
history holds, and whether a directory can be entered. It is a record of answers and not an object
with a state, because the picker asks each question at most once.

`Store.ofListing` is the store whose history is a listing. A `Source` tells where the listing is
read from.
-/

namespace DirPicker

inductive StoreError
  | read (path : Text) (cause : SystemError)
  | malformed (line : Nat) (content : Text)
  | enter (path : Text) (cause : SystemError)
  | workingDir (cause : SystemError)
deriving DecidableEq, Repr

namespace StoreError

def message : StoreError → Text
  | .read path cause => "cannot read ".toList ++ path ++ [':', ' '] ++ cause.message
  | .malformed line content =>
    "line ".toList ++ Text.ofNat line ++ ": malformed entry ".toList ++ Text.quoted content
  | .enter path cause => "cd ".toList ++ path ++ [':', ' '] ++ cause.message
  | .workingDir cause => "cannot get working directory: ".toList ++ cause.message

end StoreError

/-- What the picker asks of its surroundings. -/
structure Store where
  /-- The working directory. -/
  workingDir : Except StoreError Text
  /-- The directories of the history, best first, without the paths to leave out. -/
  history : (leaveOut : List Text) → Except StoreError (List Entry)
  /-- Makes a directory the working directory. -/
  enter : Text → Except StoreError Unit

namespace Store

def listingHistory (listing : Except StoreError Text) (leaveOut : List Text) :
    Except StoreError (List Entry) := do
  match Listing.parse (← listing) with
  | .ok entries => .ok (entries.filter fun entry => !leaveOut.contains entry.path)
  | .error e => .error (.malformed e.line e.content)

def ofListing (workingDir : Except StoreError Text) (listing : Except StoreError Text)
    (enter : Text → Except StoreError Unit) : Store where
  workingDir := workingDir
  history := listingHistory listing
  enter := enter

end Store

inductive Source
  | file (path : Text)
  | stdin
deriving DecidableEq, Repr

namespace Source

/-- The source with the given name: standard input for a hyphen. Separators behind the hyphen, and
dots between them, make no difference. -/
def ofPath (path : Text) : Source :=
  match Text.pieces '/' path with
  | first :: rest =>
    if first = ['-'] ∧ rest.all (fun p => p.isEmpty || p = ['.']) then .stdin else .file path
  | [] => .file path

def name : Source → Text
  | .file path => path
  | .stdin => ['-']

end Source

def decodeText (bytes : ByteArray) : Except SystemError Text :=
  match String.fromUTF8? bytes with
  | some s => .ok s.toList
  | none => .error .notText

end DirPicker
