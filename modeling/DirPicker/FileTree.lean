import DirPicker.Path
import DirPicker.Store

/-!
# File trees

A `FileTree` is a tree of directories, files and symbolic links under a root, given by the entry at
each place. `FileTree.resolve` follows a path from a directory, through links, to a place in the
tree or to the failure that the system reports; `readFile` and `enter` are built on it. A
`Standing` is a tree together with a working directory in it, and answers what a store asks.

A place is the list of the segments that lead to it from the root. A `Foothold` in a tree is
more than a place: a directory that has been removed is not what is made at its place later.
-/

namespace DirPicker

/-- A place in a tree: the segments from the root. -/
abbrev Place := List Text

/-- What a path has led to: its place, and how many of the directories on the way there have been
removed since, itself first. -/
structure Foothold where
  place : Place
  removed : Nat

namespace Foothold

def ofPlace (place : Place) : Foothold := ⟨place, 0⟩

def stands (dir : Foothold) : Bool := dir.removed = 0

/-- Follows steps until they reach a directory that is still there, which may be at once. What has
been removed leads to itself and to the one above it, and holds nothing else. -/
def ascend (dir : Foothold) : List Text → Except SystemError (Foothold × List Text)
  | [] => .ok (dir, [])
  | segment :: rest =>
    if dir.stands then .ok (dir, segment :: rest)
    else if segment = ['.'] then dir.ascend rest
    else if segment = ['.', '.'] then ascend ⟨dir.place.dropLast, dir.removed - 1⟩ rest
    else .error .notFound

/-- What it is once the directory at `place` has been removed. -/
def losing (dir : Foothold) (place : Place) : Foothold :=
  if place = dir.place.take (dir.place.length - dir.removed) then
    { dir with removed := dir.removed + 1 }
  else dir

end Foothold

inductive FileEntry
  | dir
  | file (content : ByteArray)
  | link (target : Text)

def FileEntry.isDir : FileEntry → Bool
  | .dir => true
  | .file _ | .link _ => false

/-- The entries below the root, which is a directory itself. -/
structure FileTree where
  entries : List (Place × FileEntry)

namespace FileTree

def entry? (tree : FileTree) (place : Place) : Option FileEntry :=
  if place.isEmpty then some .dir else (tree.entries.find? (·.1 = place)).map (·.2)

def isDir (tree : FileTree) (place : Place) : Bool := (tree.entry? place).any (·.isDir)

/-- The tree with `entry` at `place`, instead of what was there. -/
def insert (tree : FileTree) (place : Place) (entry : FileEntry) : FileTree :=
  ⟨(place, entry) :: tree.entries.filter (·.1 ≠ place)⟩

def erase (tree : FileTree) (place : Place) : FileTree := ⟨tree.entries.filter (·.1 ≠ place)⟩

/-- Puts a directory at `place`, and at all places above it where there is nothing. -/
def insertDirs (tree : FileTree) (place : Place) : FileTree :=
  ((List.range (place.length + 1)).map place.take).foldl
    (fun tree above => if (tree.entry? above).isSome then tree else tree.insert above .dir) tree

/-! ### Paths -/

/-- The segments of a path that name something. -/
def segments (path : Text) : List Text := (Text.pieces '/' path).filter (!·.isEmpty)

/-- The steps that a path consists of. One with a separator at its end goes on to the directory
itself, and so to nothing but a directory. -/
def steps (path : Text) : List Text :=
  segments path ++ if path.getLast? = some '/' then [['.']] else []

/-- How many bytes a segment and a path may have, and how many links may be followed. -/
def segmentLimit : Nat := 255

@[inherit_doc segmentLimit] def pathLimit : Nat := 4095

@[inherit_doc segmentLimit] def linkLimit : Nat := 40

/-- Where a link leads on from the directory it stands in. -/
def linkStart (here : Place) (target : Text) : Place := if Path.isAbsolute target then [] else here

inductive Aim
  /-- What is there, behind any link. -/
  | target
  /-- The entry itself, even if it is a link. -/
  | entry
  /-- A place behind any link where there may be nothing yet. -/
  | creation
deriving DecidableEq

/-- Follows steps from a place; `follow` goes on behind a link. -/
def walk (tree : FileTree) (aim : Aim) (follow : Place → List Text → Except SystemError Place) :
    Place → List Text → Except SystemError Place
  | here, [] => .ok here
  | here, segment :: rest =>
    match tree.entry? here with
    | some (.file _) | some (.link _) => .error .notDirectory
    | _ =>
      if segment = ['.'] then tree.walk aim follow here rest
      else if segment = ['.', '.'] then tree.walk aim follow here.dropLast rest
      else if Text.byteCount segment > segmentLimit then .error .nameTooLong
      else
        let there := here ++ [segment]
        match tree.entry? there with
        | none => if rest.isEmpty && aim = .creation then .ok there else .error .notFound
        | some (.link target) =>
          if rest.isEmpty && aim = .entry then .ok there
          else follow (linkStart here target) (steps target ++ rest)
        | some _ => tree.walk aim follow there rest

/-- Follows steps from a place, through at most `links` links. -/
def walkThrough (tree : FileTree) (aim : Aim) : (links : Nat) → Place → List Text →
    Except SystemError Place
  | 0 => tree.walk aim fun _ _ => .error .linkLoop
  | links + 1 => tree.walk aim (tree.walkThrough aim links)

/-- The steps that a path consists of, for an aim. The entry that a path names is the same with a
separator at the end. -/
def Aim.steps (aim : Aim) (path : Text) : List Text :=
  if aim = .entry then segments path else FileTree.steps path

def resolve (tree : FileTree) (aim : Aim) (dir : Foothold) (path : Text) :
    Except SystemError Foothold :=
  if '\x00' ∈ path then .error .nulInName
  else if path.isEmpty then .error .notFound
  else if Text.byteCount path > pathLimit then .error .nameTooLong
  else do
    let start := if Path.isAbsolute path then .ofPlace [] else dir
    let (here, rest) ← start.ascend (aim.steps path)
    if here.stands then return .ofPlace (← tree.walkThrough aim linkLimit here.place rest)
    else return here

/-! ### Reading and changing -/

/-- What a foothold is: what was a directory when it was removed still is one. -/
def held? (tree : FileTree) (found : Foothold) : Option FileEntry :=
  if found.stands then tree.entry? found.place else some .dir

def readFile (tree : FileTree) (dir : Foothold) (path : Text) : Except SystemError ByteArray := do
  match tree.held? (← tree.resolve .target dir path) with
  | some (.file content) => .ok content
  | some .dir => .error .isDirectory
  | _ => .error .notFound

def enter (tree : FileTree) (dir : Foothold) (path : Text) : Except SystemError Foothold := do
  let found ← tree.resolve .target dir path
  match tree.held? found with
  | some (.file _) => .error .notDirectory
  | _ => .ok found

/-- Whether the path names its directory from within, or from below. -/
def endsInDots (path : Text) : Bool :=
  match (segments path).getLast? with
  | some segment => segment = ['.'] || segment = ['.', '.']
  | none => false

/-- The place of the directory that a path names, if it can be removed: it is empty. -/
def removable? (tree : FileTree) (dir : Foothold) (path : Text) : Option Place :=
  match tree.resolve .entry dir path with
  | .error _ => none
  | .ok found =>
    let occupied := tree.entries.any fun e => found.place.isPrefixOf e.1 && found.place ≠ e.1
    if !endsInDots path && !found.place.isEmpty && !occupied && tree.isDir found.place then
      some found.place
    else none

/-- Writes a file. A file that is not there yet is made, in a directory that is. -/
def writeFile? (tree : FileTree) (dir : Foothold) (path : Text) (content : ByteArray) :
    Option FileTree :=
  match tree.resolve .creation dir path with
  | .ok found =>
    if (tree.held? found).any (·.isDir) then none
    else some (tree.insert found.place (.file content))
  | .error _ => none

end FileTree

structure Standing where
  tree : FileTree
  dir : Foothold

namespace Standing

def pathOf (place : Place) : Text :=
  if place.isEmpty then ['/'] else place.flatMap fun segment => '/' :: segment

def workingDir (s : Standing) : Except StoreError Text :=
  if s.dir.stands then .ok (pathOf s.dir.place) else .error (.workingDir .notFound)

/-- The working directory after entering the directory that a path leads to. -/
def enter (s : Standing) (path : Text) : Except StoreError Standing :=
  match s.tree.enter s.dir path with
  | .ok dir => .ok { s with dir }
  | .error cause => .error (.enter path cause)

/-- Removes the directory that a path names, if it is empty. It may be the working directory. -/
def removeDir? (s : Standing) (path : Text) : Option Standing :=
  (s.tree.removable? s.dir path).map fun place => ⟨s.tree.erase place, s.dir.losing place⟩

def writeFile? (s : Standing) (path : Text) (content : ByteArray) : Option Standing :=
  (s.tree.writeFile? s.dir path content).map fun tree => { s with tree }

/-- The text of a listing in the tree, or on standard input. -/
def listing (s : Standing) (stdin : ByteArray) (source : Source) : Except StoreError Text :=
  let bytes := match source with
    | .file path => s.tree.readFile s.dir path
    | .stdin => .ok stdin
  match bytes.bind decodeText with
  | .ok t => .ok t
  | .error cause => .error (.read source.name cause)

def store (s : Standing) (stdin : ByteArray) (source : Source) : Store :=
  .ofListing s.workingDir (s.listing stdin source) fun path => (s.enter path).map fun _ => ()

end Standing

end DirPicker
