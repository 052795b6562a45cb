import DirPicker.Path
import DirPicker.Pattern.Program
import DirPicker.Text.Quoted

/-!
# Workspaces

A workspace is a directory tree of some kind, such as a checkout of a project. History entries in
it are recorded as the kind followed by the path below the root, so that they stay valid in every
tree of that kind.

A `Definition` gives a kind and the pattern of its roots. `resolve` finds the workspace that a
directory belongs to, and `Workspace.expand` turns a recorded entry into a path again.
-/

namespace DirPicker

open Pattern

namespace Workspace

/-- A kind of workspace, and the pattern that the roots of such workspaces match. -/
structure Definition where
  kind : Text
  pattern : Text
deriving DecidableEq, Repr

structure Malformed where
  value : Text
deriving DecidableEq, Repr

def Malformed.message (e : Malformed) : Text :=
  "expected KIND=PATTERN, got ".toList ++ Text.quoted e.value

/-- Reads `kind=pattern`; the first equals sign separates them, and neither is empty. -/
def Definition.parse (value : Text) : Except Malformed Definition :=
  match Text.splitFirst? (· = '=') value with
  | some (kind, pattern) =>
    if kind.isEmpty || pattern.isEmpty then .error ⟨value⟩ else .ok ⟨kind, pattern⟩
  | none => .error ⟨value⟩

/-- The pattern, with an anchor in front unless it begins with one. -/
def Definition.anchored (d : Definition) : Text :=
  if d.pattern.head? = some '^' then d.pattern else '^' :: d.pattern

/-- The part of `path` that is the root of a workspace of this kind: the text that the anchored
pattern matches at the start of the path, unless that is empty. -/
def Definition.rootOf (d : Definition) (path : Text) : Option Text :=
  match Program.compile false d.anchored with
  | .error _ => none
  | .ok program =>
    match program.find? path with
    | some (start, stop) => if start = 0 ∧ stop ≠ 0 then some (path.take stop) else none
    | none => none

end Workspace

/-- The workspace a directory belongs to. The kind is empty when it belongs to none. -/
structure Workspace where
  kind : Text
  root : Text
deriving DecidableEq, Repr

namespace Workspace

def outside : Workspace := ⟨[], []⟩

def isNone (w : Workspace) : Bool := w.kind.isEmpty

/-- Whether the entry is recorded relative to this workspace. -/
def contains (w : Workspace) (path : Text) : Bool := !w.isNone && Path.hasPrefix path w.kind

/-- The path that an entry stands for: in an entry recorded relative to the workspace, the kind
makes way for the root. -/
def expand (w : Workspace) (path : Text) : Text :=
  if w.contains path then w.root ++ path.drop w.kind.length else path

/-- The workspace of `dir` by the first definition that gives `dir` a root. -/
def resolve (dir : Text) (definitions : List Definition) : Workspace :=
  (definitions.findSome? fun d => (d.rootOf dir).map fun root => ⟨d.kind, root⟩).getD outside

end Workspace

end DirPicker
