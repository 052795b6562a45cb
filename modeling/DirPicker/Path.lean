import DirPicker.Text.Basic

/-!
# Paths

Paths are texts with `/` between their segments. `hasPrefix path start` asks whether `path` is
`start` or lies below it, and compares whole segments: `ws2/x` is not below `ws`.

`Home` writes the paths in a home directory with a tilde. Rows and filters go through the same
abbreviation, so that the text filtered is the text shown.
-/

namespace DirPicker

namespace Path

def isAbsolute (path : Text) : Bool := path.head? = some '/'

/-- Whether the text is empty or goes on with a new segment. -/
def atBoundary (rest : Text) : Bool := rest.isEmpty || rest.head? = some '/'

/-- Whether `path` is `start` or lies below it. -/
def hasPrefix (path start : Text) : Bool :=
  match Text.afterStart? start path with
  | some rest => atBoundary rest
  | none => false

/-- What `path` has after `start` is nothing or begins with a separator. -/
theorem hasPrefix_iff {path start : Text} :
    hasPrefix path start = true ↔ ∃ rest, path = start ++ rest ∧ atBoundary rest = true := by
  unfold hasPrefix
  cases h : Text.afterStart? start path with
  | none =>
    simp only [Bool.false_eq_true, false_iff, not_exists, not_and]
    rintro rest rfl
    rw [Text.afterStart?_eq_some_iff.mpr rfl] at h
    exact absurd h (by simp)
  | some rest =>
    obtain rfl := Text.afterStart?_eq_some_iff.mp h
    simp

end Path

/-- A home directory, without separators at its end; `none` when there is none to speak of. -/
structure Home where
  dir : Option Text
deriving DecidableEq, Repr

namespace Home

/-- The home directory with the given path, if it has any segments. -/
def of (path : Option Text) : Home :=
  ⟨(path.map (Text.trimEnd '/')).filter (!·.isEmpty)⟩

/-- The path with a tilde for the home directory. -/
def abbreviate (home : Home) (path : Text) : Text :=
  match home.dir with
  | none => path
  | some dir =>
    match Text.afterStart? dir path with
    | some rest => if Path.atBoundary rest then '~' :: rest else path
    | none => path

end Home

end DirPicker
