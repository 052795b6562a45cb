import DirPicker.Pattern.Program

/-!
# Filters

What a user types to narrow a list. A filter is cut at each separator; a path passes when it
contains the pieces one after another, in either case, with a separator somewhere between
neighbours. The condition is written as a pattern, `Filter.expression`, in which every character
of the filter stands for itself.

A filter whose pattern cannot be compiled passes nothing, so that it shows an empty list and not
everything.
-/

namespace DirPicker

open Pattern

namespace Filter

/-- The text with a backslash before each character that has a meaning in patterns. -/
def escape (t : Text) : Text := t.flatMap fun c => if isMeta c then ['\\', c] else [c]

/-- Any characters but line feeds. -/
def anyRun : Text := ['.', '*']

def expression (filter : Text) : Text :=
  anyRun ++
    Text.joinWith (anyRun ++ ['/'] ++ anyRun) ((Text.pieces '/' filter).map escape) ++ anyRun

def program (filter : Text) : Except Pattern.Error Program :=
  Program.compile true (expression filter)

end Filter

inductive Matcher
  /-- Passes what the program matches. -/
  | pattern (program : Program)
  /-- Passes nothing. -/
  | nothing
deriving DecidableEq, Repr

namespace Matcher

def ofFilter (filter : Text) : Matcher :=
  match Filter.program filter with
  | .ok program => .pattern program
  | .error _ => .nothing

def passes (matcher : Matcher) (candidate : Text) : Bool :=
  match matcher with
  | .pattern program => program.isMatch candidate
  | .nothing => false

@[simp] theorem passes_nothing (candidate : Text) : nothing.passes candidate = false := rfl

end Matcher

end DirPicker
