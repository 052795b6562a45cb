import DirPicker.Double
import DirPicker.Text.Lines
import DirPicker.Unicode.Space

/-!
# Listings

A listing is the text form of a directory history: one entry on each line, a score and a path with
white space between them, best first. Blank lines and lines that begin with `#` say nothing.

`Listing.parse` reads all entries, or tells the first line that is none of these.
-/

namespace DirPicker

structure Entry where
  score : Double
  path : Text
deriving DecidableEq, Repr

namespace Listing

open Unicode

inductive Line
  /-- Nothing: it is blank or a comment. -/
  | silent
  | entry (entry : Entry)
  | malformed
deriving DecidableEq, Repr

/-- Reads a line: a finite score and a path, with white space in front of each. -/
def readLine (line : Text) : Line :=
  let body := trimStart line
  if body.isEmpty || body.head? = some '#' then .silent
  else match Text.splitFirst? isSpace body with
    | none => .malformed
    | some (token, rest) =>
      match Double.read? token with
      | none => .malformed
      | some score =>
        let path := trimStart rest
        if path.isEmpty || !score.isFinite then .malformed else .entry ⟨score, path⟩

/-- A line that is no entry, by its number and its text. -/
structure Malformed where
  line : Nat
  content : Text
deriving DecidableEq, Repr

/-- Reads lines, the first of them being number `number`. -/
def parseLines (number : Nat) : List Text → Except Malformed (List Entry)
  | [] => .ok []
  | line :: rest =>
    match readLine line with
    | .silent => parseLines (number + 1) rest
    | .malformed => .error ⟨number, line⟩
    | .entry entry =>
      match parseLines (number + 1) rest with
      | .ok entries => .ok (entry :: entries)
      | .error e => .error e

def parse (listing : Text) : Except Malformed (List Entry) := parseLines 1 (Text.lines listing)

end Listing

end DirPicker
