import DirPicker.Pattern.Error
import DirPicker.Pattern.Size
import DirPicker.Text.Digits
import DirPicker.Text.Lines

/-!
# Messages about patterns

The message for a pattern that has no compiled form shows the pattern with carets under the part
that is refused, and says what is wrong with it. A pattern of several lines is shown between
dividers with its lines numbered; a part that goes over several lines has no carets, and is
described below the pattern.
-/

namespace DirPicker.Pattern

def Cause.text : Cause → Text
  | .classEscapeInvalid => "invalid escape sequence found in character class".toList
  | .classRangeInvalid =>
    "invalid character class range, the start must be <= the end".toList
  | .classRangeLiteral => "invalid range boundary, must be a literal".toList
  | .classUnclosed => "unclosed character class".toList
  | .decimalInvalid => "decimal literal invalid".toList
  | .escapeHexEmpty => "hexadecimal literal empty".toList
  | .escapeHexInvalid => "hexadecimal literal is not a Unicode scalar value".toList
  | .escapeHexInvalidDigit => "invalid hexadecimal digit".toList
  | .escapeUnexpectedEnd =>
    "incomplete escape sequence, reached end of pattern prematurely".toList
  | .escapeUnrecognized => "unrecognized escape sequence".toList
  | .flagDanglingNegation => "dangling flag negation operator".toList
  | .flagDuplicate => "duplicate flag".toList
  | .flagRepeatedNegation => "flag negation operator repeated".toList
  | .flagUnexpectedEnd => "expected flag but got end of regex".toList
  | .flagUnrecognized => "unrecognized flag".toList
  | .groupNameDuplicate => "duplicate capture group name".toList
  | .groupNameEmpty => "empty capture group name".toList
  | .groupNameInvalid => "invalid capture group character".toList
  | .groupNameUnexpectedEnd => "unclosed capture group name".toList
  | .groupUnclosed => "unclosed group".toList
  | .groupUnopened => "unopened group".toList
  | .nestLimitExceeded limit =>
    "exceed the maximum number of nested parentheses/brackets (".toList ++ Text.ofNat limit ++ [')']
  | .repetitionCountInvalid =>
    "invalid repetition count range, the start must be <= the end".toList
  | .repetitionCountDecimalEmpty => "repetition quantifier expects a valid decimal".toList
  | .repetitionCountUnclosed => "unclosed counted repetition".toList
  | .repetitionMissing => "repetition operator missing expression".toList
  | .wordBoundaryUnclosed =>
    "special word boundary assertion is either unclosed or contains an invalid character".toList
  | .wordBoundaryUnrecognized =>
    "unrecognized special word boundary assertion, ".toList ++
      "valid choices are: start, end, start-half or end-half".toList
  | .wordBoundaryUnexpectedEnd =>
    "found either the beginning of a special word boundary or a bounded repetition ".toList ++
      "on a \\b with an opening brace, but no closing brace".toList
  | .unicodeClassInvalid => "invalid Unicode character class".toList
  | .backreferenceUnsupported => "backreferences are not supported".toList
  | .lookAroundUnsupported =>
    "look-around, including look-ahead and look-behind, is not supported".toList
  | .unicodeNotAllowed => "Unicode not allowed here".toList
  | .invalidUtf8 => "pattern can match invalid UTF-8".toList
  | .propertyNotFound => "Unicode property not found".toList
  | .propertyValueNotFound => "Unicode property value not found".toList

/-! ### Parts of a pattern -/

/-- A position in a pattern; lines and columns are counted from 0. -/
structure Position where
  line : Nat
  column : Nat
deriving DecidableEq, Repr

/-- The position at which a tail of the pattern begins. -/
def Position.of (pattern : Text) (tail : Text) : Position :=
  let before := pattern.take (pattern.length - tail.length)
  ⟨before.count '\n', (before.reverse.takeWhile (· ≠ '\n')).length⟩

structure Extent where
  start : Position
  stop : Position
deriving DecidableEq, Repr

namespace Extent

def of (pattern : Text) (span : Span) : Extent := ⟨.of pattern span.start, .of pattern span.stop⟩

def isFlat (e : Extent) : Bool := e.start.line = e.stop.line

/-- The part in words, lines and columns being counted from 1. -/
def words (e : Extent) : Text :=
  "on line ".toList ++ Text.ofNat (e.start.line + 1) ++
    " (column ".toList ++ Text.ofNat (e.start.column + 1) ++
    ") through line ".toList ++ Text.ofNat (e.stop.line + 1) ++
    " (column ".toList ++ Text.ofNat e.stop.column ++ [')']

end Extent

namespace Failure

/-- The parts that the message points at, in the order of the pattern. -/
def extents (f : Failure) (pattern : Text) : List Extent :=
  match f.earlier with
  | none => [.of pattern f.span]
  | some earlier =>
    let inOrder := f.span.start.length < earlier.start.length
    let first := if inOrder then earlier else f.span
    let second := if inOrder then f.span else earlier
    [.of pattern first, .of pattern second]

/-- Carets under parts of one line, from column `column` on. A part without a width has one caret
too. -/
def carets : (column : Nat) → List Extent → Text
  | _, [] => []
  | column, e :: rest =>
    let gap := e.start.column - column
    let width := max 1 (e.stop.column - e.start.column)
    List.replicate gap ' ' ++ List.replicate width '^' ++ carets (column + gap + width) rest

/-- How wide line numbers are; a pattern of one line has none. -/
def numberWidth (pattern : Text) : Nat :=
  let count := pattern.count '\n' + 1
  if count ≤ 1 then 0 else (Text.ofNat count).length

/-- What stands in front of a line of the pattern. -/
def margin (width number : Nat) : Text :=
  if width = 0 then List.replicate 4 ' '
  else
    let digits := Text.ofNat (number + 1)
    List.replicate (width - digits.length) ' ' ++ digits ++ [':', ' ']

/-- A line of the pattern, and the carets under it. -/
def showLine (width : Nat) (extents : List Extent) (number : Nat) (line : Text) : List Text :=
  let here := extents.filter fun e => e.isFlat && e.start.line = number
  let shown := margin width number ++ line
  if here.isEmpty then [shown]
  else [shown, List.replicate (margin width number).length ' ' ++ carets 0 here]

/-- The pattern with carets under the parts. -/
def showPattern (pattern : Text) (extents : List Extent) : List Text :=
  let width := numberWidth pattern
  ((Text.lines pattern).mapIdx (showLine width extents)).flatten

/-- What is drawn above and below a pattern of several lines. -/
def divider : Text := List.replicate 79 '~'

def message (f : Failure) (pattern : Text) : Text :=
  let extents := f.extents pattern
  let shown := showPattern pattern extents
  let body :=
    if '\n' ∈ pattern then
      [divider] ++ shown ++ [divider] ++ (extents.filter (!·.isFlat)).map Extent.words
    else shown
  Text.joinWith ['\n']
    (["regex parse error:".toList] ++ body ++ ["error: ".toList ++ f.cause.text])

end Failure

def Error.message (e : Error) (pattern : Text) : Text :=
  match e with
  | .refused failure => failure.message pattern
  | .tooLarge =>
    "Compiled regex exceeds size limit of ".toList ++ Text.ofNat sizeLimit ++
      " bytes.".toList

end DirPicker.Pattern
