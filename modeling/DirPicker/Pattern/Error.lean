import DirPicker.Text.Basic

/-!
# What can be wrong with a pattern

A pattern is refused for a `Cause`, at a `Span` of its text. A span is given by what is left of the
pattern at its ends, so that it does not depend on what stands before the part it speaks of.
-/

namespace DirPicker.Pattern

/-- A part of a pattern, given by the tails of the pattern at its start and at its end. -/
structure Span where
  start : Text
  stop : Text
deriving DecidableEq, Repr, Inhabited

def Span.between (start stop : Text) : Span := ⟨start, stop⟩

def Span.head (t : Text) : Span := ⟨t, t.tail⟩

/-- The empty part at the start of a tail of the pattern. -/
def Span.at (t : Text) : Span := ⟨t, t⟩

inductive Cause
  | classEscapeInvalid
  | classRangeInvalid
  | classRangeLiteral
  | classUnclosed
  | decimalInvalid
  | escapeHexEmpty
  | escapeHexInvalid
  | escapeHexInvalidDigit
  | escapeUnexpectedEnd
  | escapeUnrecognized
  | flagDanglingNegation
  | flagDuplicate
  | flagRepeatedNegation
  | flagUnexpectedEnd
  | flagUnrecognized
  | groupNameDuplicate
  | groupNameEmpty
  | groupNameInvalid
  | groupNameUnexpectedEnd
  | groupUnclosed
  | groupUnopened
  | nestLimitExceeded (limit : Nat)
  | repetitionCountInvalid
  | repetitionCountDecimalEmpty
  | repetitionCountUnclosed
  | repetitionMissing
  | wordBoundaryUnclosed
  | wordBoundaryUnrecognized
  | wordBoundaryUnexpectedEnd
  | unicodeClassInvalid
  | backreferenceUnsupported
  | lookAroundUnsupported
  | unicodeNotAllowed
  | invalidUtf8
  | propertyNotFound
  | propertyValueNotFound
deriving DecidableEq, Repr

/-- A refusal: the cause, where it was met, and for a duplicate where the first one stands. -/
structure Failure where
  cause : Cause
  span : Span
  earlier : Option Span := none
deriving DecidableEq, Repr

/-- Why a pattern has no compiled form: its text is not a pattern, or the compiled form would
exceed the limit on its size. -/
inductive Error
  | refused (failure : Failure)
  | tooLarge
deriving DecidableEq, Repr

end DirPicker.Pattern
