import DirPicker.Double
import DirPicker.Log.Basic
import DirPicker.Pattern.Plan
import DirPicker.Unicode.Newest
import DirPicker.Unicode.Space

/-!
# What is logged

Which events reach the log is said by a list of rules with commas between them. A rule is the name
of a level, or the beginning of the name of a part with a level of its own, or the name of a part
alone, which lets everything of that part through. In brackets there may stand names of fields,
and then the rule speaks only of events that have them.

Of the rules that speak of an event, the most specific one decides: the longest name of a part goes
first, then the largest number of fields, and then the fields whose names come last in the order of
their characters. An event that no rule speaks of is not logged.
-/

namespace DirPicker.Log

/-- A rule of the log. It lets events through up to the level with the rank `limit`. -/
structure Rule where
  /-- How the name of the part has to begin. -/
  part : Option Text := none
  /-- The fields that the event has to have. -/
  fields : List Text := []
  /-- Whether the rule speaks of a stretch of work, or of a value in a field. No event matches such
  a rule, because the program does not log stretches of work. -/
  conditional : Bool := false
  limit : Nat := Level.rank .trace
deriving DecidableEq, Repr

inductive RuleFault
  | malformed (rule : Text)
deriving DecidableEq, Repr

namespace Rule

/-! ### Reading -/

/-- The names of levels in rules, with their ranks; the first lets nothing through. -/
def limitNames : List Text :=
  ["off", "error", "warn", "info", "debug", "trace"].map String.toList

/-- Reads the name of a level in any case, or its rank. -/
def readLimit? (t : Text) : Option Nat :=
  match Text.readNat? t with
  | some n => if n < limitNames.length then some n else none
  | none => limitNames.idxOf? (t.map Char.toLower)

/-- Reads the level behind an equals sign; nothing there lets everything through. -/
def readLimitOrAll? (t : Text) : Option Nat :=
  if t.isEmpty then some (Level.rank .trace) else readLimit? t

/-- Whether the value of a field in a rule can be read: it is a number, or a pattern that does not
ask where words begin and end in all of Unicode. -/
def isValue (t : Text) : Bool :=
  (Double.read? t).isSome ||
    match Pattern.parse t with
    | .error _ => false
    | .ok tree =>
      match tree.node {} with
      | .error _ => false
      | .ok node => !(Pattern.Plan.ofNode node).looks.any Pattern.Look.isUnicodeWord

/-- Reads the name of a field between braces. A name with a value makes the rule conditional; what
follows a second equals sign does not count. -/
def withField? (rule : Rule) (field : Text) : Option Rule :=
  match Text.pieces '=' field with
  | _ :: value :: _ => if isValue value then some { rule with conditional := true } else none
  | _ => some { rule with fields := rule.fields ++ [field] }

/-- A rule while it is read. Blanks around it are passed over in finding its parts, but how far a
part is from the start is counted, in bytes, from the start of the whole text. -/
structure Reading where
  whole : Text
  trimmed : Text

namespace Reading

/-- How far a tail of the rule is from the start. -/
def place (r : Reading) (tail : Text) : Nat := r.trimmed.byteCount - tail.byteCount

def between (r : Reading) (start stop : Text) : Text :=
  Text.takeBytes (r.place stop - r.place start) (Text.dropBytes (r.place start) r.whole)

def onward (r : Reading) (start : Text) : Text := Text.dropBytes (r.place start) r.whole

/-- Reads what follows a closing bracket: nothing, or a level behind an equals sign. -/
def readTail? (r : Reading) (rule : Rule) : Text → Option Rule
  | [] => some rule
  | '=' :: rest => (readLimitOrAll? (r.onward rest)).map fun limit => { rule with limit }
  | _ => none

/-- Reads what stands in brackets, and what follows: the name of a stretch of work, and a field
between braces. -/
def readBracket? (r : Reading) (rule : Rule) (t : Text) : Option Rule :=
  let stop := t.dropWhile fun c => c ≠ ']' && c ≠ '\x7b'
  match stop with
  | ']' :: rest => r.readTail? { rule with conditional := true } rest
  | '\x7b' :: rest =>
    let rule := if (r.between t stop).isEmpty then rule else { rule with conditional := true }
    match rest.dropWhile (· ≠ '\x7d') with
    | '\x7d' :: ']' :: tail =>
      let field := r.between rest ('\x7d' :: ']' :: tail)
      if field.isEmpty then none
      else do
        let rule ← rule.withField? field
        r.readTail? rule tail
    | _ => none
  | _ => none

end Reading

/-- Whether a rule may begin with the character: with a bracket, or with the name of a part or
of a level. -/
def startsName (c : Char) : Bool :=
  Unicode.isAlphabetic c || Unicode.isNumeric c || c = '-' || c = ':' || c = '_'

def read? (whole : Text) : Option Rule :=
  let r : Reading := ⟨whole, Unicode.trim whole⟩
  match r.trimmed with
  | [] => none
  | '[' :: rest => r.readBracket? {} rest
  | c :: t =>
    if !startsName c then none
    else
      let stop := (c :: t).dropWhile fun c => c ≠ '=' && c ≠ '['
      let part := r.between (c :: t) stop
      match stop with
      | '=' :: rest => (readLimitOrAll? (r.onward rest)).map fun limit => { part := part, limit }
      | '[' :: rest => r.readBracket? { part := part } rest
      | _ =>
        match readLimit? whole with
        | some limit => some { limit }
        | none => some { part := some whole }

/-! ### Deciding -/

def speaksOf (rule : Rule) (e : Event) : Bool :=
  !rule.conditional && rule.fields.all e.fieldNames.contains &&
    match rule.part with
    | none => true
    | some start => start.isPrefixOf e.part.name

/-- How specific a rule is: the length of its part, one more if it has one, and the number of
fields. -/
def weight (rule : Rule) : Nat × Nat :=
  ((rule.part.map (·.length + 1)).getD 0, rule.fields.length)

/-- Whether the first rule has to make way for the second, both speaking of the same event. -/
def yields (a b : Rule) : Bool :=
  a.weight.1 < b.weight.1 ||
    (a.weight.1 = b.weight.1 &&
      (a.weight.2 < b.weight.2 ||
        (a.weight.2 = b.weight.2 && !b.fields.lex a.fields Text.comesBefore)))

end Rule

abbrev Rules := List Rule

namespace Rules

/-- The rules that hold when none are given: warnings and errors are logged. -/
def standard : Rules := [{ limit := Level.rank .warn }]

/-- Reads rules with commas between them. Empty ones mean nothing. -/
def read? (t : Text) : Option Rules :=
  ((Text.pieces ',' t).filter (!·.isEmpty)).mapM Rule.read?

/-- The rules in a variable of the environment; if it is not set, or not readable, the standard
ones. -/
def ofSetting (setting : Option Text) : Rules := (setting.bind read?).getD standard

/-- The rule that decides about an event. Of rules for the same part and fields, it is the last. -/
def decisive? (rules : Rules) (e : Event) : Option Rule :=
  (rules.filter (·.speaksOf e)).foldl
    (fun best rule => match best with
      | none => some rule
      | some old => if old.yields rule then some rule else some old) none

def allow (rules : Rules) (e : Event) : Bool :=
  match rules.decisive? e with
  | some rule => e.level.rank ≤ rule.limit
  | none => false

end Rules

end DirPicker.Log
