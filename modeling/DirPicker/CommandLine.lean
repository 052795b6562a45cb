import DirPicker.Text.Digits
import DirPicker.Workspace

/-!
# The command line

`CommandLine.parse` reads the arguments of the program into `Options`, or into a `Stop`: a wish
for help or for the version, or the first fault.

A parameter and its value are two arguments, or one with an equals sign between them. A value is
looked at when the next parameter, switch or query arrives, and not before. So an argument that
means nothing is reported even if the value in front of it is bad, and a parameter that got no
value is reported before anything about the argument that came instead.
-/

namespace DirPicker

structure Options where
  /-- The filter to begin with. -/
  query : Option Text := none
  /-- The name of the listing. -/
  history : Option Text := none
  pinned : List Text := []
  hidden : List Text := []
  workspaces : List Workspace.Definition := []
  /-- Print the rows and do not choose. -/
  list : Bool := false
  /-- The row to choose without asking. -/
  pick : Option Nat := none
deriving DecidableEq, Repr

namespace CommandLine

inductive Parameter
  | history
  | pin
  | hide
  | workspace
  | pick
deriving DecidableEq, Repr

inductive Switch
  | list
  | help
  | version
deriving DecidableEq, Repr

inductive Fault
  /-- The argument is no option, and there is a query already. -/
  | unknown (argument : Text)
  /-- The parameter has no value, or an empty one that names nothing. -/
  | valueMissing (parameter : Parameter)
  | valueInvalid (parameter : Parameter) (value : Text)
  /-- A value is attached to a switch. -/
  | valueUnwanted (switch : Switch) (value : Text)
  | parameterRepeated (parameter : Parameter)
  | listRepeated
  /-- Rows are to be printed, and one is to be chosen. -/
  | listWithPick
deriving DecidableEq, Repr

inductive Stop
  | help
  | version
  | fault (fault : Fault)
deriving DecidableEq, Repr

/-! ### Names -/

/-- The name of a parameter behind the two hyphens. -/
def Parameter.name : Parameter → Text
  | .history => "history".toList
  | .pin => "pin".toList
  | .hide => "hide".toList
  | .workspace => "workspace".toList
  | .pick => "pick".toList

def Switch.name : Switch → Text
  | .list => "list".toList
  | .help => "help".toList
  | .version => "version".toList

def Parameter.ofName? (name : Text) : Option Parameter :=
  [Parameter.history, .pin, .hide, .workspace, .pick].find? (·.name = name)

def Switch.ofName? (name : Text) : Option Switch :=
  [Switch.list, .help, .version].find? (·.name = name)

def Switch.ofLetter? : Char → Option Switch
  | 'h' => some .help
  | 'V' => some .version
  | _ => none

/-! ### Values -/

/-- One more than the largest row number that can be asked for. -/
def indexBound : Nat := Nat.pow 2 64

def readIndex? (value : Text) : Option Nat := (Text.readNat? value).filter (· < indexBound)

def assign (options : Options) (parameter : Parameter) (value : Text) : Except Fault Options :=
  match parameter with
  | .history =>
    if options.history.isSome then .error (.parameterRepeated .history)
    else if value.isEmpty then .error (.valueMissing .history)
    else .ok { options with history := some value }
  | .pin => .ok { options with pinned := options.pinned ++ [value] }
  | .hide => .ok { options with hidden := options.hidden ++ [value] }
  | .workspace =>
    match Workspace.Definition.parse value with
    | .ok d => .ok { options with workspaces := options.workspaces ++ [d] }
    | .error _ => .error (.valueInvalid .workspace value)
  | .pick =>
    if options.pick.isSome then .error (.parameterRepeated .pick)
    else match readIndex? value with
      | some index => .ok { options with pick := some index }
      | none => .error (.valueInvalid .pick value)

/-! ### Arguments -/

structure State where
  options : Options := {}
  /-- The last parameter, with its value if that has arrived, while nobody has looked at it. -/
  pending : Option (Parameter × Option Text) := none
  /-- Whether two hyphens have ended the options. -/
  ended : Bool := false

namespace State

def settle (s : State) : Except Stop State :=
  match s.pending with
  | none => .ok s
  | some (parameter, none) => .error (.fault (.valueMissing parameter))
  | some (parameter, some value) =>
    match assign s.options parameter value with
    | .ok options => .ok { s with options, pending := none }
    | .error e => .error (.fault e)

/-- Takes an argument as the query. There is only one. -/
def takeQuery (s : State) (argument : Text) : Except Stop State :=
  if s.options.query.isSome then .error (.fault (.unknown argument))
  else do
    let s ← s.settle
    return { s with options := { s.options with query := some argument } }

def turnOn (s : State) (switch : Switch) : Except Stop State := do
  let s ← s.settle
  match switch with
  | .help => .error .help
  | .version => .error .version
  | .list =>
    if s.options.list then .error (.fault .listRepeated)
    else return { s with options := { s.options with list := true } }

def takeOption (s : State) (name : Text) (attached : Option Text) : Except Stop State :=
  match Parameter.ofName? name, Switch.ofName? name, attached with
  | some parameter, _, none => do
    let s ← s.settle
    return { s with pending := some (parameter, none) }
  | some parameter, _, some value => do
    let s ← s.settle
    { s with pending := some (parameter, some value) }.settle
  | none, some switch, none => s.turnOn switch
  | none, some switch, some value => .error (.fault (.valueUnwanted switch value))
  | none, none, _ => .error (.fault (.unknown ('-' :: '-' :: name)))

/-- Takes an argument that begins with a hyphen and a letter. Only the first letter counts, because
every switch with a letter ends the reading. -/
def takeLetters (s : State) (letter : Char) : Except Stop State :=
  match Switch.ofLetter? letter with
  | some switch => s.turnOn switch
  | none => .error (.fault (.unknown ['-', letter]))

/-- Takes an argument that is no option: the value of the last parameter, or the query. -/
def takePlain (s : State) (argument : Text) : Except Stop State :=
  match s.pending with
  | some (parameter, none) => .ok { s with pending := some (parameter, some argument) }
  | _ => s.takeQuery argument

def take (s : State) (argument : Text) : Except Stop State :=
  if s.ended then s.takeQuery argument
  else match argument with
    | ['-', '-'] => .ok { s with ended := true }
    | '-' :: '-' :: body =>
      match Text.splitFirst? (· = '=') body with
      | some (name, value) => s.takeOption name (some value)
      | none => s.takeOption body none
    | '-' :: letter :: _ => s.takeLetters letter
    | argument => s.takePlain argument

end State

/-- The options with the history from the environment, if the arguments name none. -/
def inherit (options : Options) (history : Option Text) : Except Fault Options :=
  match options.history, history with
  | none, some name => assign options .history name
  | _, _ => .ok options

/-- Reads the arguments of the program. `history` is the name of the listing in the
environment. -/
def parse (arguments : List Text) (history : Option Text) : Except Stop Options := do
  let state ← arguments.foldlM State.take {}
  let state ← state.settle
  let options ← (inherit state.options history).mapError Stop.fault
  if options.list && options.pick.isSome then .error (.fault .listWithPick) else return options

end CommandLine

end DirPicker
