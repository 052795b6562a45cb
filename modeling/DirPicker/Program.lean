import DirPicker.CommandLine
import DirPicker.Help
import DirPicker.Log.Events
import DirPicker.Log.Rules
import DirPicker.Session

/-!
# The program

A run of the program reads the command line and the environment, starts a picker, and then prints
its rows, or accepts the row that was asked for, or lets the user choose on a terminal.
`Program.run` gives the `Ending` of a run: what is printed, what is logged, the notes for the user,
and the exit status. The status is 0 when there is something on the output to go on with.

`Program.begin` is the part of a run that needs no terminal, so that a host which reads keys one by
one can take over from there. `Program.runDespite` is a run on a terminal that may fail in the end;
then nothing is printed to go on with, whatever was chosen before.
-/

namespace DirPicker

namespace Program

/-! ### Variables of the environment -/

def homeVariable : Text := "HOME".toList

def historyVariable : Text := "HCD_HISTORY".toList

def pinnedVariable : Text := "HCD_PINNED".toList

def hiddenVariable : Text := "HCD_HIDDEN".toList

def workspacesVariable : Text := "HCD_WORKSPACES".toList

def logVariable : Text := "HCD_LOG".toList

end Program

/-- What the system tells the program about its user. -/
structure Environment where
  /-- The value of a variable, if it is set. -/
  setting : Text → Option Text
  /-- The directory of the user. The system has other ways to know it when no variable tells. -/
  home : Option Text := setting Program.homeVariable

/-- Variables alone are an environment: one of them tells the directory of the user. -/
instance : Coe (Text → Option Text) Environment := ⟨fun setting => { setting }⟩

/-- What the program finds around it. -/
structure Surroundings extends Environment where
  /-- The store whose history is the listing at a source. -/
  store : Source → Store

structure Terminal where
  size : Size
  inputs : List Input

/-- What a terminal fails at once it has been opened. -/
structure Faults where
  /-- Why nothing can be drawn or read behind the last of the inputs. -/
  lost : Option SystemError := none
  /-- Why the terminal cannot be put back as it was. -/
  unrestored : Option SystemError := none
deriving DecidableEq, Repr

structure Ending where
  log : List Log.Event := []
  notes : List Note := []
  /-- The directory that the store was asked to enter. -/
  asked : Option Text := none
  /-- What is printed for the caller. -/
  output : Text := []
  /-- What is printed for the user at the very end. -/
  complaint : Option Text := none
  status : Nat := 0
deriving DecidableEq, Repr

namespace Ending

/-- The ending with what was logged and noted before. -/
def after (e : Ending) (log : List Log.Event) (notes : List Note) : Ending :=
  { e with log := log ++ e.log, notes := notes ++ e.notes }

end Ending

namespace Program

/-! ### Settings -/

/-- What the user has chosen about the list, on the command line or in the environment. -/
def choices (s : Surroundings) (options : Options) : Choices where
  pinned := Setting.orInherited options.pinned (s.setting pinnedVariable)
    (Setting.items Setting.pathSeparator)
  hidden := Setting.orInherited options.hidden (s.setting hiddenVariable)
    (Setting.items Setting.pathSeparator)
  workspaces := Setting.orInherited options.workspaces (s.setting workspacesVariable)
    Setting.definitions

def config (s : Surroundings) (options : Options) : Config where
  store := options.history.map fun name => s.store (Source.ofPath name)
  choices := choices s options
  home := Home.of s.home

/-- The picker with the query as its filter, if there is a query. -/
def narrowed (options : Options) (p : Picker) : Picker :=
  match options.query with
  | some query => p.setFilter query
  | none => p

/-! ### Log -/

def settingEvents (s : Surroundings) (options : Options) : List Log.Event :=
  if options.workspaces.isEmpty then
    ((s.setting workspacesVariable).map Log.ofDefinitions).getD []
  else []

/-- The events up to the moment when the picker is open, or cannot be opened. -/
def openingEvents (s : Surroundings) (options : Options) : List Log.Event :=
  settingEvents s options ++ Log.ofStart (config s options)

def queryEvents (options : Options) : List Log.Event :=
  (options.query.map Log.ofFilter).getD []

/-! ### Endings -/

/-- Lines of text, with a line feed behind each. -/
def printed (lines : List Text) : Text := lines.flatMap (· ++ ['\n'])

def statusOf (success : Bool) : Nat := if success then 0 else 1

/-- The rows are printed; it is a failure if there are none. -/
def listed (p : Picker) : Ending := { output := printed p.rows, status := statusOf !p.isEmpty }

/-- The directory entered is printed; it is a failure if there is none. -/
def chosen (a : Picker.Accepted) : Ending where
  notes := a.notes
  asked := a.asked
  output := printed a.entered.toList
  status := statusOf a.entered.isSome

def noTerminal (cause : SystemError) : Ending where
  complaint := some ("Error: terminal: ".toList ++ cause.message ++ ['\n'])
  status := 1

def faultStatus : Nat := 2

def stopped : CommandLine.Stop → Ending
  | .help => { output := Help.text }
  | .version => { output := printed [Help.version] }
  | .fault fault => { complaint := some (printed (Help.complaint fault)), status := faultStatus }

/-! ### Runs -/

/-- What a run comes to without a terminal. -/
inductive Course
  | ended (ending : Ending)
  /-- The user has to choose. -/
  | asking (log : List Log.Event) (notes : List Note) (session : Session)

/-- Does what the options ask for, up to the question for the user, if it is asked. -/
def Course.ofOptions (s : Surroundings) (options : Options) : Course :=
  let started := Picker.start (config s options)
  let opening := openingEvents s options
  match started.picker with
  | none => .ended { log := opening, notes := started.notes, status := statusOf false }
  | some opened =>
    let picker := narrowed options opened
    let log := opening ++ queryEvents options
    if options.list then .ended ((listed picker).after log started.notes)
    else match options.pick with
      | some index =>
        .ended ((chosen (picker.accept index)).after (log ++ Log.ofAccept picker index)
          started.notes)
      | none => .asking log started.notes (Session.start picker)

/-- Runs the program up to the question for the user, if it is asked. -/
def begin (s : Surroundings) (arguments : List Text) : Course :=
  match CommandLine.parse arguments (s.setting historyVariable) with
  | .error stop => .ended (stopped stop)
  | .ok options => .ofOptions s options

/-- Lets the user choose. A terminal that falls silent is left as it is. -/
def ask (terminal : Except SystemError Terminal) (session : Session) : Ending :=
  match terminal with
  | .error cause => noTerminal cause
  | .ok terminal =>
    let log := Log.ofSession terminal.size session terminal.inputs
    match session.run terminal.size terminal.inputs with
    | .closed result => { chosen result with log }
    | .running _ => { chosen ⟨session.picker, none, none, []⟩ with log }

def Course.finish (terminal : Except SystemError Terminal) : Course → Ending
  | .ended ending => ending
  | .asking log notes session => (ask terminal session).after log notes

def run (s : Surroundings) (terminal : Except SystemError Terminal) (arguments : List Text) :
    Ending :=
  (begin s arguments).finish terminal

/-! ### Terminals that fail -/

/-- Why the terminal fails, if it does so in this session: it is lost while the picker is open, or
cannot be put back. Of two failures the last one counts. -/
def failure? (faults : Faults) (terminal : Terminal) (session : Session) : Option SystemError :=
  match session.run terminal.size terminal.inputs with
  | .closed _ => faults.unrestored
  | .running _ => faults.lost.map faults.unrestored.getD

/-- The ending when the terminal fails in the end: nothing is left to go on with. -/
def spoiled (cause : SystemError) (e : Ending) : Ending :=
  { noTerminal cause with log := e.log, notes := e.notes, asked := e.asked }

/-- Lets the user choose on a terminal that may fail. -/
def askDespite (faults : Faults) (terminal : Except SystemError Terminal) (session : Session) :
    Ending :=
  match terminal with
  | .error cause => noTerminal cause
  | .ok opened =>
    match failure? faults opened session with
    | some cause => spoiled cause (ask terminal session)
    | none => ask terminal session

def Course.finishDespite (faults : Faults) (terminal : Except SystemError Terminal) :
    Course → Ending
  | .ended ending => ending
  | .asking log notes session => (askDespite faults terminal session).after log notes

/-- Runs the program on a terminal that may fail. -/
def runDespite (faults : Faults) (s : Surroundings) (terminal : Except SystemError Terminal)
    (arguments : List Text) : Ending :=
  (begin s arguments).finishDespite faults terminal

theorem askDespite_no_faults (terminal : Except SystemError Terminal) (session : Session) :
    askDespite {} terminal session = ask terminal session := by
  cases terminal with
  | error cause => rfl
  | ok opened =>
    have hnone : failure? {} opened session = none := by
      rw [failure?]
      split <;> rfl
    rw [askDespite, hnone]

/-- Without faults a run is the run on its terminal. -/
theorem runDespite_no_faults (s : Surroundings) (terminal : Except SystemError Terminal)
    (arguments : List Text) : runDespite {} s terminal arguments = run s terminal arguments := by
  rw [runDespite, run]
  cases begin s arguments with
  | ended ending => rfl
  | asking log notes session =>
    rw [Course.finishDespite, Course.finish, askDespite_no_faults]

end Program

namespace Ending

/-- What is printed for the user besides the screen: what the log lets through, the notes, and the
complaint. `time` stands in front of each line of the log. -/
def errors (e : Ending) (rules : Log.Rules) (time : Text) : Text :=
  Program.printed ((e.log.filter rules.allow).map fun event => time ++ ' ' :: event.line) ++
    Program.printed (e.notes.map ("hcd: ".toList ++ ·)) ++ e.complaint.getD []

end Ending

end DirPicker
