import DirPicker.Keyboard
import DirPicker.Program

/-!
# The command

The program as a command: it collects what `Program.runDespite` asks about, and prints the ending.

A run is a function of its surroundings, and the only answer that cannot be collected beforehand is
whether the chosen directory can be entered. So the run is made twice: once with every directory
open, to learn which one is asked for, and once with the answer for that one.

The terminal has to hand on keys one by one and without showing them; the shell function that calls
the command sees to that.
-/

namespace DirPicker.Command

/-! ### Failures -/

/-- The failure of the system that an error tells of. Some actions report its number with a minus
sign. -/
def causeOf : IO.Error → SystemError
  | .alreadyExists _ code details | .inappropriateType _ code details
  | .interrupted _ code details | .invalidArgument _ code details
  | .noFileOrDirectory _ code details | .noSuchThing _ code details
  | .permissionDenied _ code details | .resourceExhausted _ code details
  | .hardwareFault code details | .illegalOperation code details | .otherError code details
  | .protocolError code details | .resourceBusy code details | .resourceVanished code details
  | .timeExpired code details | .unsatisfiedConstraints code details
  | .unsupportedOperation code details =>
    match code.toInt32.toInt.natAbs with
    | 2 => .notFound
    | 6 => .noDevice
    | 20 => .notDirectory
    | 21 => .isDirectory
    | 36 => .nameTooLong
    | 40 => .linkLoop
    | n => .other (details.toList ++ " (os error ".toList ++ Text.ofNat n ++ [')'])
  | .unexpectedEof => .other "unexpected end of file".toList
  | .userError message => .other message.toList

def attempt {α : Type} (action : IO α) : IO (Except SystemError α) := do
  try return .ok (← action)
  catch e => return .error (causeOf e)

/-! ### Files and directories -/

partial def readAll (stream : IO.FS.Stream) (read : ByteArray) : IO ByteArray := do
  let chunk ← stream.read 65536
  if chunk.isEmpty then return read else readAll stream (read ++ chunk)

def readListing (source : Source) : IO (Except StoreError Text) := do
  let bytes ← match source with
    | .stdin => attempt do readAll (← IO.getStdin) .empty
    | .file path =>
      if '\x00' ∈ path then pure (.error .nulInName)
      else attempt (IO.FS.readBinFile (String.ofList path))
  return (bytes.bind decodeText).mapError (.read source.name)

def workingDir : IO (Except StoreError Text) := do
  let dir ← attempt IO.currentDir
  return (dir.map (·.toString.toList)).mapError .workingDir

/-- Whether a directory can be entered, or why not. -/
def canEnter (dir : Text) : IO (Except StoreError Unit) := do
  if dir.isEmpty then return .error (.enter dir .notFound)
  if '\x00' ∈ dir then return .error (.enter dir .nulInName)
  let opened ← attempt (IO.FS.Handle.mk (String.ofList (dir ++ ['/', '.'])) .read)
  return (opened.map fun _ => ()).mapError (.enter dir)

/-! ### The environment -/

def readSettings : IO (Text → Option Text) := do
  let names := [Program.homeVariable, Program.historyVariable, Program.pinnedVariable,
    Program.hiddenVariable, Program.workspacesVariable, Program.logVariable]
  let values ← names.mapM fun name => do
    return (name, (← IO.getEnv (String.ofList name)).map String.toList)
  return fun name => (values.find? (·.1 = name)).bind (·.2)

/-- The directory that the system has on record for the user who runs the program. -/
def readAccount : IO (Option Text) := do
  let fieldsOf (separator : Char) (content : String) : List (List Text) :=
    (Text.pieces '\n' content.toList).map (Text.pieces separator)
  let status := fieldsOf '\t' (← IO.FS.readFile "/proc/self/status")
  let accounts := fieldsOf ':' (← IO.FS.readFile "/etc/passwd")
  return do
    let user ← (← status.find? (·.head? = some "Uid:".toList))[1]?
    (← accounts.find? (·[2]? = some user))[5]?

/-- The directory of the user: the one that the environment names, or else the one on record. -/
def readHome (setting : Text → Option Text) : IO (Option Text) := do
  match setting Program.homeVariable with
  | none | some [] => return (← attempt readAccount).toOption.join
  | some home => return some home

/-- The store that the arguments ask for, with `enter` as the answer about every directory. -/
def readStore (setting : Text → Option Text) (arguments : List Text) :
    IO ((enter : Text → Except StoreError Unit) → Store) := do
  match CommandLine.parse arguments (setting Program.historyVariable) with
  | .ok { history := some name, .. } =>
    let listing ← readListing (Source.ofPath name)
    let dir ← workingDir
    return Store.ofListing dir listing
  | _ => return Store.ofListing (.ok []) (.ok [])

/-! ### The terminal -/

def readCount (name : String) (otherwise : Nat) : IO Nat := do
  return ((← IO.getEnv name).bind (Text.readNat? ·.toList)).getD otherwise

def readSize : IO Size := do return ⟨← readCount "COLUMNS" 80, ← readCount "LINES" 24⟩

def control (body : String) : String := "\x1b[" ++ body

def paint (frame : Frame) : String :=
  let lines := frame.lines.mapIdx fun n line =>
    let reversed := frame.reversed.contains n
    control (toString (n + 1) ++ ";1H") ++ control "K" ++
      (if reversed then control "7m" else "") ++ String.ofList line ++
      (if reversed then control "0m" else "")
  String.join lines ++
    control (toString (frame.cursor.2 + 1) ++ ";" ++ toString (frame.cursor.1 + 1) ++ "H")

/-- Shows a session on the terminal and reads keys until the picker closes or the terminal fails.
Gives all inputs, and the failure. -/
partial def converse (keys : IO.FS.Handle) (size : Size) (session : Session) (done : List Input) :
    IO (List Input × Option SystemError) := do
  let read ← attempt do
    (← IO.getStderr).putStr (paint (session.frame size))
    (← IO.getStderr).flush
    keys.read 4096
  match read with
  | .error cause => return (done, some cause)
  | .ok bytes =>
    if bytes.isEmpty then return (done, none)
    let arrived := match decodeText bytes with
      | .ok t => Keyboard.inputs t
      | .error _ => [.other]
    match session.run size arrived with
    | .running next => converse keys size next (done ++ arrived)
    | .closed _ => return (done ++ arrived, none)

/-- Lets the user choose on the terminal. -/
def useTerminal (session : Session) : IO (Except SystemError Terminal × Faults) := do
  let opened ← attempt do
    let keys ← IO.FS.Handle.mk "/dev/tty" .read
    let size ← readSize
    (← IO.getStderr).putStr (control "?1049h")
    return (keys, size)
  match opened with
  | .error cause => return (.error cause, {})
  | .ok (keys, size) =>
    let (inputs, lost) ← converse keys size session []
    let unrestored ← match ← attempt do (← IO.getStderr).putStr (control "?1049l") with
      | .ok _ => pure none
      | .error cause => pure (some cause)
    return (.ok ⟨size, inputs⟩, ⟨lost, unrestored⟩)

/-! ### The run -/

/-- Runs the program and prints the ending. Gives the exit status. -/
def run (arguments : List Text) : IO Nat := do
  let setting ← readSettings
  let home ← readHome setting
  let store ← readStore setting arguments
  let surroundings (enter : Except StoreError Unit) : Surroundings :=
    { setting, home, store := fun _ => store fun _ => enter }
  let trial := surroundings (.ok ())
  let (terminal, faults) ← match Program.begin trial arguments with
    | .ended _ => pure (.error .noDevice, {})
    | .asking _ _ session => useTerminal session
  let answer ← match (Program.runDespite faults trial terminal arguments).asked with
    | some dir => canEnter dir
    | none => pure (.ok ())
  let ending := Program.runDespite faults (surroundings answer) terminal arguments
  let time := Text.ofNat (← IO.monoMsNow)
  let rules := Log.Rules.ofSetting (setting Program.logVariable)
  (← IO.getStderr).putStr (String.ofList (ending.errors rules time))
  (← IO.getStdout).putStr (String.ofList ending.output)
  return ending.status

end DirPicker.Command

def main (arguments : List String) : IO UInt32 := do
  return .ofNat (← DirPicker.Command.run (arguments.map String.toList))
