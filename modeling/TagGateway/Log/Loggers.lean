import TagGateway.Log.Files
import TagGateway.Log.Record
import TagGateway.Settings.Validation
import TagGateway.Tree

/-!
# The set-up of the log

Records go to handlers: those of the root logger see all records from a level on, and two
components of the gateway have files of their own besides. The loggers outlive a set-up, so a
set-up takes down what an earlier one has put up.

* `Loggers.assemble` sets the handlers up as far as it goes, in this order: the level and the
  handlers of the root logger, then the files of the components. `Loggers.construct` does so from
  what is wished for, and `Loggers.setUp` gives the loggers of a set-up that came to its end.
* `Loggers.log` hands a record to the handlers.
-/

namespace TagGateway.Log

/-- Where a handler writes to. -/
inductive Sink
  | terminal
  | file (f : RotatingFile)
  | system
  /-- A handler that the gateway has not set up. -/
  | foreign (name : String)
deriving DecidableEq, Repr

/-- A handler: it takes records from a level on. -/
structure Handler where
  sink : Sink
  layout : Layout
  level : Int
deriving DecidableEq, Repr

/-- Whether a handler writes to a file that gives way when it is full. -/
def Handler.isRotating (h : Handler) : Bool :=
  match h.sink with
  | .file _ => true
  | _ => false

/-- What has been written. -/
structure Output where
  files : Files := {}
  terminal : String := ""
  system : List String := []

/-- Hand a record to a handler. -/
def Handler.take (h : Handler) (o : Origin) (r : Record) (out : Output) :
    Except Fault (Handler × Output) := do
  if r.level < h.level then return (h, out)
  let line ← h.layout.line o r
  match h.sink with
  | .terminal => return (h, { out with terminal := out.terminal ++ line ++ "\n" })
  | .system => return (h, { out with system := out.system ++ [line] })
  | .file f =>
    let (f, files) := f.write out.files line
    return ({ h with sink := .file f }, { out with files })
  | .foreign _ => return (h, out)

/-- Hand a record to handlers, one after the other. -/
def takeAll (o : Origin) (r : Record) :
    List Handler → Output → Except Fault (List Handler × Output)
  | [], out => .ok ([], out)
  | h :: rest, out => do
    let (h, out) ← h.take o r out
    let (rest, out) ← takeAll o r rest out
    return (h :: rest, out)

/-- The components with files of their own. -/
inductive Component
  | radio | metrics
deriving DecidableEq, Repr

namespace Component

/-- The logger of a component. -/
def logger : Component → String
  | radio => "ruuvi_gateway.ble"
  | metrics => "ruuvi_gateway.metrics"

/-- The name of the file of a component. -/
def fileName : Component → String
  | radio => "ble.log"
  | metrics => "metrics.log"

/-- The tag of a component in its file. -/
def tag : Component → String
  | radio => "BLE"
  | metrics => "METRICS"

/-- All components. -/
def all : List Component := [radio, metrics]

/-- Whether a logger is that of a component or below it. -/
def owns (c : Component) (logger : String) : Bool :=
  logger == c.logger || (c.logger ++ ".").isPrefixOf logger

end Component

/-- What is said about a set-up of the log. -/
structure Wishes where
  app : Value := .text "ruuvi_gateway"
  directory : Value := .text "./logs"
  level : Value := .text "INFO"
  fileSize : Value := .int (10 * 1024 * 1024)
  backups : Value := .int 5
  terminal : Value := .bool true
  system : Value := .bool false

namespace Wishes

/-- The wishes with one more, which is given by name. -/
def fill (w : Wishes) (name : String) (v : Value) : Except Fault Wishes :=
  match name with
  | "app_name" => .ok { w with app := v }
  | "log_dir" => .ok { w with directory := v }
  | "log_level" => .ok { w with level := v }
  | "max_file_size" => .ok { w with fileSize := v }
  | "backup_count" => .ok { w with backups := v }
  | "enable_console" => .ok { w with terminal := v }
  | "enable_syslog" => .ok { w with system := v }
  | "self" => .error (.takenField "ProductionLogger" name)
  | _ => .error (.unknownField "ProductionLogger" name)

/-- The wishes that are given by name. -/
def ofFields (fields : List (String × Value)) : Except Fault Wishes :=
  fields.foldlM (fun w (name, v) => w.fill name v) {}

/-- What settings say about the set-up of the log. -/
def ofSettings (s : Settings) : Except Fault Wishes := do
  return {
    level := ← s.logLevel
    directory := .text (← s.logDirectory)
    fileSize := .int (← s.logFileSize)
    backups := .int (← s.logBackups)
    terminal := .bool (← s.logConsole)
    system := .bool (← s.logSyslog) }

end Wishes

/-- What a set-up of the log is made from. -/
structure Setup where
  /-- The directory of the program. -/
  here : String
  /-- The files of the host before the set-up, as far as they are known. -/
  host : Disk
  app : String
  directory : String
  level : Named
  fileSize : Value
  backups : Option Int
  terminal : Bool
  system : Bool

/-- How many backups a value asks for. A number with a fraction asks for none if it is not
positive, and else for none that can be counted. -/
def backupsOf : Value → Option Int
  | .float x => if 0 < x then none else some 0
  | v => v.asInt?

/-- The size at which a log file is full. It is compared with whole numbers only, so that a
fraction counts as one more; what is not finite is never reached. -/
def limitOf (v : Value) : Except Fault Int :=
  match v.number? with
  | none => .error (.unordered ">" v.kind .int)
  | some (.whole n) => .ok n
  | some (.real x) =>
    match Decimal.finite? x.ceil with
    | some v => .ok v.truncate
    | none => .ok 0

/-- The set-up that is made from what is said, for a program in a directory of a host. -/
def Wishes.setup (w : Wishes) (here : String) (host : Disk := {}) : Except Fault Setup := do
  let directory ← match w.directory with
    | .text directory => .ok directory
    | v => .error (.notPath v.kind)
  return {
    here, host, directory, app := w.app.display, level := ← levelNamed w.level
    fileSize := w.fileSize, backups := backupsOf w.backups
    terminal := w.terminal.isTrue, system := w.system.isTrue }

namespace Setup

/-- The directory of the log files as it is written, read from the directory of the program unless
it is there already. -/
def written (s : Setup) : Path :=
  let (here, directory) := (Path.ofText s.here, Path.ofText s.directory)
  if here.parts.isPrefixOf directory.parts then directory else here.join directory

/-- The directory of the log files. -/
def place (s : Setup) : Path := s.written.collapsed

/-- The path of a log file. -/
def filePath (s : Setup) (name : String) : Path := (s.written.join (Path.ofText name)).collapsed

/-- The name of the file of all records. -/
def fileName (s : Setup) : String := s.app ++ ".log"

/-- The directories that are there before the set-up. -/
def disk (s : Setup) : Disk := s.host.grow (Path.ofText s.here)

/-- Whether the directory of the log files can be made. -/
def checkDirectory (s : Setup) : Except Fault Unit :=
  s.disk.checkDirectories (Path.ofText s.directory)

/-- The directories that are there once that of the log files is made, with all directories that
its path leads through. -/
def grownDisk (s : Setup) : Disk :=
  s.written.prefixes.foldl (fun d p => d.grow p.collapsed) s.disk

/-- Whether a log file can be opened. -/
def checkFile (s : Setup) (name : String) : Except Fault Unit :=
  s.grownDisk.checkFile (s.filePath name)

end Setup

/-- The loggers with their handlers, and what they have written. -/
structure Loggers where
  /-- The level from which on records are logged. -/
  level : Int := 30
  root : List Handler := []
  radio : List Handler := []
  metrics : List Handler := []
  out : Output := {}

namespace Loggers

/-- The handlers of a component. -/
def component (l : Loggers) : Component → List Handler
  | .radio => l.radio
  | .metrics => l.metrics

/-- Give a component its handlers. -/
def setComponent (l : Loggers) (hs : List Handler) : Component → Loggers
  | .radio => { l with radio := hs }
  | .metrics => { l with metrics := hs }

/-- Hand a record to the handlers of a component. -/
def logTo (o : Origin) (r : Record) (l : Loggers) (c : Component) : Except Fault Loggers := do
  let (hs, out) ← takeAll o r (l.component c) l.out
  return { l.setComponent hs c with out }

/-- Log a record: first with the component whose logger it is given to, then with the root. A
record whose level is not positive is never logged. -/
def log (l : Loggers) (o : Origin) (r : Record) : Except Fault Loggers := do
  if r.level ≤ 0 || r.level < l.level then return l
  let l ← (Component.all.filter (·.owns r.logger)).foldlM (logTo o r) l
  let (root, out) ← takeAll o r l.root l.out
  return { l with root, out }

end Loggers

/-- Work on the loggers. It may end with a fault, and then leaves them as they are by that time. -/
abbrev Work := EStateM Fault Loggers

namespace Loggers

/-- Put up a handler of the root logger. -/
def addRoot (h : Handler) : Work Unit := modify fun l => { l with root := l.root ++ [h] }

/-- Open a log file of a set-up. -/
def openFile (s : Setup) (name : String) : Work RotatingFile := do
  let limit ← ofExcept (limitOf s.fileSize)
  ofExcept (s.checkFile name)
  let path := s.filePath name
  modifyGet fun l =>
    let (f, files) :=
      RotatingFile.opened (path.parent.text, path.lastPart) limit s.backups l.out.files
    (f, { l with out := { l.out with files } })

/-- Take down the log file that a component has, and put up the one of a set-up. -/
def setUpComponent (s : Setup) (c : Component) : Work Unit := do
  modify fun l => l.setComponent ((l.component c).filter (!·.isRotating)) c
  let f ← openFile s c.fileName
  modify fun l => l.setComponent (l.component c ++ [⟨.file f, .component c.tag, 0⟩]) c

/-- Put up the handler for the log of the system. Without that log a warning is logged. -/
def setUpSystem (s : Setup) (failure : Option String) (o : Origin) : Work Unit :=
  match failure with
  | none => addRoot ⟨.system, .system s.app, 30⟩
  | some message => do
    set (← ofExcept ((← get).log o
      { logger := "root", level := 30
        message := .text ("Could not setup syslog handler: " ++ message) }))

/-- Take down all handlers of the root logger, and put up those of a set-up, which log from a level
on. -/
def setUpRoot (s : Setup) (level : Int) (failure : Option String) (o : Origin) : Work Unit := do
  modify fun l => { l with level, root := [] }
  if s.terminal then addRoot ⟨.terminal, .terminal, level⟩
  addRoot ⟨.file (← openFile s s.fileName), .general, level⟩
  if s.system then setUpSystem s failure o

/-- Set up the log as far as it goes. The log of the system fails with a message, or works. -/
def assemble (s : Setup) (failure : Option String) (o : Origin) : Work Unit := do
  ofExcept s.checkDirectory
  setUpRoot s (← ofExcept s.level.number) failure o
  Component.all.forM (setUpComponent s)

/-- Set up the log. -/
def setUp (s : Setup) (failure : Option String) (o : Origin) (l : Loggers) :
    Except Fault Loggers :=
  match assemble s failure o l with
  | .ok _ l => .ok l
  | .error f _ => .error f

/-- Set up the log as it is wished for by a program in a directory of a host. Wishes that cannot be
read end the work before it begins. -/
def construct (w : Wishes) (here : String) (host : Disk) (failure : Option String) (o : Origin) :
    Work Unit := do
  assemble (← ofExcept (w.setup here host)) failure o

end Loggers

end TagGateway.Log
