import TagGateway.Blacklist
import TagGateway.Settings.Lookup

/-!
# The settings of the gateway

* `Setting` lists the settings; each has a key, and a function below reads it.
* `Settings.flaws` lists what is wrong; `Settings.validate` refuses settings with flaws.
* `Settings.summary` shows the settings by section.
-/

namespace TagGateway

/-- The settings of the gateway. -/
inductive Setting
  | adapter | retryAttempts | retryDelay | blacklist | strict | address | port | hostStatistics
  | logLevel | logDirectory | logFileSize | logBackups | logConsole | logSyslog | logPackets
deriving DecidableEq, Repr

/-- The key of a setting. -/
def Setting.key : Setting → String
  | adapter => "BLE_ADAPTER"
  | retryAttempts => "BLE_RETRY_ATTEMPTS"
  | retryDelay => "BLE_RETRY_DELAY"
  | blacklist => "BLE_BLACKLIST"
  | strict => "DECODE_STRICT"
  | address => "EXPOSER_ADDRESS"
  | port => "EXPOSER_PORT"
  | hostStatistics => "SYSINFO_ENABLED"
  | logLevel => "LOG_LEVEL"
  | logDirectory => "LOG_DIR"
  | logFileSize => "LOG_MAX_FILE_SIZE"
  | logBackups => "LOG_BACKUP_COUNT"
  | logConsole => "LOG_ENABLE_CONSOLE"
  | logSyslog => "LOG_ENABLE_SYSLOG"
  | logPackets => "LOG_PACKETS"

namespace Settings

/-- The name of the adapter. -/
def adapter (s : Settings) : Except Fault Value := s.text Setting.adapter.key (some (.text "hci0"))

/-- How often discovery is started again after it was lost. -/
def retryAttempts (s : Settings) : Except Fault Int := s.whole Setting.retryAttempts.key (some 2)

/-- How many seconds pass before a restart of discovery. -/
def retryDelay (s : Settings) : Except Fault Float := s.real Setting.retryDelay.key (some 1)

/-- The addresses to ignore, as they are written. -/
def blacklist (s : Settings) : Except Fault (List String) := s.list Setting.blacklist.key

/-- Whether a payload with any flaw is refused. -/
def strict (s : Settings) : Except Fault Bool := s.switch Setting.strict.key (some false)

/-- The address at which metrics are served. -/
def address (s : Settings) : Except Fault Value :=
  s.text Setting.address.key (some (.text "0.0.0.0"))

/-- The port at which metrics are served. -/
def port (s : Settings) : Except Fault Int := s.whole Setting.port.key (some 9105)

/-- Whether numbers of the host are among the metrics. -/
def hostStatistics (s : Settings) : Except Fault Bool :=
  s.switch Setting.hostStatistics.key (some true)

/-- The level at which the log is cut, in upper case. -/
def logLevel (s : Settings) : Except Fault Value := do
  (← s.text Setting.logLevel.key (some (.text "INFO"))).upper

/-- The directory of the log files. -/
def logDirectory (s : Settings) : Except Fault String :=
  s.path Setting.logDirectory.key (some "./logs")

/-- The size at which a log file is full. -/
def logFileSize (s : Settings) : Except Fault Int :=
  s.whole Setting.logFileSize.key (some (10 * 1024 * 1024))

/-- How many full log files are kept. -/
def logBackups (s : Settings) : Except Fault Int := s.whole Setting.logBackups.key (some 5)

/-- Whether the log is shown on the console. -/
def logConsole (s : Settings) : Except Fault Bool := s.switch Setting.logConsole.key (some true)

/-- Whether warnings go to the log of the system. -/
def logSyslog (s : Settings) : Except Fault Bool := s.switch Setting.logSyslog.key (some false)

/-- Whether every packet is logged. -/
def logPackets (s : Settings) : Except Fault Bool := s.switch Setting.logPackets.key (some false)

/-- A setting as a value. -/
def value (s : Settings) : Setting → Except Fault Value
  | .adapter => s.adapter
  | .retryAttempts => s.retryAttempts.map .int
  | .retryDelay => s.retryDelay.map .float
  | .blacklist => s.blacklist.map fun items => .list (items.map .text)
  | .strict => s.strict.map .bool
  | .address => s.address
  | .port => s.port.map .int
  | .hostStatistics => s.hostStatistics.map .bool
  | .logLevel => s.logLevel
  | .logDirectory => s.logDirectory.map .text
  | .logFileSize => s.logFileSize.map .int
  | .logBackups => s.logBackups.map .int
  | .logConsole => s.logConsole.map .bool
  | .logSyslog => s.logSyslog.map .bool
  | .logPackets => s.logPackets.map .bool

/-- The flaws that a group of checks finds. A setting with a flaw that keeps it from being read
ends its group; another fault ends the validation. -/
def groupFlaws : List (Except Fault (Option Flaw)) → Except Fault (List Flaw)
  | [] => .ok []
  | .error (.setting flaw) :: _ => .ok [flaw]
  | .error f :: _ => .error f
  | .ok flaw :: rest => (groupFlaws rest).map (flaw.toList ++ ·)

/-- A check of a setting that has been read: the flaw is there if the test says so. -/
def flawIf {α : Type} (flaw : Flaw) (test : α → Bool) (read : Except Fault α) :
    Except Fault (Option Flaw) :=
  read.map fun v => if test v then some flaw else none

/-- What is wrong with the settings of the adapter. -/
def radioFlaws (s : Settings) : Except Fault (List Flaw) :=
  groupFlaws [
    flawIf .emptyAdapter (!·.isTrue) s.adapter,
    flawIf .negativeAttempts (· < 0) s.retryAttempts,
    flawIf .negativeDelay (fun d => decide (d < 0)) s.retryDelay]

/-- The items of the blacklist that write no address. -/
def blacklistFlaws (s : Settings) : Except Fault (List Flaw) :=
  s.blacklist.map fun items =>
    (items.filter fun item => (Address.canonical? item).isNone).map .badAddress

/-- What is wrong with the port. -/
def portFlaws (s : Settings) : Except Fault (List Flaw) :=
  groupFlaws [flawIf .portRange (fun p => p < 1 || p > 65535) s.port]

/-- Whether a value is the name of a level that the log can be cut at. -/
def isLevelName : Value → Bool
  | .text name => levelNames.contains name
  | _ => false

/-- What is wrong with the settings of the log. -/
def logFlaws (s : Settings) : Except Fault (List Flaw) :=
  groupFlaws [
    flawIf .unknownLevel (!isLevelName ·) s.logLevel,
    flawIf .negativeBackups (· < 0) s.logBackups]

/-- What is wrong with the settings. -/
def flaws (s : Settings) : Except Fault (List Flaw) := do
  return (← s.radioFlaws) ++ (← s.blacklistFlaws) ++ (← s.portFlaws) ++ (← s.logFlaws)

/-- Refuse settings that have flaws. -/
def validate (s : Settings) : Except Fault Unit := do
  match ← s.flaws with
  | [] => return
  | flaws => throw (.settings flaws)

/-- The settings of the summary: sections with names. -/
def sections : List (String × List (String × Setting)) :=
  [("ble", [("adapter", .adapter), ("retry_attempts", .retryAttempts),
      ("retry_delay", .retryDelay), ("blacklist", .blacklist)]),
    ("decoding", [("strict", .strict)]),
    ("exposer", [("address", .address), ("port", .port), ("sysinfo_enabled", .hostStatistics)]),
    ("logging", [("level", .logLevel), ("dir", .logDirectory), ("enable_console", .logConsole),
      ("enable_syslog", .logSyslog), ("log_packets", .logPackets)])]

/-- The settings by section, or the first one that cannot be read. -/
def summary (s : Settings) : Except Fault (List (String × List (String × Value))) :=
  sections.mapM fun (name, entries) => do
    let values ← entries.mapM fun (key, setting) => return (key, ← s.value setting)
    return (name, values)

end Settings

end TagGateway
