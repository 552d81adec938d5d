/-!
# Commands and switches

* `CommandName` lists the commands; `Scope` is the program itself or one of its commands.
* `Switch` lists the switches that may stand among the words of a command line; `switchesOf` says
  which of them a scope has.
-/

namespace TagGateway.CommandLine

/-- The commands. -/
inductive CommandName
  | check | config | decode | run
deriving DecidableEq, Repr

namespace CommandName

/-- The word for a command. -/
def word : CommandName → String
  | check => "check"
  | config => "config"
  | decode => "decode"
  | run => "run"

/-- All commands. -/
def all : List CommandName := [check, config, decode, run]

/-- The command that a word names. -/
def ofWord? (word : String) : Option CommandName := all.find? (·.word == word)

/-- What a command does. -/
def purpose : CommandName → String
  | check => "Check the Bluetooth service, adapter and permissions."
  | config => "Show the effective configuration."
  | decode => "Decode a hex encoded manufacturer data PAYLOAD."
  | run => "Run the gateway until interrupted."

end CommandName

/-- Where a switch stands: after the program, or after a command. -/
abbrev Scope := Option CommandName

/-- The switches. -/
inductive Switch
  | help | version | envFile
  | adapter | port | address | blacklist | noHostStatistics | strict
  | mac | manufacturer | signalStrength
deriving DecidableEq, Repr

namespace Switch

/-- The name of a switch. -/
def name : Switch → String
  | help => "--help"
  | version => "--version"
  | envFile => "--env-file"
  | adapter => "--adapter"
  | port => "--port"
  | address => "--address"
  | blacklist => "--blacklist"
  | noHostStatistics => "--no-sysinfo"
  | strict => "--strict"
  | mac => "--mac"
  | manufacturer => "--manufacturer-id"
  | signalStrength => "--rssi"

/-- The letter that stands for a switch, if one does. -/
def letter? : Switch → Option Char
  | adapter => some 'a'
  | port => some 'p'
  | blacklist => some 'b'
  | _ => none

/-- What a switch takes as its value, if it takes one. -/
def takes? : Switch → Option String
  | help | version | noHostStatistics | strict => none
  | envFile => some "FILE"
  | adapter | address | blacklist | mac | manufacturer => some "TEXT"
  | port | signalStrength => some "INTEGER"

/-- Whether a switch takes a value. -/
def takesValue (s : Switch) : Bool := s.takes?.isSome

/-- Whether a switch is obeyed before all that is asked for otherwise. -/
def isUrgent : Switch → Bool
  | help | version => true
  | _ => false

/-- The switch as it is named in complaints. -/
def hint (s : Switch) : String :=
  " / ".intercalate
    (("'" ++ s.name ++ "'") :: s.letter?.toList.map fun c => "'-" ++ String.ofList [c] ++ "'")

end Switch

/-- The switches of a scope, with what they are for. -/
def switchesOf : Scope → List (Switch × String)
  | none => [
    (.version, "Show the version and exit."),
    (.envFile, "Environment file to load (default: ./.env)"),
    helpEntry]
  | some .run => [
    adapterEntry,
    (.port, "Metrics port"),
    (.address, "Metrics bind address"),
    (.blacklist, "MAC address to ignore (repeatable)"),
    (.noHostStatistics, "Do not export host statistics"),
    (.strict, "Drop packets with any invalid field"),
    helpEntry]
  | some .decode => [
    (.mac, "Receiver MAC address (default: the MAC inside a format 5 payload)"),
    (.manufacturer, "Manufacturer id the payload was advertised with  [default: 0x499]"),
    (.signalStrength, "Signal strength to attach"),
    (.strict, "Fail on the first invalid field"),
    helpEntry]
  | some .config => [helpEntry]
  | some .check => [adapterEntry, helpEntry]
where
  /-- The switch that every scope has. -/
  helpEntry := (.help, "Show this message and exit.")
  /-- The switch that names an adapter. -/
  adapterEntry := (.adapter, "Bluetooth adapter, e.g. hci0")

end TagGateway.CommandLine
