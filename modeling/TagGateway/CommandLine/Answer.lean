import TagGateway.Checkup.Checks
import TagGateway.CommandLine.Report
import TagGateway.CommandLine.Request
import TagGateway.Decimal.Numeral
import TagGateway.Payload.Decode
import TagGateway.Payload.Hex
import TagGateway.Settings.Validation

/-!
# Commands carried out

* `decodeReport`, `configReport`, `checkReport` and `runReport` carry out the commands.
* `answer` carries out a command line.
-/

namespace TagGateway.CommandLine

/-- What stands under a name on the file system. -/
inductive Entry
  | absent
  | directory
  | file (text : String)
  /-- The name cannot be looked up. -/
  | barred (fault : Fault)
deriving DecidableEq, Repr

/-- The text to load from an entry: a directory counts as an empty file. -/
def Entry.content? : Entry → Except Fault (Option String)
  | absent => .ok none
  | directory => .ok (some "")
  | file text => .ok (some text)
  | barred fault => .error fault

/-- What stands under a name on a disk. A name that leads to a file only once
it is tidied counts as an empty file. -/
def Entry.onDisk (disk : Disk) (name : String) : Entry :=
  if name.isEmpty then .absent
  else if name.contains '\x00' then .barred .nullCharacter
  else
    let path := Path.ofText name
    match disk.walk path, disk.walkText name with
    | .nothing, _ => .absent
    | .tooLong, _ => .barred (.nameTooLong path.text)
    | .tree _, .tree (.directory _) => .directory
    | .tree t, .tree (.file _) => .file ((t.readText name).toOption.getD "")
    | .tree _, .tree (.barred fault) => .barred fault
    | .tree _, _ => .file ""

/-- Where a command is given. -/
structure Site where
  place : Surroundings
  host : Host
  look : String → Entry

/-- The settings after a file of variables has been loaded: the named one, or that of the
directory. -/
def Site.settings (site : Site) (envFile : Option String) : Except Fault Settings := do
  let name := envFile.getD ((Path.ofText site.place.directory).join (Path.ofText ".env")).text
  let (place, _) ← site.place.loadFile name (← (site.look name).content?)
  return { place }

/-! ## Decoding -/

/-- The address that a payload of data format 5 carries. -/
def embeddedAddress (data : List UInt8) : String :=
  if Payload.format5Size ≤ data.length ∧ data.head? = some 5 then
    Address.ofBytes ((data.drop 18).take 6)
  else ""

/-- The advertisement that is to be decoded. -/
def DecodeOptions.advertisement (o : DecodeOptions) : Except UsageFault Advertisement :=
  match Payload.ofHex? o.payload, Decimal.readNumeral? o.manufacturer with
  | none, _ => .error (.notHexadecimal o.payload)
  | _, none => .error (.notNumber o.manufacturer)
  | some payload, some manufacturer =>
    .ok {
      mac := Text.upper (o.mac.getD (embeddedAddress payload))
      manufacturer := .int manufacturer, payload
      signalStrength := o.signalStrength }

/-- A measured value with its unit. -/
def inUnit (value unit : String) : String := if unit.isEmpty then value else value ++ " " ++ unit

/-- The rows of a measurement. -/
def measurementRows (m : Measurement) : List (String × Phrase) :=
  let row (label : String) (n : Number) (unit : String) : String × Phrase :=
    (label, ⟨inUnit n.text unit, .neutral⟩)
  [("MAC", if m.mac.isEmpty then ⟨"mismatch", .bad⟩ else ⟨m.mac, .neutral⟩),
    row "Temperature" m.temperature "°C",
    row "Humidity" m.humidity "%",
    row "Pressure" m.pressure "Pa",
    row "Battery voltage" m.batteryVoltage "V"] ++
  (match m.transmission with
    | none => []
    | some t => [
      row "Tx power" t.txPower "dBm",
      row "Movement counter" t.movementCounter "",
      row "Measurement sequence" t.sequence ""]) ++
  m.accelerationTotal.toOption.toList.map (fun x => row "Acceleration total" (.real x) "g") ++
  [row "Acceleration X" m.acceleration.x "g",
    row "Acceleration Y" m.acceleration.y "g",
    row "Acceleration Z" m.acceleration.z "g",
    row "RSSI" m.signalStrength "dBm"]

/-- The table of a measurement. -/
def measurementTable (m : Measurement) : Table where
  title := "Ruuvi data format " ++ toString m.tag
  columns := ["Field", "Value"]
  rows := (measurementRows m).map fun (label, value) => [⟨label, .neutral⟩, value]

/-- Carry out the command to decode. -/
def decodeReport (o : DecodeOptions) : Except UsageFault Report := do
  let a ← o.advertisement
  match Payload.decode (if o.strict then .strict else .lenient) a with
  | .error f => return .failure [] f.message
  | .ok none =>
    return .failure [] ("Not a supported Ruuvi payload: " ++ (Payload.identify a).name) .doubtful
  | .ok (some m) =>
    return {
      shown := .table (measurementTable m) ::
        (if m.flawed then [.line ⟨"Errors: " ++ m.report, .bad⟩] else []) }

/-! ## Settings -/

/-- A setting as it is shown. -/
def settingText : Value → String
  | .list [] => "-"
  | .list items => ", ".intercalate (items.map Value.display)
  | v => v.display

/-- The table of the settings. -/
def settingsTable (summary : List (String × List (String × Value))) : Table where
  title := "Configuration"
  columns := ["Section", "Setting", "Value"]
  rows := summary.flatMap fun (name, entries) =>
    entries.map fun (key, value) => [⟨name, .neutral⟩, ⟨key, .neutral⟩,
      ⟨settingText value, .neutral⟩]

/-- Carry out the command to show the settings. -/
def configReport (s : Settings) : Report :=
  match s.summary with
  | .error f => .failure [] f.message
  | .ok summary =>
    let table := Shown.table (settingsTable summary)
    match s.validate with
    | .error f => .failure [table] f.message
    | .ok () => { shown := [table, .line ⟨"Configuration is valid", .good⟩] }

/-! ## Checkup -/

/-- The row of a finding. -/
def findingRow (f : Checkup.Finding) : List Phrase :=
  [if f.passed then ⟨"OK", .good⟩ else ⟨"FAIL", .bad⟩, ⟨f.message, .neutral⟩]

/-- Carry out the command to check the host for an adapter. -/
def checkReport (adapter : Value) (host : Host) : Report :=
  let (found, _) := Checkup.findings adapter host
  { shown := [.table ⟨"Bluetooth checks (" ++ adapter.display ++ ")", ["Status", "Check"],
      found.map findingRow⟩]
    ending := .exit (if found.all (·.passed) then 0 else 1) }

/-! ## Running -/

/-- A text that is given and not empty. -/
def given (text : Option String) : List String := (text.filter fun t => !t.isEmpty).toList

/-- The settings that a run changes, when these addresses are to be ignored already. Further ones
are put after them. -/
def RunOptions.changes (o : RunOptions) (blacklist : List String) : List (Setting × String) :=
  (given o.adapter).map (Setting.adapter, ·) ++
  o.port.toList.map (fun p => (Setting.port, toString p)) ++
  (given o.address).map (Setting.address, ·) ++
  (if o.blacklist.isEmpty then []
    else [(Setting.blacklist, ",".intercalate (blacklist ++ o.blacklist))]) ++
  (if o.noHostStatistics then [(Setting.hostStatistics, "false")] else []) ++
  (if o.strict then [(Setting.strict, "true")] else [])

/-- The settings of a run. -/
def RunOptions.applied (o : RunOptions) (s : Settings) : Except Fault Settings := do
  let changes := o.changes (← s.blacklist)
  return { s with
    overrides := changes.foldl
      (fun all (setting, text) => Assoc.put setting.key (.text text) all) s.overrides }

/-- Carry out the command to run the gateway, up to its launch. -/
def runReport (o : RunOptions) (s : Settings) : Except Fault Report := do
  let s ← o.applied s
  match s.validate with
  | .error f => return .failure [] f.message
  | .ok () => return { ending := .launch s }

/-! ## Command lines -/

/-- Carry out a command. -/
def perform (site : Site) (envFile : Option String) : Command → Except Failure Report
  | .decode o => (decodeReport o).mapError .usage
  | .config => ((site.settings envFile).map configReport).mapError .fault
  | .run o => (site.settings envFile >>= runReport o).mapError .fault
  | .check adapter => Except.mapError .fault do
    match given adapter with
    | adapter :: _ => return checkReport (.text adapter) site.host
    | [] => return checkReport (← (← site.settings envFile).adapter) site.host

/-- Why a name is not taken for that of a file of variables, if it is not. -/
def Site.refusal? (site : Site) (name : String) : Option Failure :=
  if name.contains '\x00' then some (.fault .nullCharacter)
  else if site.look name == .directory then some (.usage (.isDirectory .envFile name))
  else none

/-- Carry out a command line. -/
def answer (site : Site) (words : List String) : Except Failure Report := do
  match ← Request.ofWords site.refusal? words with
  | .help scope => return { printed := helpText scope }
  | .version => return { printed := versionText }
  | .command envFile command => perform site envFile command

end TagGateway.CommandLine
