import TagGateway.Text.Blank
import TagGateway.Tree

/-!
# The checkup of a host

When the gateway loses its adapter, four checks look for a cause on the host: whether the
Bluetooth service runs, whether the adapter is there, whether a radio is blocked, and whether the
user may use it.

* `Check.run` makes one check; a check that cannot be made fails with a fault.
* `findings` makes all four, in order; one that cannot be made counts as failed.
* `guide` explains a fault to the operator with what the checks found.
-/

namespace TagGateway

/-- What a checkup sees of its host. -/
structure Host where
  /-- The path of the tree, for messages. -/
  root : String
  /-- The tree of devices, if it is there. -/
  tree : Option Tree := none
  /-- The exit code of the service query; `none` if the host has no such query, a fault if it
  cannot be made. -/
  service : Except Fault (Option Int) := .ok (some 0)
  user : Int := 0
  /-- The number of the group that may use Bluetooth, if there is one. -/
  bluetoothGroup : Option Int := none
  groups : List Int := []
  userName : Option String := none

namespace Checkup

/-- What a check found. -/
structure Finding where
  passed : Bool
  message : String
deriving DecidableEq, Repr

/-- The checks. -/
inductive Check
  | service | adapter | radio | permissions
deriving DecidableEq, Repr

/-- The name of a check. -/
def Check.name : Check → String
  | service => "check_bluetooth_service"
  | adapter => "check_adapter_present"
  | radio => "check_rfkill"
  | permissions => "check_bluetooth_permissions"

/-- Whether the Bluetooth service runs. -/
def checkService (host : Host) : Except Fault Finding := do
  match ← host.service with
  | none => return ⟨true, "systemctl not available, skipping service check"⟩
  | some 0 => return ⟨true, "Bluetooth service is active"⟩
  | some _ =>
    return ⟨false, "Bluetooth service is not active. Run: sudo systemctl start bluetooth"⟩

/-- Whether the adapter of a name is there. A name with slashes is a path from the directory of
adapters. -/
def checkNamed (adapter : String) (host : Host) : Except Fault Finding :=
  let path := (Path.ofText "bluetooth").join (Path.ofText adapter)
  match ({ here := host.tree.getD .blank } : Disk).walk path with
  | .tree _ => .ok ⟨true, "Bluetooth adapter " ++ adapter ++ " is present"⟩
  | .nothing =>
    .ok ⟨false, "Bluetooth adapter " ++ adapter ++ " not found. Check hardware connection."⟩
  | .tooLong => .error (.nameTooLong ((Path.ofText host.root).join path).text)

/-- Whether the adapter is there. -/
def checkAdapter (adapter : Value) (host : Host) : Except Fault Finding :=
  match adapter with
  | .text name => checkNamed name host
  | v => .error (.notPathPart v.kind)

/-- The trimmed text of an entry of a directory, if it is there. -/
def entryText? (path : String) (radio : Tree) (name : String) : Except Fault (Option String) :=
  match radio.child? name with
  | none => .ok none
  | some t => (t.readText (path ++ "/" ++ name)).map fun text => some (Text.trim text)

/-- The first of the ways in which a radio is blocked. -/
def blockOf (path : String) (radio : Tree) : List String → Except Fault (Option String)
  | [] => .ok none
  | way :: rest => do
    if (← entryText? path radio way) == some "1" then return some way
    else blockOf path radio rest

/-- The first blocked Bluetooth radio, with the way in which it is blocked. -/
def blockedRadio (root : String) :
    List (String × Tree) → Except Fault (Option (String × String))
  | [] => .ok none
  | (name, radio) :: rest => do
    let path := root ++ "/" ++ name
    if (← entryText? path radio "type") == some "bluetooth" then
      match ← blockOf path radio ["soft", "hard"] with
      | some way => return some (name, way)
      | none => blockedRadio root rest
    else blockedRadio root rest

/-- Whether a Bluetooth radio is blocked. -/
def checkRadio (host : Host) : Except Fault Finding := do
  match host.tree.bind (·.child? "rfkill") with
  | none => return ⟨true, "rfkill not available"⟩
  | some radios =>
    let path := host.root ++ "/rfkill"
    match ← blockedRadio path (← radios.entries path) with
    | some (name, way) =>
      return ⟨false, "Bluetooth radio " ++ name ++ " is " ++ way ++
        "-blocked. Run: rfkill unblock bluetooth"⟩
    | none => return ⟨true, "Bluetooth radio is not blocked"⟩

/-- Whether the user may use Bluetooth. -/
def checkPermissions (host : Host) : Finding :=
  if host.user = 0 then ⟨true, "Running as root"⟩
  else
    match host.bluetoothGroup with
    | none => ⟨true, "Bluetooth group does not exist"⟩
    | some group =>
      if host.groups.contains group then ⟨true, "Bluetooth permissions are correct"⟩
      else
        let user := host.userName.getD "current user"
        ⟨false, "User " ++ user ++
          " not in bluetooth group. Run: sudo usermod -a -G bluetooth " ++ user⟩

/-- Make a check. -/
def Check.run (adapter : Value) (host : Host) : Check → Except Fault Finding
  | .service => checkService host
  | .adapter => checkAdapter adapter host
  | .radio => checkRadio host
  | .permissions => .ok (checkPermissions host)

/-- What a check found, and a notice if it could not be made. -/
def conclude (check : Check) : Except Fault Finding → Finding × List Notice
  | .ok finding => (finding, [])
  | .error fault =>
    (⟨false, "Unable to run " ++ check.name ++ ": " ++ fault.message⟩,
      [⟨.debug, "Diagnostic check _" ++ check.name ++ " failed: " ++ fault.message, none⟩])

/-- The checks in the order in which they are made. -/
def checks : List Check := [.service, .adapter, .radio, .permissions]

/-- What all checks found, and the notices on those that could not be made. -/
def findings (adapter : Value) (host : Host) : List Finding × List Notice :=
  let results := checks.map fun c => conclude c (c.run adapter host)
  (results.map (·.1), results.flatMap (·.2))

/-- What an operator can do about a fault. -/
def advice (adapter : Value) : Fault → List String
  | .unreachable _ =>
    ["The system D-Bus could not be reached:",
      "1. Check dbus is running: systemctl status dbus",
      "2. When running in a container, mount /run/dbus/system_bus_socket"]
  | .discoveryLost .. =>
    ["Discovery stopped and could not be restarted:",
      "1. Check bluetooth service: sudo systemctl status bluetooth",
      "2. Check adapter status: bluetoothctl show (adapter " ++ adapter.display ++ ")",
      "3. Restart bluetooth: sudo systemctl restart bluetooth"]
  | _ =>
    ["If problems persist:",
      "• Check system logs: journalctl -u bluetooth",
      "• Test with: bluetoothctl scan on"]

/-- The lines on failed checks, if there are any. -/
def problems (found : List Finding) : List String :=
  match found.filter (!·.passed) with
  | [] => []
  | failed => "Detected problems:" :: failed.map (fun f => "• " ++ f.message) ++ [""]

/-- The guide to a fault, and the notices on the way to it. -/
def guide (adapter : Value) (host : Host) (fault : Fault) : String × List Notice :=
  let (found, notices) := findings adapter host
  let lines :=
    ["BLE Troubleshooting Guide:", String.ofList (List.replicate 50 '='),
      "Error: " ++ fault.title ++ ": " ++ fault.message, ""] ++
    problems found ++ advice adapter fault
  ("\n".intercalate lines,
    ⟨.warning, "BLE listener error detected: " ++ fault.title ++ " - " ++ fault.message, none⟩ ::
      notices)

end Checkup

end TagGateway
