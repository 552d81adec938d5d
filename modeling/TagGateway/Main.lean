import TagGateway.Checkup.Account
import TagGateway.CommandLine.Answer
import TagGateway.CommandLine.Display
import TagGateway.Gateway.Detached

/-!
# The program

Reads its surroundings, carries out the command line and shows the report. The program has no
connection to a message bus, so that a launch of the gateway ends like one that cannot reach it.
-/

namespace TagGateway

/-- The text of a file; of one that cannot be read, nothing. -/
def readText (name : String) : IO String := do
  try IO.FS.readFile name catch _ => return ""

/-- The variables of the process. -/
def readVariables : IO (List (String × String)) := do
  let entries := (← readText "/proc/self/environ").splitOn "\x00"
  return entries.filterMap fun entry =>
    match CommandLine.Words.splitValue entry with
    | (name, some value) => if name.isEmpty then none else some (name, value)
    | (_, none) => none

/-- The files and directories under a path, down to a depth. -/
def readTree : Nat → String → IO (Option Tree)
  | depth, name => do
    let path := (← IO.currentDir) / name
    if ← path.isDir then
      match depth with
      | 0 => return some (.directory [])
      | depth + 1 =>
        let entries ← path.readDir
        let trees ← entries.toList.filterMapM fun e => do
          return (← readTree depth (name ++ "/" ++ e.fileName)).map (e.fileName, ·)
        return some (.directory trees)
    else if ← path.pathExists then
      try return some (.file (← IO.FS.readBinFile path).toList)
      catch e => return some (.barred (.system e.toString))
    else return none

/-- The tree of devices: adapters and radios. -/
def readDevices (root : String) : IO Tree := do
  let parts ← ["bluetooth", "rfkill"].filterMapM fun name => do
    return (← readTree 2 (root ++ "/" ++ name)).map (name, ·)
  return .directory parts

/-- What the host shows for a checkup. A service of the host has a directory while it is active,
if the host keeps services in directories. -/
def readHost (vars : List (String × String)) : IO Host := do
  let root := "/sys/class"
  let status ← readText "/proc/self/status"
  let services := (← IO.currentDir) / "/sys/fs/cgroup/system.slice"
  let service ←
    if ← services.isDir then
      pure (some (if ← (services / "bluetooth.service").isDir then (0 : Int) else 3))
    else pure none
  return {
    root, tree := some (← readDevices root), service := .ok service
    user := (Checkup.effectiveUser? status).getD 0
    bluetoothGroup := Checkup.groupNumber? "bluetooth" (← readText "/etc/group")
    groups := Checkup.groupsOf status
    userName := Assoc.get? "USER" vars }

/-- What stands under a name. -/
def readEntry (name : String) : IO CommandLine.Entry := do
  let path := (← IO.currentDir) / name
  if ← path.isDir then return .directory
  else if ← path.pathExists then return .file (← readText path.toString)
  else return .absent

/-- The entries under the names that a command line may ask for. -/
def readEntries (names : List String) : IO (List (String × CommandLine.Entry)) :=
  names.mapM fun name => return (name, ← readEntry name)

/-- The parts of words that may name a file. -/
def fileNames (words : List String) : List String :=
  words.flatMap fun word => word :: (CommandLine.Words.splitValue word).2.toList

/-- Where the command is given. -/
def readSite (words : List String) : IO CommandLine.Site := do
  let directory := (← IO.currentDir).toString
  let vars ← readVariables
  let entries ← readEntries ((directory ++ "/.env") :: fileNames words)
  return {
    place := ⟨directory, vars⟩, host := ← readHost vars
    look := fun name => (Assoc.get? name entries).getD .absent }

/-- Show a notice to the operator. -/
def sayNotice (n : Notice) : IO Unit :=
  IO.eprintln (n.level.name ++ ": " ++ n.message)

/-- End a command; gives the exit code. -/
def conclude (host : Host) : CommandLine.Ending → IO Int
  | .exit code => return code
  | .launch settings =>
    match Gateway.Detached.run settings host with
    | .ok (notices, code) => do
      notices.forM sayNotice
      return code
    | .error fault => do
      IO.eprintln fault.message
      return 1

end TagGateway

open TagGateway in
/-- Carry out the command line. -/
def main (words : List String) : IO UInt32 := do
  let site ← readSite words
  match CommandLine.answer site words with
  | .ok report =>
    IO.print report.text
    let code ← conclude site.host report.ending
    return UInt32.ofNat (code % 256).toNat
  | .error (.usage fault) =>
    IO.eprintln ("Error: " ++ fault.message)
    return 2
  | .error (.fault fault) =>
    IO.eprintln fault.message
    return 1
