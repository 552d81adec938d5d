import TagGateway.Metrics.Family

/-!
# Metrics of the host

Memory, processes, load, processor times, network, temperatures and disks of the host, read anew
for every scrape. A reader that fails gives no family at all and does not disturb the others.

* `Readings` is what the host has to say at one scrape.
* `HostMetrics.collect` makes the families and counts the scrapes in which a reader failed.
-/

namespace TagGateway.Metrics

/-- Named numbers of the host. -/
abbrev Attributes := List (String × Value)

/-- A thermal reading: its label, which may be null, and its temperature, if it has them. -/
structure Thermal where
  label : Option (Option String)
  current : Option Value

/-- A pair is a reading that has both. -/
instance : Coe (Option String × Value) Thermal :=
  ⟨fun (label, current) => ⟨some label, some current⟩⟩

/-- What the host says at one scrape, or how it fails to say it. -/
structure Readings where
  memory : Except Fault Attributes
  swap : Except Fault Attributes
  processes : Except Fault Nat
  load : Except Fault (List Value)
  cpu : Except Fault Attributes
  network : Except Fault Attributes
  /-- None if the host has no thermal readings to offer. -/
  temperatures : Option (Except Fault (List (String × List Thermal)))
  disks : Except Fault (List (String × Attributes))

/-- A number that has to be there. -/
def numberOf (as : Attributes) (name : String) : Except Fault Value :=
  match Assoc.get? name as with
  | some v => .ok v
  | none => .error (.missingAttribute name)

/-- A family with one sample; a number that is null gives none. -/
def single (name documentation : String) (v : Value) : Family where
  name
  documentation
  samples := match v with
    | .null => []
    | v => [⟨name, [], v⟩]

/-- The family of a number that has to be there. -/
def singleOf (as : Attributes) (key name documentation : String) : Except Fault Family := do
  return single name documentation (← numberOf as key)

/-- Numbers of the memory that not every host has. -/
def optionalMemory : List (String × String × String) := [
  ("buffers", "sysinfo_memory_buffers_bytes", "Memory used by kernel buffers"),
  ("cached", "sysinfo_memory_cached_bytes", "Memory used by the page cache"),
  ("active", "sysinfo_memory_active_bytes", "Recently used memory"),
  ("inactive", "sysinfo_memory_inactive_bytes", "Memory not recently used"),
  ("shared", "sysinfo_memory_shared_bytes", "Shared memory")]

/-- The families of the memory. -/
def memoryFamilies (r : Readings) : Except Fault (List Family) := do
  let memory ← r.memory
  let swap ← r.swap
  let required ← [
    singleOf memory "total" "sysinfo_memory_size_bytes" "Total usable memory",
    singleOf memory "free" "sysinfo_memory_free_bytes" "Unused memory",
    singleOf memory "available" "sysinfo_memory_available_bytes"
      "Memory available for new processes without swapping",
    singleOf swap "total" "sysinfo_swap_size_bytes" "Total swap space",
    singleOf swap "free" "sysinfo_swap_free_bytes" "Unused swap space"].mapM id
  let optional := optionalMemory.filterMap fun (key, name, documentation) =>
    match Assoc.get? key memory with
    | none | some .null => none
    | some v => some (single name documentation v)
  return required ++ optional

/-- The family of the processes. -/
def processFamilies (r : Readings) : Except Fault (List Family) := do
  return [single "sysinfo_processes" "Number of current processes" (.int (← r.processes))]

/-- The family of the load. -/
def loadFamilies (r : Readings) : Except Fault (List Family) := do
  let load ← r.load
  return [{
    name := "sysinfo_avg_load"
    documentation := "Cpu load average"
    samples := (["1m", "5m", "15m"].zip load).map fun (period, v) =>
      ⟨"sysinfo_avg_load", [("period", period)], v⟩ }]

/-- The kinds of values that are calculated with. -/
def isNumber (v : Value) : Bool :=
  match v with
  | .bool _ | .int _ | .float _ => true
  | _ => false

/-- The sum of two numbers, whole if both are. -/
def sum (a b : Value) : Except Fault Value :=
  match a.asInt?, b.asInt? with
  | some i, some j => .ok (.int (i + j))
  | _, _ => do
    if !(isNumber a && isNumber b) then .error (.unsupported "+" a.kind b.kind)
    let x ← Value.real a
    let y ← Value.real b
    return .float (x + y)

/-- The sum of named numbers, from left to right; a missing one counts as zero. -/
def total (as : Attributes) (names : List String) : Except Fault Value :=
  names.foldlM (fun acc name => sum acc ((Assoc.get? name as).getD (.float 0.0))) (.int 0)

/-- The families of the processor times. -/
def cpuFamilies (r : Readings) : Except Fault (List Family) := do
  let times ← r.cpu
  let family (name documentation : String) (names : List String) : Except Fault Family := do
    return single name documentation (← total times names)
  [family "sysinfo_cpu_user_seconds" "Time spent in user mode since boot" ["user", "nice"],
    family "sysinfo_cpu_system_seconds" "Time spent in system mode since boot" ["system"],
    family "sysinfo_cpu_irq_seconds" "Time spent servicing interrupts since boot"
      ["irq", "softirq"],
    family "sysinfo_cpu_vm_seconds" "Time spent in virtual machines since boot"
      ["steal", "guest", "guest_nice"]].mapM id

/-- The families of the network. -/
def networkFamilies (r : Readings) : Except Fault (List Family) := do
  let counters ← r.network
  [singleOf counters "bytes_recv" "sysinfo_network_in_bytes"
      "Count of received octets (bytes) since boot",
    singleOf counters "bytes_sent" "sysinfo_network_out_bytes"
      "Count of sent octets (bytes) since boot"].mapM id

/-- The label of a thermal reading: its own, or its place among those of its type. -/
def thermalLabel (index : Nat) : Option String → String
  | some label => if label.isEmpty then toString index else label
  | none => toString index

/-- The sample of a thermal reading at its place among those of its type. -/
def thermalSample (name type : String) (t : Thermal) (index : Nat) : Except Fault Sample := do
  let some label := t.label | throw (.missingAttribute "label")
  let some current := t.current | throw (.missingAttribute "current")
  return ⟨name, [("type", type), ("label", thermalLabel index label)], current⟩

/-- The family of the temperatures. -/
def thermalFamilies (r : Readings) : Except Fault (List Family) := do
  let name := "sysinfo_sensor_temperature_celsius"
  let types ← r.temperatures.getD (.ok [])
  let samples ← types.mapM fun (type, readings) =>
    readings.zipIdx.mapM fun (t, index) => thermalSample name type t index
  return [{
    name
    documentation := "Temperature of a sensor with its type as a label"
    samples := samples.flatten }]

/-- A number of a disk in thousandths. -/
def thousandth (v : Value) : Except Fault Value := do
  if !isNumber v then .error (.unsupported "/" v.kind .float)
  return .float ((← Value.real v) / 1000.0)

/-- The metrics of disks: name, documentation and how the number is found. -/
def diskDefinitions : List (String × String × (Attributes → Except Fault Value)) := [
  ("sysinfo_disk_reads_completed_total", "Number of successful disk reads",
    (numberOf · "read_count")),
  ("sysinfo_disk_read_bytes_total", "Amount of data read from disk", (numberOf · "read_bytes")),
  ("sysinfo_disk_read_time_seconds_total", "Time spent reading from disk",
    fun s => numberOf s "read_time" >>= thousandth),
  ("sysinfo_disk_writes_completed_total", "Number of successful disk writes",
    (numberOf · "write_count")),
  ("sysinfo_disk_write_bytes_total", "Amount of data written to disk",
    (numberOf · "write_bytes")),
  ("sysinfo_disk_write_time_seconds_total", "Time spent writing to disk",
    fun s => numberOf s "write_time" >>= thousandth),
  ("sysinfo_disk_io_time_seconds_total", "Time spent on disk I/O",
    fun s => thousandth ((Assoc.get? "busy_time" s).getD (.int 0)))]

/-- The families of the disks, each with its disks in ascending order. -/
def diskFamilies (r : Readings) : Except Fault (List Family) := do
  let disks := (← r.disks).mergeSort fun a b => !(b.1 < a.1)
  diskDefinitions.mapM fun (name, documentation, number) => do
    let samples ← disks.mapM fun (disk, attributes) => do
      return (⟨name, [("disk", disk)], ← number attributes⟩ : Sample)
    return { name, documentation, samples }

/-- The readers with their names, in the order of their families. -/
def readers : List (String × (Readings → Except Fault (List Family))) := [
  ("_memory", memoryFamilies),
  ("_processes", processFamilies),
  ("_load", loadFamilies),
  ("_cpu_times", cpuFamilies),
  ("_network", networkFamilies),
  ("_thermal_sensors", thermalFamilies),
  ("_disks", diskFamilies)]

/-- The scrapes so far in which a reader failed. -/
structure HostMetrics where
  errors : Nat := 0
deriving DecidableEq, Repr

namespace HostMetrics

/-- What readers give: the families of those that succeed and a notice for each that fails. -/
def readAll (r : Readings) :
    List (String × (Readings → Except Fault (List Family))) → List Family × List Notice
  | [] => ([], [])
  | (name, read) :: rest =>
    let (families, notices) := readAll r rest
    match read r with
    | .ok fs => (fs ++ families, notices)
    | .error f =>
      (families,
        ⟨.warning, "System info reader " ++ name ++ " failed: " ++ f.message, none⟩ :: notices)

/-- The families of one scrape, the count of scrapes with errors last. -/
def collect (h : HostMetrics) (r : Readings) : HostMetrics × List Family × List Notice :=
  let (families, notices) := readAll r readers
  let errors := if notices.isEmpty then h.errors else h.errors + 1
  (⟨errors⟩, families ++ [single "sysinfo_errors_count" "Number of scrapes containing errors"
    (.int errors)], notices)

end HostMetrics

end TagGateway.Metrics
