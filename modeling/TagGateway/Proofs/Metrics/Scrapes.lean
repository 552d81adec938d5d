import TagGateway.Metrics.Host
import TagGateway.Proofs.Except

/-!
# Scrapes of the host

A scrape asks one reader after the other. A reader that fails, at the start or in the midst of its
families, is reported and gives none of them; the others are not disturbed. The last family of a
scrape tells in how many scrapes so far some reader failed.

* `Readings.memory?`, `Readings.processes?`, `Readings.load?`, `Readings.cpuTimes?`,
  `Readings.network?`, `Readings.thermalSensors?`, `Readings.disks?` — the seven parts of a scrape:
  all that a host has to say about each, or nothing if something is missing.
* `toOption_memory` and the like — that the readers give these parts, whole or not at all.
* `HostMetrics.complaint?` — the report of a reader that fails; `HostMetrics.isTroubled` — whether
  some reader does.
* `HostMetrics.readAll_eq` — what readers give, whichever they are and whichever fail;
  `HostMetrics.collect_eq` — what one scrape gives.
* `HostMetrics.errors_collect`, `HostMetrics.errors_foldl` — one scrape counts once if a reader
  failed, and what many scrapes count, by induction.
* **`HostMetrics.collect_after`** — the families and reports of a scrape after any others.
-/

namespace TagGateway.Metrics

/-! ## The parts of a scrape -/

/-- A gauge without labels; a number that is null gives it no sample. -/
def gauge (name documentation : String) (v : Value) : Family where
  name
  documentation
  samples := if v.kind = .null then [] else [⟨name, [], v⟩]

/-- The gauge of a number that has to be there. -/
def gaugeOf (as : Attributes) (key name documentation : String) : Option Family :=
  (Assoc.get? key as).map (gauge name documentation)

/-- A number as a decimal number. -/
def decimal? (v : Value) : Option Float :=
  match v with
  | .bool _ | .int _ | .float _ => (Value.real v).toOption
  | _ => none

/-- The sum of two numbers: exact if both are whole, otherwise that of decimal numbers. -/
def plus? (a b : Value) : Option Value :=
  match a.asInt?, b.asInt? with
  | some i, some j => some (.int (i + j))
  | _, _ => do return .float ((← decimal? a) + (← decimal? b))

/-- A number of milliseconds in seconds. -/
def seconds? (v : Value) : Option Value := (decimal? v).map fun x => .float (x / 1000.0)

namespace Readings

/-- The memory and the swap space, with what not every host has left out where it is missing. -/
def memory? (r : Readings) : Option (List Family) := do
  let memory ← r.memory.toOption
  let swap ← r.swap.toOption
  let required ← [
    gaugeOf memory "total" "sysinfo_memory_size_bytes" "Total usable memory",
    gaugeOf memory "free" "sysinfo_memory_free_bytes" "Unused memory",
    gaugeOf memory "available" "sysinfo_memory_available_bytes"
      "Memory available for new processes without swapping",
    gaugeOf swap "total" "sysinfo_swap_size_bytes" "Total swap space",
    gaugeOf swap "free" "sysinfo_swap_free_bytes" "Unused swap space"].mapM id
  let optional := [
    ("buffers", "sysinfo_memory_buffers_bytes", "Memory used by kernel buffers"),
    ("cached", "sysinfo_memory_cached_bytes", "Memory used by the page cache"),
    ("active", "sysinfo_memory_active_bytes", "Recently used memory"),
    ("inactive", "sysinfo_memory_inactive_bytes", "Memory not recently used"),
    ("shared", "sysinfo_memory_shared_bytes", "Shared memory")].filterMap
      fun (key, name, documentation) =>
        ((Assoc.get? key memory).filter (·.kind ≠ .null)).map (gauge name documentation)
  return required ++ optional

/-- The number of processes. -/
def processes? (r : Readings) : Option (List Family) := do
  return [gauge "sysinfo_processes" "Number of current processes" (.int (← r.processes.toOption))]

/-- The load over the last minutes. -/
def load? (r : Readings) : Option (List Family) := do
  let load ← r.load.toOption
  return [⟨"sysinfo_avg_load", "Cpu load average", .gauge,
    (["1m", "5m", "15m"].zip load).map fun (period, v) =>
      ⟨"sysinfo_avg_load", [("period", period)], v⟩⟩]

/-- The times of the processors; one that is missing counts as zero. -/
def cpuTimes? (r : Readings) : Option (List Family) := do
  let times ← r.cpu.toOption
  let total (keys : List String) : Option Value :=
    keys.foldlM (fun sum key => plus? sum ((Assoc.get? key times).getD (.float 0.0))) (.int 0)
  [(total ["user", "nice"]).map
      (gauge "sysinfo_cpu_user_seconds" "Time spent in user mode since boot"),
    (total ["system"]).map
      (gauge "sysinfo_cpu_system_seconds" "Time spent in system mode since boot"),
    (total ["irq", "softirq"]).map
      (gauge "sysinfo_cpu_irq_seconds" "Time spent servicing interrupts since boot"),
    (total ["steal", "guest", "guest_nice"]).map
      (gauge "sysinfo_cpu_vm_seconds" "Time spent in virtual machines since boot")].mapM id

/-- What has come in and gone out. -/
def network? (r : Readings) : Option (List Family) := do
  let counters ← r.network.toOption
  [gaugeOf counters "bytes_recv" "sysinfo_network_in_bytes"
      "Count of received octets (bytes) since boot",
    gaugeOf counters "bytes_sent" "sysinfo_network_out_bytes"
      "Count of sent octets (bytes) since boot"].mapM id

/-- The temperatures. Each reading has the label that it brings with it, or else its place among
those of its type; there is none at a host that offers no readings at all. -/
def thermalSensors? (r : Readings) : Option (List Family) := do
  let types ← (r.temperatures.map Except.toOption).getD (some [])
  let samples ← types.mapM fun (type, readings) => readings.zipIdx.mapM fun (t, place) => do
    let label ← t.label
    let current ← t.current
    return (⟨"sysinfo_sensor_temperature_celsius",
      [("type", type), ("label", (label.filter (· ≠ "")).getD (toString place))], current⟩ : Sample)
  return [⟨"sysinfo_sensor_temperature_celsius", "Temperature of a sensor with its type as a label",
    .gauge, samples.flatten⟩]

/-- The numbers of disks, each with the name and the documentation of its family. -/
def diskNumbers : List (String × String × (Attributes → Option Value)) := [
  ("sysinfo_disk_reads_completed_total", "Number of successful disk reads",
    fun as => Assoc.get? "read_count" as),
  ("sysinfo_disk_read_bytes_total", "Amount of data read from disk",
    fun as => Assoc.get? "read_bytes" as),
  ("sysinfo_disk_read_time_seconds_total", "Time spent reading from disk",
    fun as => Assoc.get? "read_time" as >>= seconds?),
  ("sysinfo_disk_writes_completed_total", "Number of successful disk writes",
    fun as => Assoc.get? "write_count" as),
  ("sysinfo_disk_write_bytes_total", "Amount of data written to disk",
    fun as => Assoc.get? "write_bytes" as),
  ("sysinfo_disk_write_time_seconds_total", "Time spent writing to disk",
    fun as => Assoc.get? "write_time" as >>= seconds?),
  ("sysinfo_disk_io_time_seconds_total", "Time spent on disk I/O",
    fun as => seconds? ((Assoc.get? "busy_time" as).getD (.int 0)))]

/-- The numbers of all disks, which stand in ascending order in each family. -/
def disks? (r : Readings) : Option (List Family) := do
  let disks := (← r.disks.toOption).mergeSort fun a b => a.1 ≤ b.1
  diskNumbers.mapM fun (name, documentation, number) => do
    let samples ← disks.mapM fun (disk, as) =>
      (number as).map fun v => (⟨name, [("disk", disk)], v⟩ : Sample)
    return ⟨name, documentation, .gauge, samples⟩

end Readings

/-! ## What the readers give -/

theorem single_eq (name documentation : String) (v : Value) :
    single name documentation v = gauge name documentation v := by
  cases v <;> rfl

theorem toOption_numberOf (as : Attributes) (key : String) :
    (numberOf as key).toOption = Assoc.get? key as := by
  unfold numberOf
  cases Assoc.get? key as <;> rfl

/-- A gauge of a number that may not be found. -/
theorem toOption_single {x : Except Fault Value} {o : Option Value} (h : x.toOption = o)
    (name documentation : String) :
    (x >>= fun v => pure (single name documentation v)).toOption =
      o.map (gauge name documentation) := by
  subst h
  cases x with
  | error f => rfl
  | ok v => exact congrArg some (single_eq name documentation v)

theorem toOption_singleOf (as : Attributes) (key name documentation : String) :
    (singleOf as key name documentation).toOption = gaugeOf as key name documentation :=
  toOption_single (toOption_numberOf as key) name documentation

theorem toOption_memory (r : Readings) : (memoryFamilies r).toOption = r.memory? := by
  refine toOption_bind rfl fun memory => toOption_bind rfl fun swap =>
    toOption_bind ?_ fun required => ?_
  · exact toOption_mapM (by simp [toOption_singleOf])
  · refine congrArg (fun found => some (required ++ optionalMemory.filterMap found)) ?_
    funext ⟨key, name, documentation⟩
    simp only
    cases Assoc.get? key memory with
    | none => rfl
    | some v => cases v <;> rfl

theorem toOption_processes (r : Readings) : (processFamilies r).toOption = r.processes? :=
  toOption_bind rfl fun _ => rfl

theorem toOption_load (r : Readings) : (loadFamilies r).toOption = r.load? :=
  toOption_bind rfl fun _ => rfl

theorem decimal?_eq (v : Value) :
    decimal? v = if isNumber v then (Value.real v).toOption else none := by
  cases v <;> rfl

theorem toOption_sum (a b : Value) : (sum a b).toOption = plus? a b := by
  have hreal : (do
      if !(isNumber a && isNumber b) then .error (.unsupported "+" a.kind b.kind)
      let x ← Value.real a
      let y ← Value.real b
      return .float (x + y) : Except Fault Value).toOption =
        (do return .float ((← decimal? a) + (← decimal? b)) : Option Value) := by
    rw [decimal?_eq, decimal?_eq]
    cases isNumber a with
    | false => rfl
    | true =>
      cases isNumber b with
      | false => cases Value.real a <;> rfl
      | true => exact toOption_bind rfl fun x => toOption_bind rfl fun y => rfl
  unfold sum plus?
  cases a.asInt? with
  | none => exact hreal
  | some i =>
    cases b.asInt? with
    | none => exact hreal
    | some j => rfl

theorem toOption_cpu (r : Readings) : (cpuFamilies r).toOption = r.cpuTimes? := by
  refine toOption_bind rfl fun times => ?_
  have htotal (keys : List String) : (total times keys).toOption = keys.foldlM
      (fun sum key => plus? sum ((Assoc.get? key times).getD (.float 0.0))) (.int 0) :=
    toOption_foldlM (fun sum key => toOption_sum _ _) _ _
  have hgauge (keys : List String) (name documentation : String) :=
    toOption_single (htotal keys) name documentation
  exact toOption_mapM (.cons (hgauge _ _ _) (.cons (hgauge _ _ _) (.cons (hgauge _ _ _)
    (.cons (hgauge _ _ _) .nil))))

theorem toOption_network (r : Readings) : (networkFamilies r).toOption = r.network? := by
  refine toOption_bind rfl fun counters => ?_
  exact toOption_mapM (by simp [toOption_singleOf])

theorem toOption_thermalSample (name type : String) (t : Thermal) (place : Nat) :
    (thermalSample name type t place).toOption = (do
      let label ← t.label
      let current ← t.current
      return (⟨name, [("type", type), ("label", (label.filter (· ≠ "")).getD (toString place))],
        current⟩ : Sample)) := by
  have hlabel (label : Option String) :
      thermalLabel place label = (label.filter (· ≠ "")).getD (toString place) := by
    cases label with
    | none => rfl
    | some label => by_cases h : label = "" <;> simp [thermalLabel, Option.filter, h]
  unfold thermalSample
  cases t.label with
  | none => rfl
  | some label =>
    cases t.current with
    | none => rfl
    | some current => simp only [hlabel]; rfl

theorem toOption_thermal (r : Readings) : (thermalFamilies r).toOption = r.thermalSensors? := by
  unfold thermalFamilies Readings.thermalSensors?
  refine toOption_bind ?_ fun types => toOption_bind ?_ fun samples => rfl
  · cases r.temperatures <;> rfl
  · refine toOption_mapM (List.forall₂_same.mpr fun e _ => ?_)
    exact toOption_mapM (List.forall₂_same.mpr fun t _ => toOption_thermalSample _ _ _ _)

theorem toOption_thousandth (v : Value) : (thousandth v).toOption = seconds? v := by
  unfold thousandth seconds?
  rw [decimal?_eq]
  cases isNumber v with
  | false => rfl
  | true => exact (toOption_bind rfl fun x => rfl).trans Option.map_eq_bind.symm

theorem toOption_disks (r : Readings) : (diskFamilies r).toOption = r.disks? := by
  have horder : (fun a b : String × Attributes => !decide (b.1 < a.1)) =
      fun a b => decide (a.1 ≤ b.1) := by
    funext a b
    rw [← decide_not, decide_eq_decide]
    exact String.not_lt
  have hcount (key : String) (as : Attributes) := toOption_numberOf as key
  have htime (key : String) (as : Attributes) :
      (numberOf as key >>= thousandth).toOption = Assoc.get? key as >>= seconds? :=
    toOption_bind (toOption_numberOf as key) toOption_thousandth
  have hnumbers : List.Forall₂ (fun d d' => d.1 = d'.1 ∧ d.2.1 = d'.2.1 ∧
      ∀ as, (d.2.2 as).toOption = d'.2.2 as) diskDefinitions Readings.diskNumbers := by
    simp [diskDefinitions, Readings.diskNumbers, hcount, htime, toOption_thousandth]
  refine toOption_bind rfl fun disks => ?_
  rw [horder]
  refine toOption_mapM (hnumbers.imp ?_)
  rintro ⟨name, documentation, number⟩ ⟨_, _, number?⟩ ⟨rfl, rfl, hnumber⟩
  refine toOption_bind (toOption_mapM (List.forall₂_same.mpr fun disk _ => ?_)) fun _ => rfl
  exact (toOption_bind (hnumber disk.2) fun v => rfl).trans Option.map_eq_bind.symm

/-! ## Scrapes -/

namespace HostMetrics

/-- A reader of the host: its name, and how it finds its families. -/
abbrev Reader := String × (Readings → Except Fault (List Family))

/-- The report of a reader, if it fails. -/
def complaint? (r : Readings) (reader : Reader) : Option Notice :=
  match reader.2 r with
  | .ok _ => none
  | .error fault =>
    some ⟨.warning, "System info reader " ++ reader.1 ++ " failed: " ++ fault.message, none⟩

/-- The families of the readers that succeed, in the order of the readers. -/
def givenBy (r : Readings) (rs : List Reader) : List Family :=
  (rs.filterMap fun reader => (reader.2 r).toOption).flatten

/-- Whether some reader fails. -/
def isTroubled (r : Readings) : Bool := readers.any fun reader => !(reader.2 r).isOk

/-- The family that tells in how many scrapes a reader failed. -/
def errorCount (n : Nat) : Family :=
  single "sysinfo_errors_count" "Number of scrapes containing errors" (.int n)

/-- The metrics of the host after some scrapes. -/
def after (scrapes : List Readings) : HostMetrics :=
  scrapes.foldl (fun h r => (h.collect r).1) {}

theorem readAll_eq (r : Readings) (rs : List Reader) :
    readAll r rs = (givenBy r rs, rs.filterMap (complaint? r)) := by
  induction rs with
  | nil => rfl
  | cons reader rest ih =>
    obtain ⟨name, read⟩ := reader
    rw [readAll, ih]
    cases hread : read r with
    | ok fs => simp [givenBy, complaint?, hread, Except.toOption]
    | error fault => simp [givenBy, complaint?, hread, Except.toOption]

/-- Nothing is reported just if no reader fails. -/
theorem isEmpty_complaints (r : Readings) (rs : List Reader) :
    (rs.filterMap (complaint? r)).isEmpty = !rs.any fun reader => !(reader.2 r).isOk := by
  induction rs with
  | nil => rfl
  | cons reader rest ih =>
    rw [List.any_cons, Bool.not_or, ← ih]
    cases hread : reader.2 r with
    | ok fs => simp [complaint?, hread, Except.isOk, Except.toBool]
    | error fault => simp [complaint?, hread, Except.isOk, Except.toBool]

theorem mem_givenBy {r : Readings} {rs : List Reader} {f : Family} :
    f ∈ givenBy r rs ↔ ∃ reader ∈ rs, ∃ fs, reader.2 r = .ok fs ∧ f ∈ fs := by
  have hone (reader : Reader) (fs : List Family) :
      (reader.2 r).toOption = some fs ↔ reader.2 r = .ok fs := by
    cases reader.2 r <;> simp [Except.toOption]
  simp only [givenBy, List.mem_flatten, List.mem_filterMap, hone]
  constructor
  · rintro ⟨fs, ⟨reader, hreader, hread⟩, hf⟩
    exact ⟨reader, hreader, fs, hread, hf⟩
  · rintro ⟨reader, hreader, fs, hread, hf⟩
    exact ⟨fs, ⟨reader, hreader, hread⟩, hf⟩

/-- One scrape: its families end with the count, and each reader that fails is reported. -/
theorem collect_eq (h : HostMetrics) (r : Readings) :
    (h.collect r).2 = (givenBy r readers ++ [errorCount (h.collect r).1.errors],
      readers.filterMap (complaint? r)) := by
  unfold collect
  simp only [readAll_eq]
  rfl

/-- A scrape counts once if a reader failed, however many did. -/
theorem errors_collect (h : HostMetrics) (r : Readings) :
    (h.collect r).1.errors = h.errors + if isTroubled r then 1 else 0 := by
  unfold collect isTroubled
  simp only [readAll_eq, isEmpty_complaints]
  cases readers.any fun reader => !(reader.2 r).isOk <;> rfl

/-- What many scrapes count. -/
theorem errors_foldl (h : HostMetrics) (scrapes : List Readings) :
    (scrapes.foldl (fun h r => (h.collect r).1) h).errors =
      h.errors + scrapes.countP isTroubled := by
  induction scrapes generalizing h with
  | nil => rfl
  | cons r rest ih =>
    rw [List.foldl_cons, ih, errors_collect, List.countP_cons]
    omega

/-- What readers give, with nothing in the place of one that fails. -/
theorem givenBy_eq (r : Readings) (rs : List Reader) :
    givenBy r rs = (rs.map fun reader => (reader.2 r).toOption).flatMap (·.getD []) := by
  induction rs with
  | nil => rfl
  | cons reader rest ih =>
    rw [List.map_cons, List.flatMap_cons, ← ih]
    cases hread : reader.2 r <;> simp [givenBy, hread, Except.toOption]

theorem isTroubled_eq (r : Readings) :
    isTroubled r = (readers.map fun reader => (reader.2 r).toOption).any (·.isNone) := by
  rw [isTroubled, List.any_map]
  refine congrArg readers.any (funext fun reader => ?_)
  cases hread : reader.2 r <;> simp [hread, Except.isOk, Except.toBool, Except.toOption]

/-- **A scrape.** After any scrapes, whatever was missing at the host in each of them, a scrape
gives all families of each of the seven parts of which nothing is missing, in their order, none of
the others, and after them the number of scrapes in which something was missing in some part, this
one included. The readers that fail are reported in their order. -/
theorem collect_after (before : List Readings) (r : Readings) :
    let found (r : Readings) : List (Option (List Family)) :=
      [r.memory?, r.processes?, r.load?, r.cpuTimes?, r.network?, r.thermalSensors?, r.disks?]
    ((after before).collect r).2 =
      ((found r).flatMap (·.getD []) ++
          [⟨"sysinfo_errors_count", "Number of scrapes containing errors", .gauge,
            [⟨"sysinfo_errors_count", [],
              .int ((before ++ [r]).countP fun r => (found r).any (·.isNone))⟩]⟩],
        [("_memory", memoryFamilies), ("_processes", processFamilies), ("_load", loadFamilies),
          ("_cpu_times", cpuFamilies), ("_network", networkFamilies),
          ("_thermal_sensors", thermalFamilies), ("_disks", diskFamilies)].filterMap
            (complaint? r)) := by
  intro found
  have hfound (r : Readings) : found r = readers.map fun reader => (reader.2 r).toOption := by
    simp only [found, readers, List.map_cons, List.map_nil, toOption_memory, toOption_processes,
      toOption_load, toOption_cpu, toOption_network, toOption_thermal, toOption_disks]
  have hcount : ((after before).collect r).1.errors =
      (before ++ [r]).countP fun r => (found r).any (·.isNone) := by
    rw [errors_collect, after, errors_foldl, Nat.zero_add, ← List.countP_singleton,
      ← List.countP_append]
    simp only [hfound, ← isTroubled_eq]
  rw [collect_eq, hcount, hfound, ← givenBy_eq]
  rfl

/-- A host of which everything can be read. -/
def whole : Readings where
  memory := .ok [("total", .int 4000), ("free", .int 1000), ("available", .int 3000)]
  swap := .ok [("total", .int 2000), ("free", .int 2000)]
  processes := .ok 87
  load := .ok [.float 0.5, .float 0.25, .float 0.125]
  cpu := .ok [("user", .int 12), ("nice", .int 1), ("system", .int 3), ("irq", .int 0),
    ("softirq", .int 2), ("steal", .int 0), ("guest", .int 0), ("guest_nice", .int 0)]
  network := .ok [("bytes_recv", .int 640), ("bytes_sent", .int 64)]
  temperatures := some (.ok [("cpu_thermal", [(some "soc", Value.float 42.5)])])
  disks := .ok [("mmcblk0", [("read_count", .int 7), ("read_bytes", .int 3584),
    ("read_time", .float 12.0), ("write_count", .int 3), ("write_bytes", .int 1536),
    ("write_time", .float 30.0), ("busy_time", .float 40.0)])]

/-- The same host when the second number of the network and the temperature of a second sensor are
missing, which is noticed in the midst of the families. -/
def torn : Readings :=
  { whole with
    network := .ok [("bytes_recv", .int 640)]
    temperatures := some (.ok [("cpu_thermal",
      [(some "soc", Value.float 42.5), ⟨some (some "gpu"), none⟩])]) }

/-- The families of the disk, which are there in both cases. -/
theorem disks_whole :
    ∃ fs, whole.disks? = some fs ∧ torn.disks? = some fs ∧
      fs.map (·.name) = Readings.diskNumbers.map (·.1) := by
  have hdisks : whole.disks? = torn.disks? := rfl
  rw [hdisks]
  unfold Readings.disks?
  simp only [torn, whole, Except.toOption, Option.bind_eq_bind, Option.bind_some,
    List.mergeSort_singleton]
  exact ⟨_, rfl, rfl, rfl⟩

/-- After a scrape of each kind, one more that misses nothing gives all families, and one more in
which two readers fail gives all those of the others. -/
theorem torn_counted :
    let count (n : Int) : Family :=
      ⟨"sysinfo_errors_count", "Number of scrapes containing errors", .gauge,
        [⟨"sysinfo_errors_count", [], .int n⟩]⟩
    (∃ fs, ((after [whole, torn]).collect whole).2.1 = fs ++ [count 1] ∧ fs.length = 21) ∧
    (∃ fs, ((after [whole, torn]).collect torn).2.1 = fs ++ [count 2] ∧ fs.map (·.name) =
      ["sysinfo_memory_size_bytes", "sysinfo_memory_free_bytes", "sysinfo_memory_available_bytes",
        "sysinfo_swap_size_bytes", "sysinfo_swap_free_bytes", "sysinfo_processes",
        "sysinfo_avg_load", "sysinfo_cpu_user_seconds", "sysinfo_cpu_system_seconds",
        "sysinfo_cpu_irq_seconds", "sysinfo_cpu_vm_seconds"] ++
      Readings.diskNumbers.map (·.1)) ∧
    ((after [whole, torn]).collect torn).2.2.map (·.message) =
      ["System info reader _network failed: " ++ (Fault.missingAttribute "bytes_sent").message,
        "System info reader _thermal_sensors failed: " ++
          (Fault.missingAttribute "current").message] := by
  intro count
  obtain ⟨disks, hwhole, htorn, hnames⟩ := disks_whole
  have hlength : disks.length = 7 := by
    have hlengths := congrArg List.length hnames
    rwa [List.length_map, List.length_map] at hlengths
  have hfound (r : Readings) := Prod.ext_iff.mp (collect_after [whole, torn] r)
  simp only [List.cons_append, List.nil_append, List.countP_cons, List.countP_nil, List.any_cons,
    List.any_nil, List.flatMap_cons, List.flatMap_nil] at hfound
  have hgood := (hfound whole).1
  obtain ⟨hfamilies, hreports⟩ := hfound torn
  simp only [hwhole, htorn, Option.getD_some, Option.isNone_some] at hgood hfamilies
  have hquiet : [("_disks", diskFamilies)].filterMap (complaint? torn) = [] := by
    rw [← toOption_disks] at htorn
    cases hread : diskFamilies torn with
    | ok fs => simp [complaint?, hread]
    | error f =>
      rw [hread] at htorn
      cases htorn
  refine ⟨⟨_, hgood, ?_⟩, ⟨_, hfamilies, ?_⟩, ?_⟩
  · simp only [List.length_append, List.append_nil, hlength]
    rfl
  · simp only [List.map_append, List.append_nil, hnames]
    rfl
  · rw [hreports]
    show (([_, _, _, _, _, _] ++ [("_disks", diskFamilies)]).filterMap (complaint? torn)).map _ = _
    rw [List.filterMap_append, hquiet]
    rfl

end HostMetrics

end TagGateway.Metrics
