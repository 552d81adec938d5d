import Mathlib.Data.Finset.Basic
import Mathlib.Data.List.Nodup
import TagGateway.Proofs.Except
import TagGateway.Proofs.Metrics.Scrapes

/-!
# Label sets of the host's metrics

Scrapers tell the samples of a family apart by their labels, a set of names with values. The
families of the host keep to that with one exception: thermal readings of one type that bring the
same label, or of which one brings the number of the place of another that brings none.

* `Family.IsDistinct` — that no two samples of a family have the same label set.
* `AreTold` — that the labels of the readings of one type tell them apart, said of the labels that
  the host gives; `nodup_thermalLabels_iff` — that the labels made from them then do.
* `Readings.IsKeyed` — that types of sensors and disks are keys; `isApart_disks`,
  `isDistinct_thermal_iff` — the two families whose labels come from the host.
* **`HostMetrics.isDistinct_iff`** — for each family of a scrape, when it is distinct;
  `HostMetrics.twins_alike` — hosts at which the temperatures are not.
-/

namespace TagGateway.Metrics

/-- The labels of a sample, in no order. -/
def Sample.labelSet (s : Sample) : Finset (String × String) := s.labels.toFinset

/-- No two samples of a family have the same label set. -/
def Family.IsDistinct (f : Family) : Prop := (f.samples.map Sample.labelSet).Nodup

/-- The name of the family of the temperatures. -/
def thermalName : String := "sysinfo_sensor_temperature_celsius"

/-- The label that a thermal reading brings with it: a text that is not empty. -/
def ownLabel? (t : Thermal) : Option String := t.label.join.filter fun label => !label.isEmpty

/-- The readings of one type of sensors are told apart: no two bring the same label, and none brings
the number of the place of one that brings none. -/
structure AreTold (readings : List Thermal) : Prop where
  nodup : (readings.filterMap ownLabel?).Nodup
  place : ∀ (i : Nat) (t : Thermal), readings[i]? = some t → ownLabel? t = none →
    toString i ∉ readings.filterMap ownLabel?

/-- The types of sensors and the disks of a host are keys: each is there once. -/
structure Readings.IsKeyed (r : Readings) : Prop where
  types : ∀ types, r.temperatures = some (.ok types) → (types.map (·.1)).Nodup
  disks : ∀ disks, r.disks = .ok disks → (disks.map (·.1)).Nodup

/-! ## Thermal labels -/

theorem thermalLabel_eq (i : Nat) (t : Thermal) :
    thermalLabel i t.label.join = (ownLabel? t).getD (toString i) := by
  unfold ownLabel?
  cases t.label.join with
  | none => rfl
  | some label => by_cases h : label = "" <;> simp [thermalLabel, Option.filter, h]

theorem toString_nat_inj {i j : Nat} (h : toString i = toString j) : i = j := by
  have hdigits : Nat.toDigits 10 i = Nat.toDigits 10 j := by
    rw [← Nat.toList_repr, ← Nat.toList_repr]
    exact congrArg String.toList h
  calc i = Nat.ofDigitChars 10 (Nat.toDigits 10 i) 0 := Nat.ofDigitChars_ten_toDigits.symm
    _ = Nat.ofDigitChars 10 (Nat.toDigits 10 j) 0 := by rw [hdigits]
    _ = j := Nat.ofDigitChars_ten_toDigits

/-- The labels of the readings of one type of sensors. -/
def thermalLabels (readings : List Thermal) : List String :=
  readings.zipIdx.map fun t => thermalLabel t.2 t.1.label.join

/-- Labels tell readings apart just if those that the host gives do. -/
theorem nodup_thermalLabels_iff (readings : List Thermal) :
    (thermalLabels readings).Nodup ↔ AreTold readings := by
  have hown : (readings.filterMap ownLabel?).Nodup ↔
      ∀ (i j : Nat) (hi : i < readings.length) (hj : j < readings.length), i < j →
        ∀ a, ownLabel? readings[i] = some a → ∀ b, ownLabel? readings[j] = some b → a ≠ b := by
    rw [List.nodup_iff_pairwise_ne, List.pairwise_filterMap, List.pairwise_iff_getElem]
  have hall : (thermalLabels readings).Nodup ↔
      ∀ (i j : Nat) (hi : i < readings.length) (hj : j < readings.length), i < j →
        (ownLabel? readings[i]).getD (toString i) ≠ (ownLabel? readings[j]).getD (toString j) := by
    unfold thermalLabels
    rw [List.nodup_iff_pairwise_ne, List.pairwise_map, List.pairwise_iff_getElem]
    simp only [List.length_zipIdx, List.getElem_zipIdx, Nat.zero_add, thermalLabel_eq]
  rw [hall]
  constructor
  · intro h
    refine ⟨hown.mpr fun i j hi hj hlt a ha b hb => ?_, ?_⟩
    · simpa [ha, hb] using h i j hi hj hlt
    · intro i t hget hnone hmem
      obtain ⟨hi, rfl⟩ := List.getElem?_eq_some_iff.mp hget
      obtain ⟨u, hu, hlabel⟩ := List.mem_filterMap.mp hmem
      obtain ⟨j, hj, rfl⟩ := List.getElem_of_mem hu
      rcases Nat.lt_trichotomy i j with hlt | rfl | hgt
      · exact h i j hi hj hlt (by rw [hnone, hlabel]; rfl)
      · rw [hnone] at hlabel
        cases hlabel
      · exact h j i hj hi hgt (by rw [hnone, hlabel]; rfl)
  · intro h i j hi hj hlt
    have hplace (k : Nat) (hk : k < readings.length) (hnone : ownLabel? readings[k] = none)
        {u : Thermal} (hu : u ∈ readings) {a : String} (ha : ownLabel? u = some a) :
        toString k ≠ a := by
      rintro rfl
      exact h.place k _ (List.getElem?_eq_getElem hk) hnone (List.mem_filterMap.mpr ⟨u, hu, ha⟩)
    cases ha : ownLabel? readings[i] with
    | none =>
      cases hb : ownLabel? readings[j] with
      | none => exact fun heq => absurd (toString_nat_inj heq) (Nat.ne_of_lt hlt)
      | some b => exact hplace i hi ha (List.getElem_mem hj) hb
    | some a =>
      cases hb : ownLabel? readings[j] with
      | none => exact (hplace j hj hb (List.getElem_mem hi) ha).symm
      | some b => exact hown.mp h.nodup i j hi hj hlt a ha b hb

/-- The label set of a thermal reading. -/
def thermalSet (type label : String) : Finset (String × String) :=
  [("type", type), ("label", label)].toFinset

theorem thermalSet_inj {type type' label label' : String} :
    thermalSet type label = thermalSet type' label' ↔ type = type' ∧ label = label' := by
  constructor
  · intro h
    have htype : ("type", type) ∈ thermalSet type' label' := by
      rw [← h]
      simp [thermalSet]
    have hlabel : ("label", label) ∈ thermalSet type' label' := by
      rw [← h]
      simp [thermalSet]
    simpa [thermalSet] using And.intro htype hlabel
  · rintro ⟨rfl, rfl⟩
    rfl

/-- Readings of types that are keys are told apart just if those of each type are. -/
theorem nodup_thermalSets_iff {types : List (String × List Thermal)}
    (hkeys : (types.map (·.1)).Nodup) :
    (types.flatMap fun e => (thermalLabels e.2).map (thermalSet e.1)).Nodup ↔
      ∀ e ∈ types, AreTold e.2 := by
  have hgroup (type : String) : Function.Injective (thermalSet type) :=
    fun label label' h => (thermalSet_inj.mp h).2
  have hapart : types.Pairwise (Function.onFun List.Disjoint fun e =>
      (thermalLabels e.2).map (thermalSet e.1)) := by
    rw [List.nodup_iff_pairwise_ne, List.pairwise_map] at hkeys
    refine hkeys.imp ?_
    intro e e' hne set hset hset'
    obtain ⟨label, -, hlabel⟩ := List.mem_map.mp hset
    obtain ⟨label', -, hlabel'⟩ := List.mem_map.mp hset'
    exact hne (thermalSet_inj.mp (hlabel.trans hlabel'.symm)).1
  rw [List.nodup_flatMap, and_iff_left hapart]
  refine forall₂_congr fun e _ => ?_
  rw [List.nodup_map_iff (hgroup e.1), nodup_thermalLabels_iff]

/-! ## Families -/

variable {r : Readings} {f : Family} {fs : List Family}

/-- A family that is not that of the temperatures, and distinct. -/
structure Family.IsApart (f : Family) : Prop where
  name : f.name ≠ thermalName
  distinct : f.IsDistinct

theorem isApart_single {name documentation : String} {v : Value} (hname : name ≠ thermalName) :
    (single name documentation v).IsApart where
  name := hname
  distinct := by
    unfold Family.IsDistinct single
    cases v <;> simp

theorem isApart_singleOf {as : Attributes} {key name documentation : String}
    (h : singleOf as key name documentation = .ok f) (hname : name ≠ thermalName) : f.IsApart := by
  obtain ⟨v, -, hf⟩ := bind_eq_ok.mp h
  cases hf
  exact isApart_single hname

theorem isApart_memory (h : memoryFamilies r = .ok fs) (hf : f ∈ fs) : f.IsApart := by
  obtain ⟨memory, -, h⟩ := bind_eq_ok.mp h
  obtain ⟨swap, -, h⟩ := bind_eq_ok.mp h
  obtain ⟨required, hrequired, h⟩ := bind_eq_ok.mp h
  cases h
  rcases List.mem_append.mp hf with hf | hf
  · obtain ⟨read, hread, hf⟩ := exists_of_mem_mapM hrequired hf
    simp only [List.mem_cons, List.not_mem_nil, or_false] at hread
    rcases hread with rfl | rfl | rfl | rfl | rfl
    all_goals exact isApart_singleOf hf (by decide)
  · obtain ⟨⟨key, name, documentation⟩, he, hf⟩ := List.mem_filterMap.mp hf
    have hname : ∀ e ∈ optionalMemory, e.2.1 ≠ thermalName := by decide
    simp only at hf
    split at hf
    · cases hf
    · cases hf
    · obtain rfl := Option.some.inj hf
      exact isApart_single (hname _ he)

theorem isApart_processes (h : processFamilies r = .ok fs) (hf : f ∈ fs) : f.IsApart := by
  obtain ⟨n, -, h⟩ := bind_eq_ok.mp h
  cases h
  obtain rfl := List.mem_singleton.mp hf
  exact isApart_single (by decide)

/-- Samples with one label each, under the same name, are told apart by different values of it. -/
theorem nodup_labelSet {samples : List Sample} (name : String) (keys : List String)
    (hlabels : samples.map (·.labels) = keys.map fun key => [(name, key)]) (hkeys : keys.Nodup) :
    (samples.map Sample.labelSet).Nodup := by
  have hsets : samples.map Sample.labelSet = keys.map fun key => {(name, key)} := by
    have hmapped := congrArg (List.map List.toFinset) hlabels
    rw [List.map_map, List.map_map] at hmapped
    exact hmapped
  rw [hsets]
  refine hkeys.map ?_
  intro key key' heq
  simpa using heq

theorem isApart_load (h : loadFamilies r = .ok fs) (hf : f ∈ fs) : f.IsApart := by
  obtain ⟨load, -, h⟩ := bind_eq_ok.mp h
  cases h
  obtain rfl := List.mem_singleton.mp hf
  refine ⟨show "sysinfo_avg_load" ≠ thermalName by decide,
    nodup_labelSet "period" ((["1m", "5m", "15m"].zip load).map (·.1)) ?_ ?_⟩
  · simp
  · rw [List.zip_eq_zip_take_min, List.map_fst_zip (by simp)]
    exact (List.take_sublist _ _).nodup (by decide)

theorem isApart_cpu (h : cpuFamilies r = .ok fs) (hf : f ∈ fs) : f.IsApart := by
  obtain ⟨times, -, h⟩ := bind_eq_ok.mp h
  obtain ⟨read, hread, hf⟩ := exists_of_mem_mapM h hf
  simp only [List.mem_cons, List.not_mem_nil, or_false] at hread
  rcases hread with rfl | rfl | rfl | rfl
  all_goals
    obtain ⟨v, -, hv⟩ := bind_eq_ok.mp hf
    cases hv
    exact isApart_single (by decide)

theorem isApart_network (h : networkFamilies r = .ok fs) (hf : f ∈ fs) : f.IsApart := by
  obtain ⟨counters, -, h⟩ := bind_eq_ok.mp h
  obtain ⟨read, hread, hf⟩ := exists_of_mem_mapM h hf
  simp only [List.mem_cons, List.not_mem_nil, or_false] at hread
  rcases hread with rfl | rfl
  all_goals exact isApart_singleOf hf (by decide)

/-- The family of a metric of disks, with disks that are there once each. -/
theorem isApart_disk {name documentation : String} {number : Attributes → Except Fault Value}
    {disks : List (String × Attributes)} {samples : List Sample} (hname : name ≠ thermalName)
    (hdisks : (disks.map (·.1)).Nodup)
    (h : (disks.mapM fun (disk, attributes) => do
      return (⟨name, [("disk", disk)], ← number attributes⟩ : Sample)) = .ok samples) :
    Family.IsApart { name, documentation, samples } := by
  refine ⟨hname, nodup_labelSet "disk" (disks.map (·.1)) ?_ hdisks⟩
  rw [List.map_map]
  refine map_eq_of_mapM h ?_
  rintro ⟨disk, attributes⟩ sample hsample
  obtain ⟨v, -, hv⟩ := bind_eq_ok.mp hsample
  cases hv
  rfl

theorem isApart_disks (hr : r.IsKeyed) (h : diskFamilies r = .ok fs) (hf : f ∈ fs) :
    f.IsApart := by
  obtain ⟨disks, hdisks, h⟩ := bind_eq_ok.mp h
  obtain ⟨⟨name, documentation, number⟩, hdefinition, hf⟩ := exists_of_mem_mapM h hf
  obtain ⟨samples, hsamples, hf⟩ := bind_eq_ok.mp hf
  cases hf
  have hnames : ∀ d ∈ diskDefinitions, d.1 ≠ thermalName := by decide
  exact isApart_disk (hnames _ hdefinition)
    (((List.mergeSort_perm disks _).map (·.1)).nodup_iff.mpr (hr.disks disks hdisks)) hsamples

/-- The label set of a thermal reading that has all that is asked of it. -/
theorem labelSet_thermalSample {name type : String} {t : Thermal} {index : Nat} {sample : Sample}
    (h : thermalSample name type t index = .ok sample) :
    sample.labelSet = thermalSet type (thermalLabel index t.label.join) := by
  unfold thermalSample at h
  split at h
  · rename_i label hlabel
    split at h
    · cases h
      rw [hlabel]
      rfl
    · cases h
  · cases h

/-- Temperatures are told apart just if those of each type of sensors are. -/
theorem isDistinct_thermal_iff (hr : r.IsKeyed) (h : thermalFamilies r = .ok fs) (hf : f ∈ fs) :
    f.name = thermalName ∧ (f.IsDistinct ↔
      ∀ types, r.temperatures = some (.ok types) → ∀ e ∈ types, AreTold e.2) := by
  obtain ⟨types, htypes, h⟩ := bind_eq_ok.mp h
  obtain ⟨samples, hsamples, h⟩ := bind_eq_ok.mp h
  cases h
  obtain rfl := List.mem_singleton.mp hf
  refine ⟨rfl, ?_⟩
  have hsets : samples.flatten.map Sample.labelSet =
      types.flatMap fun e => (thermalLabels e.2).map (thermalSet e.1) := by
    have hgroups : samples.map (List.map Sample.labelSet) =
        types.map fun e => (thermalLabels e.2).map (thermalSet e.1) := by
      refine map_eq_of_mapM hsamples fun e group hgroup => ?_
      rw [map_eq_of_mapM hgroup fun _ _ h => labelSet_thermalSample h, thermalLabels, List.map_map]
      rfl
    rw [List.map_flatten, hgroups, List.flatMap_def]
  have hdistinct : (types.flatMap fun e => (thermalLabels e.2).map (thermalSet e.1)).Nodup ↔
      ∀ types, r.temperatures = some (.ok types) → ∀ e ∈ types, AreTold e.2 := by
    cases htemperatures : r.temperatures with
    | none =>
      rw [htemperatures] at htypes
      obtain rfl := Except.ok.inj htypes
      simp
    | some read =>
      rw [htemperatures, Option.getD_some] at htypes
      subst htypes
      simp only [Option.some.injEq, Except.ok.injEq, forall_eq']
      exact nodup_thermalSets_iff (hr.types types htemperatures)
  rw [← hdistinct, ← hsets]
  rfl

/-! ## A scrape -/

namespace HostMetrics

/-- **The samples of a scrape.** On a host whose types of sensors and disks are keys, no two samples
of a family have the same label set, whatever the labels, disks and numbers are, but for the family
of the temperatures: there this holds just if the readings of each type are told apart by what they
bring, so that each gets a pair of type and label of its own. -/
theorem isDistinct_iff (h : HostMetrics) (hr : r.IsKeyed) :
    ∀ f ∈ (h.collect r).2.1, f.IsDistinct ↔
      (f.name = thermalName →
        ∀ types, r.temperatures = some (.ok types) → ∀ e ∈ types, AreTold e.2) := by
  intro f hf
  have hapart (happart : f.IsApart) : f.IsDistinct ↔ (f.name = thermalName →
      ∀ types, r.temperatures = some (.ok types) → ∀ e ∈ types, AreTold e.2) :=
    iff_of_true happart.distinct fun hname => absurd hname happart.name
  rw [collect_eq] at hf
  rcases List.mem_append.mp hf with hgiven | hcount
  · obtain ⟨reader, hreader, fs, hread, hmem⟩ := mem_givenBy.mp hgiven
    simp only [readers, List.mem_cons, List.not_mem_nil, or_false] at hreader
    rcases hreader with rfl | rfl | rfl | rfl | rfl | rfl | rfl
    · exact hapart (isApart_memory hread hmem)
    · exact hapart (isApart_processes hread hmem)
    · exact hapart (isApart_load hread hmem)
    · exact hapart (isApart_cpu hread hmem)
    · exact hapart (isApart_network hread hmem)
    · obtain ⟨hname, hdistinct⟩ := isDistinct_thermal_iff hr hread hmem
      rw [hdistinct]
      exact ⟨fun htold _ => htold, fun htold => htold hname⟩
    · exact hapart (isApart_disks hr hread hmem)
  · obtain rfl := List.mem_singleton.mp hcount
    exact hapart (isApart_single (by decide))

/-- A host of which nothing can be read but temperatures. -/
def warm (types : List (String × List Thermal)) : Readings :=
  let absent := Fault.other "OSError" "no readings"
  { memory := .error absent, swap := .error absent, processes := .error absent
    load := .error absent, cpu := .error absent, network := .error absent
    temperatures := some (.ok types), disks := .error absent }

theorem isKeyed_warm {types : List (String × List Thermal)} (h : (types.map (·.1)).Nodup) :
    (warm types).IsKeyed where
  types types' htypes := by
    cases htypes
    exact h
  disks := nofun

/-- The temperatures of such a host, if they can be read, are a family of its scrape. -/
theorem exists_thermal_warm {types : List (String × List Thermal)}
    (hkeys : (types.map (·.1)).Nodup) {f : Family}
    (hread : thermalFamilies (warm types) = .ok [f]) :
    f ∈ (({} : HostMetrics).collect (warm types)).2.1 ∧
      (f.IsDistinct ↔ ∀ e ∈ types, AreTold e.2) := by
  have hmem : f ∈ givenBy (warm types) readers :=
    mem_givenBy.mpr ⟨("_thermal_sensors", thermalFamilies), by simp [readers], [f], hread,
      List.mem_singleton_self f⟩
  constructor
  · rw [collect_eq]
    exact List.mem_append_left _ hmem
  · rw [(isDistinct_thermal_iff (isKeyed_warm hkeys) hread (List.mem_singleton_self f)).2]
    simp [warm]

/-- Sensors with and without labels, all told apart. -/
def mixed : List (String × List Thermal) :=
  [("coretemp",
      [(some "Core 0", Value.int 45), (some "", Value.int 50),
        ((none : Option String), Value.int 51), (some "0", Value.int 52)]),
    ("acpitz", [(some "", Value.int 28)])]

theorem mixed_distinct :
    (warm mixed).IsKeyed ∧
    ∀ f ∈ (({} : HostMetrics).collect (warm mixed)).2.1, f.IsDistinct := by
  have hkeyed : (warm mixed).IsKeyed := isKeyed_warm (by decide)
  have htold : ∀ e ∈ mixed, AreTold e.2 := by
    simp only [← nodup_thermalLabels_iff]
    decide +kernel
  refine ⟨hkeyed, fun f hf => (isDistinct_iff {} hkeyed f hf).mpr fun _ types htypes => ?_⟩
  cases htypes
  exact htold

/-- Two sensors of one type that bring the same label. -/
def twins : List (String × List Thermal) :=
  [("coretemp", [(some "Core 0", Value.int 45), (some "Core 0", Value.int 50)])]

/-- A sensor that brings the number of the place of one without a label. -/
def shadowed : List (String × List Thermal) :=
  [("coretemp", [(some "1", Value.int 45), (some "", Value.int 50)])]

/-- At neither host are the temperatures told apart. -/
theorem twins_alike :
    ((warm twins).IsKeyed ∧
      ∃ f ∈ (({} : HostMetrics).collect (warm twins)).2.1, ¬f.IsDistinct) ∧
    (warm shadowed).IsKeyed ∧
      ∃ f ∈ (({} : HostMetrics).collect (warm shadowed)).2.1, ¬f.IsDistinct := by
  have halike {types : List (String × List Thermal)} {f : Family}
      (hread : thermalFamilies (warm types) = .ok [f]) (hkeys : (types.map (·.1)).Nodup)
      (hlabels : ¬∀ e ∈ types, AreTold e.2) : (warm types).IsKeyed ∧
        ∃ f ∈ (({} : HostMetrics).collect (warm types)).2.1, ¬f.IsDistinct := by
    obtain ⟨hf, htold⟩ := exists_thermal_warm hkeys hread
    exact ⟨isKeyed_warm hkeys, f, hf, fun hdistinct => hlabels (htold.mp hdistinct)⟩
  simp only [← nodup_thermalLabels_iff] at halike
  exact ⟨halike rfl (by decide) (by decide +kernel), halike rfl (by decide) (by decide +kernel)⟩

end HostMetrics

end TagGateway.Metrics
