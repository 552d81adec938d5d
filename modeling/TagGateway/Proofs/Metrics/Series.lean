import Mathlib.Data.List.Induction
import TagGateway.Proofs.Metrics.Recordable

/-!
# What the metrics show after any updates

The series of a sensor depend on its own measurements only: how many there were, how many of them
were flawed, and for each quantity the last of them that has it.

* `sample?` — the value that is exposed under a name and labels; `SensorSeries` — the series that a
  sensor may have; `SensorMetrics.series?_eq` — each of them is exposed as its account has it.
* `Account.of` — the account of a sensor with these measurements, in closed form;
  `SensorMetrics.account_recordAll` — the one that the sensor has after any updates.
* `SensorMetrics.Shows` — what the exposed series of a sensor say of its measurements;
  **`SensorMetrics.series_of_updates`** — they say so after every sequence of updates.
-/

namespace TagGateway.Metrics

open Payload

/-! ## Samples -/

/-- The value of the first sample with a name and labels. -/
def sample? (samples : List Sample) (name : String) (labels : Labels) : Option Value :=
  (samples.find? fun x => x.name = name && x.labels = labels).map (·.value)

theorem sample?_append (a b : List Sample) (name : String) (labels : Labels) :
    sample? (a ++ b) name labels = (sample? a name labels).or (sample? b name labels) := by
  simp only [sample?, List.find?_append, Option.map_or]

theorem sample?_of_other_name {samples : List Sample} {name : String}
    (h : ∀ x ∈ samples, x.name ≠ name) (labels : Labels) : sample? samples name labels = none := by
  unfold sample?
  rw [Option.map_eq_none_iff, List.find?_eq_none]
  intro x hx
  simp [h x hx]

/-- The samples of a dictionary, in its order. -/
def samplesOf {κ β : Type} (name : String) (label : κ → Labels) (value : β → Value)
    (d : List (κ × β)) : List Sample :=
  d.map fun e => ⟨name, label e.1, value e.2⟩

section Dictionaries

variable {κ β : Type} {label : κ → Labels} {value : β → Value}

theorem sample?_samplesOf_of_ne {name name' : String} (h : name ≠ name') (d : List (κ × β))
    (labels : Labels) : sample? (samplesOf name label value d) name' labels = none := by
  refine sample?_of_other_name (fun x hx => ?_) labels
  obtain ⟨e, -, rfl⟩ := List.mem_map.mp hx
  exact h

/-- The value of a key is found under the labels of the key. -/
theorem sample?_samplesOf [BEq κ] [LawfulBEq κ] (hlabel : ∀ k k', label k = label k' → k = k')
    (value : β → Value) (name : String) (d : List (κ × β)) (k : κ) :
    sample? (samplesOf name label value d) name (label k) = (Assoc.get? k d).map value := by
  unfold sample? samplesOf
  induction d with
  | nil => rfl
  | cons e rest ih =>
    by_cases he : e.1 = k
    · simp [Assoc.get?, he]
    · have hne : label e.1 ≠ label k := fun h => he (hlabel _ _ h)
      simp only [List.map_cons, Assoc.get?, beq_iff_eq, he, if_false]
      rw [List.find?_cons_of_neg (by simp [hne])]
      exact ih

end Dictionaries

/-! ## The series of a sensor -/

/-- A series that a sensor may have. -/
inductive SensorSeries
  | gauge (q : Quantity)
  | axis (along : Axis)
  | errors
  | received

namespace SensorSeries

/-- The name of the metric that has the series. -/
def metricName : SensorSeries → String
  | gauge q => q.metricName
  | axis _ => "ruuvi_acceleration_gs"
  | errors => "ruuvi_errors_total"
  | received => "ruuvi_received_measurements_total"

/-- The labels of the series of a sensor. -/
def labels (mac : String) : SensorSeries → Labels
  | axis along => [("axis", along.label), ("mac", mac)]
  | _ => SensorMetrics.macLabel mac

end SensorSeries

/-- The value of a series, as the account has it. -/
def Account.value? (a : Account) : SensorSeries → Option Value
  | .gauge q => (a.gauge q).map .float
  | .axis along => (a.axis along).map .float
  | .errors => a.errors.map fun n => .float (Float.ofNat n)
  | .received => a.received.map fun n => .float (Float.ofNat n)

theorem Quantity.metricName_inj {q q' : Quantity} (h : q.metricName = q'.metricName) : q = q' := by
  cases q <;> cases q' <;> first | rfl | exact absurd h (by decide)

theorem Quantity.metricName_ne (q : Quantity) :
    q.metricName ≠ "ruuvi_acceleration_gs" ∧ q.metricName ≠ "ruuvi_errors_total" ∧
      q.metricName ≠ "ruuvi_received_measurements_total" := by
  cases q <;> decide

/-- The labels of the acceleration along an axis. -/
def axisLabels (k : String × Axis) : Labels := [("axis", k.2.label), ("mac", k.1)]

theorem macLabel_inj {mac mac' : String}
    (h : SensorMetrics.macLabel mac = SensorMetrics.macLabel mac') : mac = mac' := by
  simpa [SensorMetrics.macLabel] using h

theorem axisLabels_inj {k k' : String × Axis} (h : axisLabels k = axisLabels k') : k = k' := by
  obtain ⟨mac, along⟩ := k
  obtain ⟨mac', along'⟩ := k'
  simp only [axisLabels, List.cons.injEq, Prod.mk.injEq, true_and, and_true] at h
  obtain ⟨halong, rfl⟩ := h
  cases along <;> cases along' <;> first | rfl | exact absurd halong (by decide)

namespace SensorMetrics

/-- The exposed value of a series of a sensor. -/
def series? (s : SensorMetrics) (x : SensorSeries) (mac : String) : Option Value :=
  sample? s.samples x.metricName (x.labels mac)

/-- The samples of all gauges. -/
def gaugeSamples (gauges : List Gauge) : List Sample :=
  gauges.flatMap fun g => samplesOf g.quantity.metricName macLabel .float g.series

theorem sample?_gaugeSamples_of_ne {gauges : List Gauge} {name : String}
    (h : ∀ g ∈ gauges, g.quantity.metricName ≠ name) (labels : Labels) :
    sample? (gaugeSamples gauges) name labels = none := by
  refine sample?_of_other_name (fun x hx => ?_) labels
  obtain ⟨g, hg, hx⟩ := List.mem_flatMap.mp hx
  obtain ⟨e, -, rfl⟩ := List.mem_map.mp hx
  exact h g hg

/-- Where each quantity has one gauge its series is found under its name. -/
theorem sample?_gaugeSamples {gauges : List Gauge} (h : (gauges.map (·.quantity)).Nodup)
    (q : Quantity) (mac : String) :
    sample? (gaugeSamples gauges) q.metricName (macLabel mac) =
      (Assoc.get? mac (((gauges.find? (·.quantity = q)).map (·.series)).getD [])).map .float := by
  induction gauges with
  | nil => rfl
  | cons g rest ih =>
    rw [List.map_cons, List.nodup_cons] at h
    obtain ⟨hnotin, hrest⟩ := h
    rw [gaugeSamples, List.flatMap_cons, sample?_append]
    by_cases hq : g.quantity = q
    · have hothers : ∀ g' ∈ rest, g'.quantity.metricName ≠ q.metricName := by
        intro g' hg' hname
        rw [hq, ← Quantity.metricName_inj hname] at hnotin
        exact hnotin (List.mem_map_of_mem hg')
      rw [← gaugeSamples, sample?_gaugeSamples_of_ne hothers, Option.or_none,
        List.find?_cons_of_pos (by simpa using hq)]
      subst hq
      exact sample?_samplesOf (fun _ _ => macLabel_inj) _ _ g.series mac
    · rw [sample?_samplesOf_of_ne fun hname => hq (Quantity.metricName_inj hname),
        Option.none_or, List.find?_cons_of_neg (by simpa using hq)]
      exact ih hrest

variable {s : SensorMetrics}

theorem samples_eq (s : SensorMetrics) :
    s.samples = gaugeSamples s.gauges ++
      samplesOf "ruuvi_acceleration_gs" axisLabels .float s.acceleration ++
      samplesOf "ruuvi_errors_total" macLabel (fun n => .float (Float.ofNat n)) s.errors ++
      samplesOf "ruuvi_received_measurements_total" macLabel (fun n => .float (Float.ofNat n))
        s.received := by
  simp [samples, families, counterFamily, gaugeSamples, samplesOf, List.flatMap_map, axisLabels,
    gaugeFamily]

/-- **Every series of a sensor is exposed as its account has it.** -/
theorem series?_eq (h : s.IsComplete) (x : SensorSeries) (mac : String) :
    s.series? x mac = (s.account mac).value? x := by
  have hnodup : (s.gauges.map (·.quantity)).Nodup := by
    rw [h]
    decide
  have hae : "ruuvi_acceleration_gs" ≠ "ruuvi_errors_total" := by decide
  have har : "ruuvi_acceleration_gs" ≠ "ruuvi_received_measurements_total" := by decide
  have her : "ruuvi_errors_total" ≠ "ruuvi_received_measurements_total" := by decide
  unfold series?
  rw [samples_eq, sample?_append, sample?_append, sample?_append]
  cases x with
  | gauge q =>
    obtain ⟨hacc, herr, hrec⟩ := q.metricName_ne
    simp only [SensorSeries.metricName, SensorSeries.labels, sample?_gaugeSamples hnodup,
      sample?_samplesOf_of_ne hacc.symm, sample?_samplesOf_of_ne herr.symm,
      sample?_samplesOf_of_ne hrec.symm, Option.or_none]
    rfl
  | axis along =>
    have hfind := sample?_samplesOf (fun _ _ => axisLabels_inj) Value.float
      "ruuvi_acceleration_gs" s.acceleration (mac, along)
    simp only [SensorSeries.metricName,
      sample?_gaugeSamples_of_ne fun g _ => g.quantity.metricName_ne.1,
      sample?_samplesOf_of_ne hae.symm, sample?_samplesOf_of_ne har.symm, Option.or_none,
      Option.none_or]
    exact hfind
  | errors =>
    have hfind := sample?_samplesOf (fun _ _ => macLabel_inj)
      (fun n => Value.float (Float.ofNat n)) "ruuvi_errors_total" s.errors mac
    simp only [SensorSeries.metricName,
      sample?_gaugeSamples_of_ne fun g _ => g.quantity.metricName_ne.2.1,
      sample?_samplesOf_of_ne hae, sample?_samplesOf_of_ne her.symm, Option.or_none,
      Option.none_or]
    exact hfind
  | received =>
    have hfind := sample?_samplesOf (fun _ _ => macLabel_inj)
      (fun n => Value.float (Float.ofNat n)) "ruuvi_received_measurements_total" s.received mac
    simp only [SensorSeries.metricName,
      sample?_gaugeSamples_of_ne fun g _ => g.quantity.metricName_ne.2.2,
      sample?_samplesOf_of_ne har, sample?_samplesOf_of_ne her, Option.none_or]
    exact hfind

end SensorMetrics

/-! ## Sequences of measurements -/

/-- The account of a sensor with these measurements, in order: each gauge is at the last of them
that has its quantity. -/
def Account.of (own : List Measurement) : Account where
  gauge q := (own.filter (·.carries q)).getLast?.bind (·.shown? q)
  axis along := own.getLast?.bind (·.axis? along)
  errors := if own = [] then none else some (own.countP (·.flawed))
  received := if own = [] then none else some own.length

/-- One more measurement is added to the account. -/
theorem Account.of_concat (own : List Measurement) {m : Measurement} (hm : m.IsRecordable) :
    Account.of (own ++ [m]) = (Account.of own).add m := by
  obtain ⟨x, y, z, hx, hy, hz⟩ := hm.axes
  refine Account.ext (funext fun q => ?_) (funext fun along => ?_) ?_ ?_
  · simp only [Account.of, Account.add, List.filter_append]
    cases hc : m.carries q with
    | true =>
      obtain ⟨v, hv⟩ := Option.isSome_iff_exists.mp (hm q hc)
      simp [hc, hv]
    | false => simp [hc, Measurement.shown?_of_not_carries hc]
  · cases along <;> simp [Account.of, Account.add, hx, hy, hz]
  · by_cases hown : own = [] <;> cases hf : m.flawed <;>
      simp [Account.of, Account.add, hown, hf, List.countP_append]
  · by_cases hown : own = [] <;> simp [Account.of, Account.add, hown]

/-- A measurement of data format 3 leaves the gauges of the transmission data. -/
theorem Account.gauge_add_of_format3 {m : Measurement} (h : m.tag = 3) (a : Account) {q : Quantity}
    (hq : q ∈ [Quantity.movement, .txPower, .sequence]) : (a.add m).gauge q = a.gauge q := by
  have htransmission : m.transmission.isSome = false := by
    cases ht : m.transmission.isSome with
    | false => rfl
    | true => simp [Measurement.tag, ht] at h
  have hcarries : m.carries q = false := by
    simp only [List.mem_cons, List.not_mem_nil, or_false] at hq
    rcases hq with rfl | rfl | rfl <;> exact htransmission
  simp only [Account.add, Measurement.shown?_of_not_carries hcarries, Option.none_or]

namespace SensorMetrics

/-- The metrics after updates with these measurements, in order. -/
def recordAll (ms : List Measurement) : SensorMetrics :=
  ms.foldl (fun s m => (s.update m.sheet).1) {}

theorem recordAll_concat (ms : List Measurement) (m : Measurement) :
    recordAll (ms ++ [m]) = ((recordAll ms).update m.sheet).1 := by
  rw [recordAll, List.foldl_append]
  rfl

theorem isComplete_recordAll {ms : List Measurement} (hms : ∀ m ∈ ms, m.IsRecordable) :
    (recordAll ms).IsComplete := by
  induction ms using List.reverseRecOn with
  | nil => exact isComplete_new
  | append_singleton ms m ih =>
    rw [List.forall_mem_append] at hms
    rw [recordAll_concat]
    exact (ih hms.1).update (hms.2 m (List.mem_singleton_self m))

/-- **The account of a sensor is that of its measurements**, whatever was recorded between them. -/
theorem account_recordAll {ms : List Measurement} (hms : ∀ m ∈ ms, m.IsRecordable) (mac : String) :
    (recordAll ms).account mac = Account.of (ms.filter (·.mac = mac)) := by
  induction ms using List.reverseRecOn with
  | nil => exact account_new mac
  | append_singleton ms m ih =>
    rw [List.forall_mem_append] at hms
    have hm := hms.2 m (List.mem_singleton_self m)
    rw [recordAll_concat, account_update (isComplete_recordAll hms.1) hm, ih hms.1,
      List.filter_append]
    by_cases hmac : m.mac = mac
    · rw [if_pos hmac.symm, List.filter_cons_of_pos (by simpa using hmac), List.filter_nil,
        Account.of_concat _ hm]
    · rw [if_neg (Ne.symm hmac), List.filter_cons_of_neg (by simpa using hmac), List.filter_nil,
        List.append_nil]

theorem series?_recordAll {ms : List Measurement} (hms : ∀ m ∈ ms, m.IsRecordable)
    (x : SensorSeries) (mac : String) :
    (recordAll ms).series? x mac = (Account.of (ms.filter (·.mac = mac))).value? x := by
  rw [series?_eq (isComplete_recordAll hms), account_recordAll hms]

/-- What the exposed series of a sensor say of its measurements. -/
structure Shows (s : SensorMetrics) (mac : String) (own : List Measurement) : Prop where
  received : s.series? .received mac =
    if own = [] then none else some (.float (Float.ofNat own.length))
  errors : s.series? .errors mac =
    if own = [] then none else some (.float (Float.ofNat (own.countP (·.flawed))))
  /-- A gauge exists if some measurement has its quantity. -/
  gauge_isSome : ∀ q, (s.series? (.gauge q) mac).isSome = true ↔ ∃ m ∈ own, m.carries q = true
  /-- It is at the number of the last measurement that has it. -/
  gauge_last : ∀ q m, (own.filter (·.carries q)).getLast? = some m →
    ∃ v, m.shown? q = some v ∧ s.series? (.gauge q) mac = some (.float v)
  /-- Each axis is at the last measurement. -/
  axis_last : ∀ along m, own.getLast? = some m →
    ∃ v, m.axis? along = some v ∧ s.series? (.axis along) mac = some (.float v)

theorem shows_of_series? {s : SensorMetrics} {mac : String} {own : List Measurement}
    (hown : ∀ m ∈ own, m.IsRecordable)
    (h : ∀ x, s.series? x mac = (Account.of own).value? x) : Shows s mac own := by
  have hlast (q : Quantity) (m : Measurement)
      (hm : (own.filter (·.carries q)).getLast? = some m) :
      ∃ v, m.shown? q = some v ∧ s.series? (.gauge q) mac = some (.float v) := by
    obtain ⟨hmem, hc⟩ := List.mem_filter.mp (List.mem_of_getLast? hm)
    obtain ⟨v, hv⟩ := Option.isSome_iff_exists.mp (hown m hmem q hc)
    exact ⟨v, hv, by simp only [h, Account.value?, Account.of, hm, hv, Option.bind_some,
      Option.map_some]⟩
  refine ⟨?_, ?_, fun q => ⟨fun hsome => ?_, fun ⟨m, hmem, hc⟩ => ?_⟩, hlast, fun along m hm => ?_⟩
  · rw [h, Account.value?, Account.of]
    split <;> rfl
  · rw [h, Account.value?, Account.of]
    split <;> rfl
  · cases hl : (own.filter (·.carries q)).getLast? with
    | none =>
      simp only [h, Account.value?, Account.of, hl, Option.bind_none, Option.map_none] at hsome
      cases hsome
    | some m =>
      obtain ⟨hmem, hc⟩ := List.mem_filter.mp (List.mem_of_getLast? hl)
      exact ⟨m, hmem, hc⟩
  · have hne : own.filter (·.carries q) ≠ [] := List.ne_nil_of_mem (List.mem_filter.mpr ⟨hmem, hc⟩)
    obtain ⟨v, -, hv⟩ := hlast q _ (List.getLast?_eq_some_getLast hne)
    simp [hv]
  · obtain ⟨x, y, z, hx, hy, hz⟩ := (hown m (List.mem_of_getLast? hm)).axes
    have haxis : s.series? (.axis along) mac = (m.axis? along).map .float := by
      simp [h, Account.value?, Account.of, hm]
    cases along
    · exact ⟨x, hx, by rw [haxis, hx]; rfl⟩
    · exact ⟨y, hy, by rw [haxis, hy]; rfl⟩
    · exact ⟨z, hz, by rw [haxis, hz]; rfl⟩

/-- **What the metrics show after any updates.** The series of every sensor tell the number of its
measurements, the number of the flawed ones, and of each quantity and axis the last that it has.
Any further update succeeds and changes no series of another sensor; one in data format 3 leaves
those of the transmission data; two updates for different sensors can be exchanged. -/
theorem series_of_updates (ms : List Measurement) (hms : ∀ m ∈ ms, m.IsRecordable) :
    (∀ mac, Shows (recordAll ms) mac (ms.filter (·.mac = mac))) ∧
    (∀ m : Measurement, m.IsRecordable →
      ((recordAll ms).update m.sheet).2 = .ok () ∧
      (∀ mac x, mac ≠ m.mac →
        ((recordAll ms).update m.sheet).1.series? x mac = (recordAll ms).series? x mac) ∧
      (m.tag = 3 → ∀ mac, ∀ q ∈ [Quantity.movement, .txPower, .sequence],
        ((recordAll ms).update m.sheet).1.series? (.gauge q) mac =
          (recordAll ms).series? (.gauge q) mac)) ∧
    (∀ m m' : Measurement, m.IsRecordable → m'.IsRecordable → m.mac ≠ m'.mac → ∀ mac x,
      (recordAll (ms ++ [m, m'])).series? x mac = (recordAll (ms ++ [m', m])).series? x mac) := by
  have hcomplete := isComplete_recordAll hms
  refine ⟨fun mac => ?_, fun m hm => ⟨update_ok hm, ?_, ?_⟩, ?_⟩
  · exact shows_of_series? (fun m hm => hms m (List.mem_filter.mp hm).1)
      fun x => series?_recordAll hms x mac
  · intro mac x hmac
    rw [series?_eq (hcomplete.update hm), series?_eq hcomplete, account_update hcomplete hm,
      if_neg hmac]
  · intro htag mac q hq
    rw [series?_eq (hcomplete.update hm), series?_eq hcomplete, account_update hcomplete hm]
    by_cases hmac : mac = m.mac
    · rw [if_pos hmac, Account.value?, Account.gauge_add_of_format3 htag _ hq]
      rfl
    · rw [if_neg hmac]
  · intro m m' hm hm' hne mac x
    have hms' {l : List Measurement} (hl : ∀ n ∈ l, n = m ∨ n = m') :
        ∀ n ∈ ms ++ l, n.IsRecordable := by
      refine List.forall_mem_append.mpr ⟨hms, fun n hn => ?_⟩
      rcases hl n hn with rfl | rfl
      · exact hm
      · exact hm'
    -- of two sensors each sees its own measurement only, so the order does not show
    have hsame : [m, m'].filter (·.mac = mac) = [m', m].filter (·.mac = mac) := by
      by_cases hmac : m.mac = mac
      · have hmac' : m'.mac ≠ mac := fun h => hne (hmac.trans h.symm)
        simp [hmac, hmac']
      · simp [List.filter_cons, hmac]
    rw [series?_recordAll (hms' (by simp)), series?_recordAll (hms' (by simp [or_comm])),
      List.filter_append, List.filter_append, hsame]

/-- A measurement of a sensor with every field at its marker, in either format. -/
def unmeasured (mac : String) (transmission : Option Transmission) : Measurement :=
  { mac, transmission, flawed := transmission.isSome }

theorem isNarrow_unmeasured (mac : String) {transmission : Option Transmission}
    (h : ∀ t ∈ transmission, t = {}) : (unmeasured mac transmission).IsNarrow where
  temperature := trivial
  humidity := trivial
  pressure := by simp [unmeasured, Number.IsNarrow]
  acceleration := by simp [unmeasured, Acceleration.components, Number.IsNarrow, Number.invalid]
  batteryVoltage := trivial
  transmission t ht := by
    cases h t ht
    simp [Number.IsNarrow]
  signalStrength := by simp [unmeasured, Number.IsNarrow]

/-- Two sensors, one of them in both formats and first with errors. -/
theorem series_of_updates_mixed :
    let first := unmeasured "C0:FF:EE:00:00:01" (some {})
    let other := unmeasured "C0:FF:EE:00:00:02" (some {})
    let last := unmeasured "C0:FF:EE:00:00:01" none
    Shows (recordAll [first, other, last]) "C0:FF:EE:00:00:01" [first, last] ∧
      (recordAll ([last] ++ [first, other])).series? .errors "C0:FF:EE:00:00:01" =
        (recordAll ([last] ++ [other, first])).series? .errors "C0:FF:EE:00:00:01" := by
  intro first other last
  have hfirst : first.IsRecordable := (isNarrow_unmeasured _ (by simp)).isRecordable
  have hother : other.IsRecordable := (isNarrow_unmeasured _ (by simp)).isRecordable
  have hlast : last.IsRecordable := (isNarrow_unmeasured _ (by simp)).isRecordable
  have hown : [first, other, last].filter (·.mac = "C0:FF:EE:00:00:01") = [first, last] := rfl
  have hall := series_of_updates [first, other, last] (by simp [hfirst, hother, hlast])
  have hone := series_of_updates [last] (by simp [hlast])
  refine ⟨?_, hone.2.2 first other hfirst hother (by simp [first, other, unmeasured]) _ _⟩
  rw [← hown]
  exact hall.1 "C0:FF:EE:00:00:01"

end SensorMetrics

end TagGateway.Metrics
