import TagGateway.Proofs.Assoc
import TagGateway.Proofs.Gateway.Strictness

/-!
# The counters of a gateway

Every advertisement is counted as received and once more by what became of it, and the counts that
the metrics expose, sensor by sensor, add up to the measurements that the gateway counts.

* `Tally.Step` — the ways in which one advertisement is counted; `Tally.step_count` — that the
  outcome of decoding is counted in one of them.
* `SensorMetrics.samples_received` — the exposed samples of the counter of measurements.
* `Gateway.Reconciled` — that the counters agree; `Reconciled.handle`, `Reconciled.takeAll` — they
  do after one advertisement, and after any.
* **`Gateway.counters_reconciled`** — what every call does to the counters, and how they stand.
-/

namespace TagGateway

/-! ## The tally -/

/-- One more advertisement on a tally: it is ignored if its format is not decoded, and otherwise
decoded or dropped. -/
inductive Tally.Step (format : PayloadFormat) (t : Tally) : Tally → Prop
  | decoded (h : format = .format5 ∨ format = .format3) :
    Step format t { t with received := t.received + 1, decoded := t.decoded + 1 }
  | dropped (h : format = .format5 ∨ format = .format3) :
    Step format t { t with received := t.received + 1, dropped := t.dropped + 1 }
  | ignored (h5 : format ≠ .format5) (h3 : format ≠ .format3) :
    Step format t { t with received := t.received + 1, ignored := t.ignored + 1 }

/-- What is decoded of an advertisement is counted by the format of the advertisement. -/
theorem Tally.step_count (t : Tally) (mode : Payload.Mode) (a : Advertisement) :
    Tally.Step (Payload.identify a) t (t.count (Payload.decode mode a)) := by
  obtain ⟨h5, h3, hnone⟩ | ⟨hformat, ⟨tag, flaw, hrefused⟩ | ⟨tag, m, found, -, hsettled⟩⟩ :=
    Payload.decode_cases a
  · rw [hnone mode]
    exact .ignored h5 h3
  · rw [hrefused mode]
    exact .dropped hformat
  · rw [hsettled mode]
    unfold Payload.settled
    split
    · exact .dropped hformat
    · exact .decoded hformat

variable {format : PayloadFormat} {t t' : Tally}

/-- An advertisement is ignored for its format and for nothing else. -/
theorem Tally.Step.ignored_iff (h : Tally.Step format t t') :
    t'.ignored = t.ignored + 1 ↔ format ≠ .format5 ∧ format ≠ .format3 := by
  cases h with
  | decoded hformat | dropped hformat =>
    refine iff_of_false (Nat.ne_of_lt (Nat.lt_succ_self _)) fun hother => ?_
    exact hformat.elim hother.1 hother.2
  | ignored h5 h3 => exact iff_of_true rfl ⟨h5, h3⟩

theorem Tally.Step.balance (h : Tally.Step format t t')
    (ht : t.received = t.decoded + t.dropped + t.ignored) :
    t'.received = t'.decoded + t'.dropped + t'.ignored := by
  cases h <;> simp only [ht] <;> omega

/-! ## The exposed counts -/

namespace Metrics

theorem filter_samplesOf_of_ne {κ β : Type} {label : κ → Labels} {value : β → Value}
    {name name' : String} (h : name ≠ name') (d : List (κ × β)) :
    (samplesOf name label value d).filter (·.name = name') = [] := by
  refine List.filter_eq_nil_iff.mpr fun x hx => ?_
  obtain ⟨e, -, rfl⟩ := List.mem_map.mp hx
  simpa using h

theorem filter_samplesOf {κ β : Type} {label : κ → Labels} {value : β → Value} (name : String)
    (d : List (κ × β)) :
    (samplesOf name label value d).filter (·.name = name) = samplesOf name label value d := by
  refine List.filter_eq_self.mpr fun x hx => ?_
  obtain ⟨e, -, rfl⟩ := List.mem_map.mp hx
  exact decide_eq_true rfl

namespace SensorMetrics

/-- The samples of the counter of measurements: one for each sensor that has a count. -/
theorem samples_received (s : SensorMetrics) :
    s.samples.filter (·.name = "ruuvi_received_measurements_total") =
      s.received.map fun (mac, n) =>
        ⟨"ruuvi_received_measurements_total", macLabel mac, .float (Float.ofNat n)⟩ := by
  have hgauges : (gaugeSamples s.gauges).filter
      (·.name = "ruuvi_received_measurements_total") = [] := by
    refine List.filter_eq_nil_iff.mpr fun x hx => ?_
    obtain ⟨g, -, hx⟩ := List.mem_flatMap.mp hx
    obtain ⟨e, -, rfl⟩ := List.mem_map.mp hx
    simpa using g.quantity.metricName_ne.2.2
  rw [samples_eq, List.filter_append, List.filter_append, List.filter_append, hgauges,
    filter_samplesOf_of_ne (by decide), filter_samplesOf_of_ne (by decide), filter_samplesOf]
  rfl

end SensorMetrics

/-- Counting adds to the sum of all counts. -/
theorem sum_count (mac : String) (n : Nat) (counts : List (String × Nat)) :
    ((count mac n counts).map (·.2)).sum = (counts.map (·.2)).sum + n := by
  have hsum := Assoc.sum_put mac ((Assoc.get? mac counts).getD 0 + n) counts
  unfold count
  omega

end Metrics

/-! ## Both together -/

namespace Gateway

open Metrics

/-- The counters of a gateway agree with each other and with those of its metrics. -/
structure Reconciled (g : Gateway) : Prop where
  balance : g.tally.received = g.tally.decoded + g.tally.dropped + g.tally.ignored
  /-- No sensor has two counts. -/
  sensors : (g.sensors.received.map (·.1)).Nodup
  total : (g.sensors.received.map (·.2)).sum = g.tally.decoded

variable {g : Gateway} {a : Advertisement} {as : List Advertisement}

theorem IsFresh.reconciled (h : g.IsFresh) : g.Reconciled where
  balance := by
    rw [h.tally]
    rfl
  sensors := by
    rw [h.sensors]
    exact List.nodup_nil
  total := by
    rw [h.sensors, h.tally]
    rfl

/-- One advertisement leaves the counters in agreement. -/
theorem Reconciled.handle (h : g.Reconciled) (ha : a.IsRecord) : (g.handle a).1.Reconciled := by
  obtain ⟨notices, hhandle⟩ := g.handle_eq ha
  have hbalance := (g.tally.step_count g.mode a).balance h.balance
  rw [hhandle]
  cases hdecode : Payload.decode g.mode a with
  | error f => exact ⟨hdecode ▸ hbalance, h.sensors, h.total⟩
  | ok outcome =>
    cases outcome with
    | none => exact ⟨hdecode ▸ hbalance, h.sensors, h.total⟩
    | some m =>
      have hreceived : (g.sensors.update m.sheet).1.received =
          count m.mac 1 g.sensors.received := by
        rw [SensorMetrics.update_sheet (Payload.isRecordable_of_decode ha.received hdecode)]
      refine ⟨hdecode ▸ hbalance, ?_, ?_⟩
      · simp only [settle, SensorMetrics.record, hreceived]
        exact Assoc.nodup_keys_put _ h.sensors
      · simp only [settle, SensorMetrics.record, Tally.count, hreceived, sum_count, h.total]

theorem Reconciled.takeAll (h : g.Reconciled) (has : ∀ a ∈ as, a.IsRecord) :
    (g.takeAll as).Reconciled := by
  induction as generalizing g with
  | nil => exact h
  | cons a as ih =>
    rw [List.forall_mem_cons] at has
    exact ih (h.handle has.1) has.2

/-- **The counters are reconciled.** Whatever a gateway has taken since it was set up, it takes the
next advertisement without a fault: that is one more received, and one more of exactly one outcome,
ignored where the format is none of those that are decoded and only there, so that no other is
without a measurement or a refusal. What was received is the sum of all outcomes, and what was
decoded that of the exposed counts of all sensors. -/
theorem counters_reconciled (hg : g.IsFresh) (as : List Advertisement)
    (has : ∀ a ∈ as, a.IsRecord) :
    (∀ a : Advertisement, a.IsRecord →
      (∃ notices, (g.takeAll as).handle a = (g.takeAll (as ++ [a]), notices, .ok ())) ∧
      Tally.Step (Payload.identify a) (g.takeAll as).tally (g.takeAll (as ++ [a])).tally ∧
      ((g.takeAll (as ++ [a])).tally.ignored = (g.takeAll as).tally.ignored + 1 ↔
        Payload.identify a ≠ .format5 ∧ Payload.identify a ≠ .format3) ∧
      (Payload.decode (g.takeAll as).mode a = .ok none ↔
        Payload.identify a ≠ .format5 ∧ Payload.identify a ≠ .format3)) ∧
    (g.takeAll as).tally.received = (g.takeAll as).tally.decoded + (g.takeAll as).tally.dropped +
      (g.takeAll as).tally.ignored ∧
    (g.takeAll as).sensors.samples.filter (·.name = "ruuvi_received_measurements_total") =
      (g.takeAll as).sensors.received.map (fun (mac, n) =>
        ⟨"ruuvi_received_measurements_total", SensorMetrics.macLabel mac,
          .float (Float.ofNat n)⟩) ∧
    ((g.takeAll as).sensors.received.map (·.1)).Nodup ∧
    ((g.takeAll as).sensors.received.map (·.2)).sum = (g.takeAll as).tally.decoded := by
  have hreconciled := hg.reconciled.takeAll has
  refine ⟨fun a ha => ?_, hreconciled.balance, SensorMetrics.samples_received _,
    hreconciled.sensors, hreconciled.total⟩
  obtain ⟨notices, hhandle⟩ := (g.takeAll as).handle_eq ha
  have hnext := takeAll_concat g as ha
  have hstep := (g.takeAll as).tally.step_count (g.takeAll as).mode a
  rw [hnext]
  refine ⟨⟨notices, hhandle⟩, hstep, hstep.ignored_iff, ?_⟩
  obtain ⟨h5, h3, hnone⟩ | ⟨hformat, hrest⟩ := Payload.decode_cases a
  · exact iff_of_true (hnone _) ⟨h5, h3⟩
  · refine iff_of_false (fun hnone => ?_) fun hother => hformat.elim hother.1 hother.2
    rcases decode_supported a (g.takeAll as).mode with ⟨hunsupported, -⟩ |
      ⟨-, ⟨tag, flaw, hrefused⟩ | ⟨m, hmeasured⟩⟩
    · exact absurd (supports_eq_true hformat) (by simp [hunsupported])
    · rw [hrefused] at hnone
      cases hnone
    · rw [hmeasured] at hnone
      cases hnone

/-- Two advertisements with the payload of one sensor, then one of another manufacturer: the first
two are all that the metrics count, and the third is ignored. -/
theorem counters_reconciled_foreign :
    let as : List Advertisement := [unread, { unread with mac := "C0:FF:EE:00:00:02" }]
    let foreign : Advertisement := { unread with manufacturer := .int 76 }
    ∃ g : Gateway, (∃ d, ofSettings (decoding "false") = .ok (g, d)) ∧
      ((g.takeAll as).sensors.received.map (·.2)).sum = (g.takeAll as).tally.decoded ∧
      (g.takeAll (as ++ [foreign])).tally.ignored = (g.takeAll as).tally.ignored + 1 := by
  intro as foreign
  have has : ∀ a ∈ as, a.IsRecord := by
    simp only [as, List.forall_mem_cons]
    exact ⟨⟨rfl, by decide⟩, ⟨rfl, by decide⟩, nofun⟩
  have hforeign : foreign.IsRecord := ⟨rfl, by decide⟩
  have hoff : (ofSettings (decoding "false")).toOption.map (·.1.strict) = some false := by
    decide +kernel
  obtain ⟨g, d, hmade, hfresh, -⟩ := exists_of_decoding hoff
  have hall := counters_reconciled hfresh as has
  refine ⟨g, ⟨d, hmade⟩, hall.2.2.2.2, ((hall.1 foreign hforeign).2.2.1).mpr ⟨?_, ?_⟩⟩ <;> decide

end Gateway

end TagGateway
