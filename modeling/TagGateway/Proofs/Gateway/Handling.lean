import TagGateway.Gateway.State
import TagGateway.Proofs.Metrics.Series

/-!
# What the gateway does with one advertisement

Whatever an advertisement holds, the gateway takes it without a fault, counts it once as received
and once by what decoding made of it, and records what was measured.

* `Advertisement.IsRecord` — that an advertisement is as a sensor sends it.
* `Gateway.settle` — the gateway with one more outcome of decoding; **`Gateway.handle_eq`** — this
  is all that handling does.
* `Gateway.takeAll` — handling one advertisement after the other; `Gateway.sensors_takeAll`,
  `Gateway.tally_takeAll` — the metrics and the tally after it, read off the outcomes.
-/

namespace TagGateway

/-- The manufacturer of an advertisement is a whole number and its signal strength a signed number
of 16 bits. -/
structure Advertisement.IsRecord (a : Advertisement) : Prop where
  manufacturer : a.manufacturer.asInt?.isSome = true
  received : a.IsReceived

/-! ## Descriptions -/

theorem Advertisement.IsRecord.describe {a : Advertisement} (h : a.IsRecord) :
    ∃ text, a.describe = .ok text := by
  obtain ⟨i, hi⟩ := Option.isSome_iff_exists.mp h.manufacturer
  have hdigits : a.draft.manufacturer.hexadecimal = .ok (paddedHex i) := by
    simp only [Advertisement.draft, Value.hexadecimal, hi]
  unfold Advertisement.describe Draft.describe
  rw [hdigits]
  exact ⟨_, rfl⟩

theorem Measurement.describe_sheet (m : Measurement) : ∃ text, m.sheet.describe = .ok text := by
  unfold Sheet.describe
  rw [m.axes_sheet]
  exact ⟨_, rfl⟩

/-! ## What is left of an outcome -/

/-- The tally with one more outcome of decoding. -/
def Tally.count (t : Tally) : Except Fault (Option Measurement) → Tally
  | .ok (some _) => { t with received := t.received + 1, decoded := t.decoded + 1 }
  | .ok none => { t with received := t.received + 1, ignored := t.ignored + 1 }
  | .error _ => { t with received := t.received + 1, dropped := t.dropped + 1 }

/-- The metrics with the measurement of an outcome, if it has one. -/
def Metrics.SensorMetrics.record (s : Metrics.SensorMetrics) :
    Except Fault (Option Measurement) → Metrics.SensorMetrics
  | .ok (some m) => (s.update m.sheet).1
  | _ => s

namespace Gateway

variable {g : Gateway} {a : Advertisement}

/-- The gateway with one more outcome of decoding. -/
def settle (g : Gateway) (outcome : Except Fault (Option Measurement)) : Gateway :=
  { g with sensors := g.sensors.record outcome, tally := g.tally.count outcome }

@[simp] theorem mode_settle (g : Gateway) (outcome : Except Fault (Option Measurement)) :
    (g.settle outcome).mode = g.mode := rfl

/-! ## Handling -/

/-- What can be described is no obstacle. -/
theorem introduction_ok {description : Except Fault String} (h : ∃ text, description = .ok text) :
    ∃ notices, g.introduction description = .ok notices := by
  obtain ⟨text, rfl⟩ := h
  unfold introduction
  split <;> exact ⟨_, rfl⟩

theorem record_ok {m : Measurement} (hm : m.IsRecordable) (sender : String) :
    ∃ notices, g.record sender m.sheet =
      ({ g with
          sensors := (g.sensors.update m.sheet).1
          tally := { g.tally with decoded := g.tally.decoded + 1 } }, notices, .ok ()) := by
  obtain ⟨notices, hnotices⟩ := introduction_ok (g := g) m.describe_sheet
  have hupdate : g.sensors.update m.sheet = ((g.sensors.update m.sheet).1, .ok ()) :=
    Prod.ext rfl (Metrics.SensorMetrics.update_ok hm)
  unfold record
  rw [hnotices, hupdate]
  exact ⟨_, rfl⟩

theorem supports_eq_false {format : PayloadFormat} (h5 : format ≠ .format5)
    (h3 : format ≠ .format3) : supports format = false := by
  cases format <;> first | rfl | contradiction

theorem supports_eq_true {format : PayloadFormat} (h : format = .format5 ∨ format = .format3) :
    supports format = true := by
  rcases h with rfl | rfl <;> rfl

/-- The outcome of one mode: nothing of a format that is not supported, otherwise a refusal or a
measurement. -/
theorem decode_supported (a : Advertisement) (mode : Payload.Mode) :
    (supports (Payload.identify a) = false ∧ Payload.decode mode a = .ok none) ∨
    (supports (Payload.identify a) = true ∧
      ((∃ tag flaw, Payload.decode mode a = .error (.undecodable tag flaw)) ∨
        ∃ m, Payload.decode mode a = .ok (some m))) := by
  obtain ⟨h5, h3, hnone⟩ | ⟨hformat, ⟨tag, flaw, hrefused⟩ | ⟨tag, m, found, -, hsettled⟩⟩ :=
    Payload.decode_cases a
  · exact .inl ⟨supports_eq_false h5 h3, hnone mode⟩
  · exact .inr ⟨supports_eq_true hformat, .inl ⟨tag, flaw, hrefused mode⟩⟩
  · refine .inr ⟨supports_eq_true hformat, ?_⟩
    rw [hsettled mode]
    unfold Payload.settled
    split
    · exact .inl ⟨_, _, rfl⟩
    · exact .inr ⟨_, rfl⟩

theorem decode_refused {tag : Nat} {flaw : Payload.Flaw}
    (h : Payload.decode g.mode a = .error (.undecodable tag flaw)) :
    ∃ notices, g.decode (.ofAdvertisement a) =
      ({ g with tally := { g.tally with dropped := g.tally.dropped + 1 } }, notices, .ok ()) := by
  have hdecoded : (Intake.ofAdvertisement a).decoded g.mode = .error (.undecodable tag flaw) := by
    simp only [Intake.ofAdvertisement, h, Except.map]
  unfold decode
  rw [hdecoded]
  exact ⟨_, rfl⟩

theorem decode_measured {m : Measurement} (h : Payload.decode g.mode a = .ok (some m))
    (ha : a.IsReceived) :
    ∃ notices, g.decode (.ofAdvertisement a) =
      ({ g with
          sensors := (g.sensors.update m.sheet).1
          tally := { g.tally with decoded := g.tally.decoded + 1 } }, notices, .ok ()) := by
  have hdecoded : (Intake.ofAdvertisement a).decoded g.mode = .ok (some m.sheet) := by
    simp only [Intake.ofAdvertisement, h, Except.map, Option.map_some]
  unfold decode
  rw [hdecoded]
  exact record_ok (Payload.isRecordable_of_decode ha h) a.mac

/-- **What handling does**: it does not fail, and leaves the gateway with one more outcome. -/
theorem handle_eq (g : Gateway) (ha : a.IsRecord) :
    ∃ notices, g.handle a = (g.settle (Payload.decode g.mode a), notices, .ok ()) := by
  let counted : Gateway := { g with tally := { g.tally with received := g.tally.received + 1 } }
  obtain ⟨remark, hremark⟩ := introduction_ok (g := counted) ha.describe
  have htake : g.handle a =
      if supports (Payload.identify a) = true then
        let decoded := counted.decode (.ofAdvertisement a)
        (decoded.1, remark ++ decoded.2.1, decoded.2.2)
      else ({ counted with tally := { counted.tally with ignored := counted.tally.ignored + 1 } },
        remark, .ok ()) := by
    have hintake : counted.introduction (Intake.ofAdvertisement a).description = .ok remark :=
      hremark
    unfold handle take
    simp only
    rw [hintake]
    rfl
  rcases decode_supported a g.mode with ⟨hformat, hdecode⟩ |
    ⟨hformat, ⟨tag, flaw, hdecode⟩ | ⟨m, hdecode⟩⟩
  · rw [htake, hdecode, if_neg (by simp [hformat])]
    exact ⟨_, rfl⟩
  · obtain ⟨notices, hr⟩ := decode_refused (g := counted) hdecode
    rw [htake, hdecode, if_pos hformat, hr]
    exact ⟨_, rfl⟩
  · obtain ⟨notices, hr⟩ := decode_measured (g := counted) hdecode ha.received
    rw [htake, hdecode, if_pos hformat, hr]
    exact ⟨_, rfl⟩

/-! ## Sequences of advertisements -/

/-- The gateway after these advertisements. -/
def takeAll (g : Gateway) (as : List Advertisement) : Gateway :=
  as.foldl (fun g a => (g.handle a).1) g

theorem takeAll_concat (g : Gateway) (as : List Advertisement) (ha : a.IsRecord) :
    g.takeAll (as ++ [a]) =
      (g.takeAll as).settle (Payload.decode (g.takeAll as).mode a) := by
  obtain ⟨notices, h⟩ := (g.takeAll as).handle_eq ha
  rw [takeAll, List.foldl_append]
  exact congrArg Prod.fst h

theorem mode_takeAll {as : List Advertisement} (has : ∀ a ∈ as, a.IsRecord) :
    (g.takeAll as).mode = g.mode := by
  induction as using List.reverseRecOn with
  | nil => rfl
  | append_singleton as a ih =>
    rw [List.forall_mem_append] at has
    rw [takeAll_concat g as (has.2 a (List.mem_singleton_self a)), mode_settle, ih has.1]

end Gateway

/-- What is measured of an advertisement. -/
def Payload.measured? (mode : Payload.Mode) (a : Advertisement) : Option Measurement :=
  (Payload.decode mode a).toOption.join

theorem Payload.decode_of_measured? {mode : Payload.Mode} {a : Advertisement} {m : Measurement}
    (h : Payload.measured? mode a = some m) : Payload.decode mode a = .ok (some m) := by
  unfold measured? at h
  cases hdecode : Payload.decode mode a with
  | error f => simp [hdecode, Except.toOption] at h
  | ok outcome =>
    simp only [hdecode, Except.toOption, Option.join_some] at h
    rw [h]

/-- Whether an advertisement is dropped. -/
def Payload.refuses (mode : Payload.Mode) (a : Advertisement) : Bool :=
  match Payload.decode mode a with
  | .error _ => true
  | .ok _ => false

/-- Whether an advertisement is in no format that is decoded. -/
def Payload.ignores (mode : Payload.Mode) (a : Advertisement) : Bool :=
  match Payload.decode mode a with
  | .ok none => true
  | _ => false

namespace Gateway

variable {g : Gateway} {as : List Advertisement}

/-- The metrics are those of the measured advertisements, in order. -/
theorem sensors_takeAll (hg : g.sensors = {}) (has : ∀ a ∈ as, a.IsRecord) :
    (g.takeAll as).sensors =
      Metrics.SensorMetrics.recordAll (as.filterMap (Payload.measured? g.mode)) := by
  induction as using List.reverseRecOn with
  | nil => exact hg
  | append_singleton as a ih =>
    rw [List.forall_mem_append] at has
    rw [takeAll_concat g as (has.2 a (List.mem_singleton_self a)), mode_takeAll has.1,
      List.filterMap_append]
    simp only [settle, ih has.1]
    cases hdecode : Payload.decode g.mode a with
    | error f => simp [Metrics.SensorMetrics.record, Payload.measured?, hdecode, Except.toOption]
    | ok outcome =>
      cases outcome with
      | none => simp [Metrics.SensorMetrics.record, Payload.measured?, hdecode, Except.toOption]
      | some m =>
        simp [Metrics.SensorMetrics.record, Payload.measured?, hdecode, Except.toOption,
          Metrics.SensorMetrics.recordAll_concat]

/-- Each advertisement is counted as received and once more by its outcome. -/
theorem tally_takeAll (hg : g.tally = {}) (has : ∀ a ∈ as, a.IsRecord) :
    (g.takeAll as).tally =
      { received := as.length
        decoded := (as.filterMap (Payload.measured? g.mode)).length
        dropped := as.countP (Payload.refuses g.mode)
        ignored := as.countP (Payload.ignores g.mode) } := by
  induction as using List.reverseRecOn with
  | nil => exact hg
  | append_singleton as a ih =>
    rw [List.forall_mem_append] at has
    rw [takeAll_concat g as (has.2 a (List.mem_singleton_self a)), mode_takeAll has.1,
      List.filterMap_append, List.countP_append, List.countP_append]
    simp only [settle, ih has.1]
    cases hdecode : Payload.decode g.mode a with
    | error f =>
      simp [Tally.count, Payload.measured?, Payload.refuses, Payload.ignores, hdecode,
        Except.toOption]
    | ok outcome =>
      cases outcome <;>
        simp [Tally.count, Payload.measured?, Payload.refuses, Payload.ignores, hdecode,
          Except.toOption]

end Gateway

end TagGateway
