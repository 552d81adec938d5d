import TagGateway.Metrics.Sensors

/-!
# What one update does to the metrics

The metrics are kept quantity by quantity, each with the series of all sensors. Read sensor by
sensor they are accounts, and a measurement changes the account of its own sensor only.

* `Measurement.shown?`, `Measurement.axis?` — the numbers that a measurement has to show;
  `Measurement.carries` — which quantities it has at all; `Measurement.IsRecordable` — that a gauge
  can hold each of them.
* `SensorMetrics.account` — the account of a sensor; `Account.add` — what a measurement adds to it.
* `SensorMetrics.update_ok` — an update with a recordable measurement does not fail;
  `SensorMetrics.account_update` — it changes one account, and this way.
-/

namespace TagGateway

open Metrics Payload

namespace Measurement

/-! ## What a measurement shows -/

/-- Whether a measurement has a quantity: the data of the transmission are not in data format 3. -/
def carries (m : Measurement) : Quantity → Bool
  | .movement | .txPower | .sequence => m.transmission.isSome
  | _ => true

/-- The number of a quantity, as a gauge holds it. -/
def shown? (m : Measurement) : Quantity → Option Float
  | .temperature => m.temperature.toFloat?
  | .humidity => m.humidity.toFloat?
  | .pressure => m.pressure.toFloat?
  | .acceleration => m.acceleration.total.toOption
  | .battery => m.batteryVoltage.toFloat?
  | .movement => m.transmission.bind (·.movementCounter.toFloat?)
  | .txPower => m.transmission.bind (·.txPower.toFloat?)
  | .sequence => m.transmission.bind (·.sequence.toFloat?)
  | .signalStrength => m.signalStrength.toFloat?

/-- The acceleration along an axis, as a gauge holds it. -/
def axis? (m : Measurement) : Axis → Option Float
  | .x => m.acceleration.x.toFloat?
  | .y => m.acceleration.y.toFloat?
  | .z => m.acceleration.z.toFloat?

/-- A gauge can hold every number of a measurement: none of them is a whole number beyond the range
of floating point. -/
def IsRecordable (m : Measurement) : Prop := ∀ q, m.carries q = true → (m.shown? q).isSome = true

theorem shown?_of_not_carries {m : Measurement} {q : Quantity} (h : m.carries q = false) :
    m.shown? q = none := by
  cases q <;> simp_all [carries, shown?]

/-- The total acceleration of a recordable measurement is that of three components. -/
theorem IsRecordable.axes {m : Measurement} (h : m.IsRecordable) :
    ∃ x y z, m.axis? .x = some x ∧ m.axis? .y = some y ∧ m.axis? .z = some z := by
  have htotal := h .acceleration rfl
  simp only [shown?, Acceleration.total, Acceleration.components, List.mapM_cons,
    List.mapM_nil] at htotal
  cases hx : m.acceleration.x.toFloat? with
  | none => simp [hx, Except.toOption] at htotal
  | some x =>
    cases hy : m.acceleration.y.toFloat? with
    | none => simp [hx, hy, Except.toOption] at htotal
    | some y =>
      cases hz : m.acceleration.z.toFloat? with
      | none => simp [hx, hy, hz, Except.toOption] at htotal
      | some z => exact ⟨x, y, z, hx, hy, hz⟩

end Measurement

/-! ## The sheet of a measurement -/

@[simp] theorem addressOf_sheet (m : Measurement) : addressOf m.sheet = m.mac := by
  obtain ⟨_, _, _, _, _, _ | _, _, _, _, _⟩ := m <;> rfl

@[simp] theorem Measurement.isFlawed_sheet (m : Measurement) : m.sheet.isFlawed = m.flawed := by
  obtain ⟨_, _, _, _, _, _ | _, _, _, _, _⟩ := m <;> rfl

@[simp] theorem Measurement.axes_sheet (m : Measurement) :
    m.sheet.axes = .ok (m.acceleration.components.map Value.ofNumber) := by
  obtain ⟨_, _, _, _, _, _ | _, _, _, _, _⟩ := m <;> rfl

theorem Value.real_ofNumber {n : Number} {x : Float} (h : n.toFloat? = some x) :
    (Value.ofNumber n).real = .ok x := by
  cases n with
  | whole i =>
    simp only [Number.toFloat?] at h
    simp only [Value.ofNumber, Value.real, h]
  | real y =>
    cases h
    rfl

theorem Sheet.component_ofNumber {n : Number} {x : Float} (h : n.toFloat? = some x) :
    Sheet.component (Value.ofNumber n) = .ok x := by
  cases n with
  | whole i =>
    simp only [Number.toFloat?] at h
    simp [Sheet.component, Value.ofNumber, Value.number?, Value.asInt?, Number.toFloat?, h]
  | real y =>
    cases h
    rfl

namespace Metrics

/-- What a measurement does not have is not on its sheet. -/
theorem Quantity.value?_of_not_carries {m : Measurement} {q : Quantity}
    (h : m.carries q = false) : q.value? m.sheet = .ok none := by
  obtain ⟨_, _, _, _, _, _ | _, _, _, _, _⟩ := m <;> cases q <;> first | rfl | cases h

/-- What a measurement has to show is on its sheet, as a value of this number. -/
theorem Quantity.value?_of_shown {m : Measurement} {q : Quantity} {x : Float}
    (hm : m.IsRecordable) (h : m.shown? q = some x) :
    ∃ v, q.value? m.sheet = .ok (some v) ∧ v.real = .ok x := by
  by_cases hq : q = .acceleration
  · subst hq
    obtain ⟨a, b, c, ha, hb, hc⟩ := hm.axes
    simp only [Measurement.axis?] at ha hb hc
    refine ⟨.float x, ?_, rfl⟩
    have htotal : m.sheet.accelerationTotal = .ok x := by
      simp only [Measurement.shown?, Acceleration.total, Acceleration.components, List.mapM_cons,
        List.mapM_nil, ha, hb, hc] at h
      cases h
      simp [Sheet.accelerationTotal, Acceleration.components, Sheet.component_ofNumber ha,
        Sheet.component_ofNumber hb, Sheet.component_ofNumber hc, bind, Except.bind, pure,
        Except.pure]
    simp [Quantity.value?, htotal, Except.map]
  · obtain ⟨n, hvalue, hn⟩ : ∃ n, q.value? m.sheet = .ok (some (.ofNumber n)) ∧
        n.toFloat? = some x := by
      obtain ⟨_, _, _, _, _, _ | _, _, _, _, _⟩ := m <;> cases q <;>
        first | exact absurd rfl hq | exact ⟨_, rfl, h⟩ | cases h
    exact ⟨_, hvalue, Value.real_ofNumber hn⟩

/-! ## Gauges -/

/-- The gauge after it has shown a measurement, if that has its quantity. -/
def Gauge.show (g : Gauge) (m : Measurement) : Gauge :=
  match m.shown? g.quantity with
  | some x => { g with series := Assoc.put m.mac x (Gauge.touch m.mac g.series) }
  | none => g

@[simp] theorem Gauge.quantity_show (g : Gauge) (m : Measurement) :
    (g.show m).quantity = g.quantity := by
  unfold Gauge.show
  split <;> rfl

theorem Gauge.get?_touch_of_ne {mac mac' : String} (h : mac' ≠ mac) (s : Series) :
    Assoc.get? mac' (touch mac s) = Assoc.get? mac' s := by
  unfold touch
  split
  · rfl
  · induction s with
    | nil => simp [Assoc.get?, Ne.symm h]
    | cons e rest ih =>
      rename_i hnew
      have hrest : ¬Assoc.has mac rest = true := by
        simp only [Assoc.has, List.any_cons, Bool.or_eq_true, not_or] at hnew ⊢
        exact hnew.2
      by_cases he : e.1 = mac' <;> simp [Assoc.get?, he, ih hrest]

theorem Gauge.get?_show (g : Gauge) (m : Measurement) (mac : String) :
    Assoc.get? mac (g.show m).series =
      if mac = m.mac then (m.shown? g.quantity).or (Assoc.get? mac g.series)
      else Assoc.get? mac g.series := by
  unfold Gauge.show
  cases hshown : m.shown? g.quantity with
  | none => simp
  | some x =>
    by_cases hmac : mac = m.mac
    · simp [hmac, Assoc.get?_put_self]
    · simp [hmac, Assoc.get?_put_of_ne hmac, Gauge.get?_touch_of_ne hmac]

/-- A recordable measurement is shown by all gauges. -/
theorem setGauges_sheet {m : Measurement} (hm : m.IsRecordable) (gauges : List Gauge) :
    setGauges m.sheet gauges = (gauges.map (·.show m), .ok ()) := by
  induction gauges with
  | nil => rfl
  | cons g rest ih =>
    unfold setGauges
    cases hshown : m.shown? g.quantity with
    | none =>
      have hcarries : m.carries g.quantity = false := by
        refine Bool.eq_false_iff.mpr fun hc => ?_
        have hsome := hm g.quantity hc
        rw [hshown] at hsome
        cases hsome
      simp only [Quantity.value?_of_not_carries hcarries, ih, List.map_cons, Gauge.show, hshown]
    | some x =>
      obtain ⟨v, hvalue, hreal⟩ := Quantity.value?_of_shown hm hshown
      simp only [hvalue, Gauge.set, addressOf_sheet, hreal, ih, List.map_cons, Gauge.show, hshown]

/-! ## Accounts -/

/-- What the metrics show for one sensor. A series that is not there is `none`. -/
@[ext] structure Account where
  gauge : Quantity → Option Float := fun _ => none
  axis : Axis → Option Float := fun _ => none
  errors : Option Nat := none
  received : Option Nat := none

/-- The account after a measurement of its sensor. -/
def Account.add (a : Account) (m : Measurement) : Account where
  gauge q := (m.shown? q).or (a.gauge q)
  axis along := (m.axis? along).or (a.axis along)
  errors := some (a.errors.getD 0 + if m.flawed then 1 else 0)
  received := some (a.received.getD 0 + 1)

namespace SensorMetrics

/-- The series of a quantity. -/
def seriesOf (s : SensorMetrics) (q : Quantity) : Series :=
  ((s.gauges.find? (·.quantity = q)).map (·.series)).getD []

/-- The account of a sensor. -/
def account (s : SensorMetrics) (mac : String) : Account where
  gauge q := Assoc.get? mac (s.seriesOf q)
  axis along := Assoc.get? (mac, along) s.acceleration
  errors := Assoc.get? mac s.errors
  received := Assoc.get? mac s.received

/-- There is one gauge for each quantity, in order. -/
def IsComplete (s : SensorMetrics) : Prop := s.gauges.map (·.quantity) = Quantity.all

theorem isComplete_new : ({} : SensorMetrics).IsComplete := rfl

theorem account_new (mac : String) : ({} : SensorMetrics).account mac = {} := by
  refine Account.ext (funext fun q => ?_) (funext fun along => rfl) rfl rfl
  cases q <;> rfl

variable {s : SensorMetrics} {m : Measurement}

theorem update_sheet (hm : m.IsRecordable) :
    s.update m.sheet =
      ({ gauges := s.gauges.map (·.show m)
         acceleration := setAcceleration m.sheet s.acceleration
         errors := count m.mac (if m.flawed then 1 else 0) s.errors
         received := count m.mac 1 s.received }, .ok ()) := by
  simp only [update, setGauges_sheet hm, addressOf_sheet, Measurement.isFlawed_sheet]

/-- An update with a recordable measurement does not fail. -/
theorem update_ok (hm : m.IsRecordable) : (s.update m.sheet).2 = .ok () := by
  rw [update_sheet hm]

theorem IsComplete.update (h : s.IsComplete) (hm : m.IsRecordable) :
    (s.update m.sheet).1.IsComplete := by
  rw [update_sheet hm]
  unfold IsComplete at h ⊢
  rw [List.map_map, ← h]
  exact List.map_congr_left fun g _ => g.quantity_show m

theorem find?_show (gauges : List Gauge) (q : Quantity) :
    (gauges.map (·.show m)).find? (·.quantity = q) =
      (gauges.find? (·.quantity = q)).map (·.show m) := by
  rw [List.find?_map]
  congr 1
  refine congrArg (fun p => gauges.find? p) (funext fun g => ?_)
  simp

/-- The gauges of a complete set of metrics show a measurement for its sensor only. -/
theorem gauge_account_update (h : s.IsComplete) (hm : m.IsRecordable) (mac : String)
    (q : Quantity) :
    ((s.update m.sheet).1.account mac).gauge q =
      if mac = m.mac then (m.shown? q).or ((s.account mac).gauge q)
      else (s.account mac).gauge q := by
  have hmem : q ∈ s.gauges.map (·.quantity) := by
    rw [h]
    cases q <;> decide
  obtain ⟨g₀, hg₀, hq₀⟩ := List.mem_map.mp hmem
  cases hfind : s.gauges.find? (·.quantity = q) with
  | none =>
    have := List.find?_eq_none.mp hfind g₀ hg₀
    simp [hq₀] at this
  | some g =>
    have hq : g.quantity = q := by simpa using List.find?_some hfind
    simp only [account, seriesOf, update_sheet hm, find?_show, hfind, Option.map_some,
      Option.getD_some, g.get?_show m mac, hq]

/-- The accelerations of a recordable measurement, axis by axis. -/
theorem setAcceleration_sheet (hm : m.IsRecordable)
    (series : List ((String × Axis) × Float)) :
    ∃ x y z, m.axis? .x = some x ∧ m.axis? .y = some y ∧ m.axis? .z = some z ∧
      setAcceleration m.sheet series =
        Assoc.put (m.mac, .z) z (Assoc.put (m.mac, .y) y (Assoc.put (m.mac, .x) x series)) := by
  obtain ⟨x, y, z, hx, hy, hz⟩ := hm.axes
  refine ⟨x, y, z, hx, hy, hz, ?_⟩
  simp only [Measurement.axis?] at hx hy hz
  simp [setAcceleration, accelerations, Except.toOption, Axis.all, Acceleration.components,
    Sheet.component_ofNumber hx, Sheet.component_ofNumber hy, Sheet.component_ofNumber hz]

theorem axis_account_update (hm : m.IsRecordable) (mac : String) (axis : Axis) :
    ((s.update m.sheet).1.account mac).axis axis =
      if mac = m.mac then (m.axis? axis).or ((s.account mac).axis axis)
      else (s.account mac).axis axis := by
  obtain ⟨x, y, z, hx, hy, hz, heq⟩ := setAcceleration_sheet hm s.acceleration
  simp only [account, update_sheet hm, heq]
  by_cases hmac : mac = m.mac
  · subst hmac
    cases axis <;>
      simp [hx, hy, hz, Assoc.get?_put_self, Assoc.get?_put_of_ne]
  · have hne (a b : Axis) : (mac, a) ≠ (m.mac, b) := fun h => hmac (Prod.mk.inj h).1
    simp [hmac, Assoc.get?_put_of_ne (hne _ _)]

theorem get?_count (mac mac' : String) (n : Nat) (counts : List (String × Nat)) :
    Assoc.get? mac (count mac' n counts) =
      if mac = mac' then some ((Assoc.get? mac counts).getD 0 + n)
      else Assoc.get? mac counts := by
  unfold count
  by_cases h : mac = mac'
  · rw [if_pos h, h, Assoc.get?_put_self]
  · rw [if_neg h, Assoc.get?_put_of_ne h]

/-- **An update changes the account of one sensor**: the measurement is added to it. -/
theorem account_update (h : s.IsComplete) (hm : m.IsRecordable) (mac : String) :
    (s.update m.sheet).1.account mac =
      if mac = m.mac then (s.account mac).add m else s.account mac := by
  have hgauge := gauge_account_update h hm mac
  have haxis := axis_account_update (s := s) hm mac
  have herrors := get?_count mac m.mac (if m.flawed then 1 else 0) s.errors
  have hreceived := get?_count mac m.mac 1 s.received
  by_cases hmac : mac = m.mac
  · simp only [if_pos hmac] at hgauge haxis herrors hreceived ⊢
    refine Account.ext (funext hgauge) (funext haxis) ?_ ?_
    · simpa only [account, Account.add, update_sheet hm] using herrors
    · simpa only [account, Account.add, update_sheet hm] using hreceived
  · simp only [if_neg hmac] at hgauge haxis herrors hreceived ⊢
    refine Account.ext (funext hgauge) (funext haxis) ?_ ?_
    · simpa only [account, update_sheet hm] using herrors
    · simpa only [account, update_sheet hm] using hreceived

end SensorMetrics

end Metrics

end TagGateway
