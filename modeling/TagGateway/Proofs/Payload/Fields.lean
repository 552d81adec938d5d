import TagGateway.Payload.Decode
import TagGateway.Proofs.Payload.Reading

/-!
# What a payload holds and what is wrong with it

Both data formats are read field by field, and what one field gives does not depend on the flaws of
the others. So a payload that is long enough determines one measurement and one list of flaws, of
which the two modes make different outcomes.

* `Payload.measurement5`, `Payload.flaws5` and their siblings of format 3 — that measurement and
  those flaws; `Payload.finds_read5`, `Payload.finds_read3` — that the readings find them.
* `Payload.errors5`, `Payload.errors3` — the errors of a payload, read off a table that says of its
  bytes when each is there and how it is reported; `Payload.message_flaws5` and
  `Payload.message_flaws3` — that they are what is reported of the flaws.
-/

namespace TagGateway.Payload

/-! ## Measurements and flaws -/

/-- The address in a payload that is long enough has six bytes. -/
theorem Raw5.length_address {data : List UInt8} (h : format5Size ≤ data.length) :
    (Raw5.ofBytes data).address.length = 6 := by
  unfold format5Size at h
  show ((data.drop 18).take 6).length = 6
  rw [List.length_take, List.length_drop]
  omega

/-- The flaws of the size and the tag. -/
def envelopeFlaws (tag needed : Nat) (data : List UInt8) : List Flaw :=
  (sizeFlaw? needed data).toList ++ (tagFlaw? tag data).toList

/-- The flaws of a payload of data format 5, in the order in which it is read. -/
def flaws5 (a : Advertisement) : List Flaw :=
  let raw := Raw5.ofBytes a.payload
  envelopeFlaws 5 format5Size a.payload ++
    [Raw5.temperatureFlaw? raw.temperature, Raw5.humidityFlaw? raw.humidity,
      Raw5.pressureFlaw? raw.pressure, Raw5.accelerationFlaw? .x raw.accelerationX,
      Raw5.accelerationFlaw? .y raw.accelerationY, Raw5.accelerationFlaw? .z raw.accelerationZ,
      Raw5.batteryFlaw? raw.battery, Raw5.txPowerFlaw? raw.txPower,
      Raw5.movementFlaw? raw.movementCounter,
      Raw5.addressFlaw? a.mac raw.address].flatMap Option.toList

/-- The flaws of a payload of data format 3. -/
def flaws3 (a : Advertisement) : List Flaw := envelopeFlaws 3 format3Size a.payload

/-- The acceleration along an axis of data format 5. -/
def axis5 (axis : Axis) (w : Nat) : Number :=
  if (Raw5.accelerationFlaw? axis w).isSome then .invalid else .real (real (signed w) / 1000.0)

/-- What a payload of data format 5 measures: each field by itself is at its marker or has the
value that its raw number stands for. -/
def measurement5 (a : Advertisement) : Measurement :=
  let raw := Raw5.ofBytes a.payload
  { temperature :=
      if (Raw5.temperatureFlaw? raw.temperature).isSome then .invalid
      else .real (real (signed raw.temperature) * 0.005)
    humidity :=
      if (Raw5.humidityFlaw? raw.humidity).isSome then .invalid
      else .real (real raw.humidity * 0.0025)
    pressure :=
      if (Raw5.pressureFlaw? raw.pressure).isSome then .whole 0xFFFFFFFF
      else .whole ((raw.pressure : Int) + 50000)
    acceleration :=
      ⟨axis5 .x raw.accelerationX, axis5 .y raw.accelerationY, axis5 .z raw.accelerationZ⟩
    batteryVoltage :=
      if (Raw5.batteryFlaw? raw.battery).isSome then .invalid
      else .real (real ((raw.battery : Int) + 1600) / 1000.0)
    transmission := some {
      txPower :=
        if (Raw5.txPowerFlaw? raw.txPower).isSome then .whole (-128)
        else .whole (-40 + 2 * (raw.txPower : Int))
      movementCounter :=
        if (Raw5.movementFlaw? raw.movementCounter).isSome then .whole 255
        else .whole raw.movementCounter
      sequence := .whole raw.sequence }
    mac :=
      if (Raw5.addressFlaw? a.mac raw.address).isSome then "" else Address.ofBytes raw.address
    signalStrength := .whole a.signalStrength }

/-- What a payload of data format 3 measures. -/
def measurement3 (a : Advertisement) : Measurement :=
  let raw := Raw3.ofBytes a.payload
  { temperature := .real (celsius3 raw.temperature raw.temperatureFraction)
    humidity := .real (real raw.humidity * 0.5)
    pressure := .whole ((raw.pressure : Int) + 50000)
    acceleration := ⟨axis3 raw.accelerationX, axis3 raw.accelerationY, axis3 raw.accelerationZ⟩
    batteryVoltage := .real (real raw.battery / 1000.0)
    mac := Text.upper a.mac
    signalStrength := .whole a.signalStrength }

/-! ## Readings -/

theorem finds_reportAny (flaw? : Option Flaw) :
    Reading.Finds (fun mode => reportAny mode flaw?) () flaw?.toList := by
  have hcheck := Reading.Finds.check flaw? () ()
  rw [ite_self] at hcheck
  exact hcheck

/-- A payload that is long enough is not refused. -/
theorem finds_readEnvelope {tag needed : Nat} {data : List UInt8} (h : needed ≤ data.length) :
    Reading.Finds (fun mode => readEnvelope mode tag needed data) ()
      (envelopeFlaws tag needed data) := by
  unfold readEnvelope
  simp only [if_neg (Nat.not_lt.mpr h)]
  exact (finds_reportAny _).bind (finds_reportAny _)

/-- A payload that is too short is refused in either mode, whatever was found before. -/
theorem readEnvelope_of_short {tag needed : Nat} {data : List UInt8} (h : data.length < needed)
    (mode : Mode) (flaws : List Flaw) :
    readEnvelope mode tag needed data flaws = .error (.tooShort needed data.length) := by
  unfold readEnvelope
  rw [if_pos h]
  rfl

theorem finds_read5 {a : Advertisement} (h : format5Size ≤ a.payload.length) :
    Reading.Finds (fun mode => read5 mode a) (measurement5 a) (flaws5 a) := by
  unfold read5
  -- one step for each field, in the order of the flaws
  refine (finds_readEnvelope h).bind ?_
  refine (Reading.Finds.check _ _ _).bind ?_
  refine (Reading.Finds.check _ _ _).bind ?_
  refine (Reading.Finds.check _ _ _).bind ?_
  refine (Reading.Finds.check _ _ _).bind ?_
  refine (Reading.Finds.check _ _ _).bind ?_
  refine (Reading.Finds.check _ _ _).bind ?_
  refine (Reading.Finds.check _ _ _).bind ?_
  refine (Reading.Finds.check _ _ _).bind ?_
  refine (Reading.Finds.check _ _ _).bind ?_
  refine (Reading.Finds.check _ _ _).bind ?_
  exact Reading.Finds.pure _

theorem finds_read3 {a : Advertisement} (h : format3Size ≤ a.payload.length) :
    Reading.Finds (fun mode => read3 mode a) (measurement3 a) (flaws3 a) := by
  have hread : Reading.Finds (fun mode => read3 mode a) (measurement3 a) (flaws3 a ++ []) :=
    (finds_readEnvelope h).bind (Reading.Finds.pure _)
  rw [List.append_nil] at hread
  exact hread

/-! ## Errors -/

/-- The errors of a table that lists what may be wrong, with whether it is, and how it is
reported. -/
def errorsOf (table : List (Bool × String)) : List String := (table.filter (·.1)).map (·.2)

/-- What may be wrong with the size and the tag. -/
def envelopeTable (tag needed : Nat) (data : List UInt8) : List (Bool × String) :=
  [(decide (data.length ≠ needed),
      "Expected data size " ++ toString needed ++ ", got " ++ toString data.length),
    (decide (byteAt data 0 ≠ tag),
      "Expected data format " ++ toString tag ++ ", got " ++ toString (byteAt data 0))]

/-- What may be wrong with a payload of data format 5. -/
def table5 (a : Advertisement) : List (Bool × String) :=
  let byte := byteAt a.payload
  let word := wordAt a.payload
  envelopeTable 5 24 a.payload ++
    [(decide (word 1 = 0x8000), "Temperature 0x8000 invalid"),
      (decide (word 3 = 0xFFFF), "Humidity 0xFFFF invalid"),
      (decide (word 3 ≠ 0xFFFF ∧ 40000 < word 3), "Humidity > 40 000 (100%) invalid"),
      (decide (word 5 = 0xFFFF), "Pressure 0xFFFF invalid"),
      (decide (word 7 = 0x8000), "X-acceleration 0x8000 invalid"),
      (decide (word 9 = 0x8000), "Y-acceleration 0x8000 invalid"),
      (decide (word 11 = 0x8000), "Z-acceleration 0x8000 invalid"),
      (decide (word 13 / 32 = 2047), "Battery voltage 2047 invalid"),
      (decide (word 13 % 32 = 31), "Tx power 31 invalid"),
      (decide (byte 15 = 255), "Movement counter 255 invalid"),
      (decide (Text.upper a.mac ≠ Address.ofBytes ((a.payload.drop 18).take 6)),
        "Receiver and packet MAC addresses differ")]

/-- The errors of a payload of data format 5, in the order in which they are reported. -/
def errors5 (a : Advertisement) : List String := errorsOf (table5 a)

/-- The errors of a payload of data format 3. -/
def errors3 (a : Advertisement) : List String := errorsOf (envelopeTable 3 14 a.payload)

theorem errorsOf_append (table more : List (Bool × String)) :
    errorsOf (table ++ more) = errorsOf table ++ errorsOf more := by
  rw [errorsOf, List.filter_append, List.map_append]
  rfl

/-- A flaw that is there under a condition is one row of a table. -/
theorem message_ite (c : Prop) [Decidable c] (flaw : Flaw) :
    (if c then some flaw else none).toList.map Flaw.message =
      errorsOf [(decide c, flaw.message)] := by
  by_cases h : c
  · rw [if_pos h, decide_eq_true h]
    rfl
  · rw [if_neg h, decide_eq_false h]
    rfl

/-- A flaw that is there unless a condition holds is one row of a table. -/
theorem message_ite_not (c : Prop) [Decidable c] (flaw : Flaw) :
    (if c then none else some flaw).toList.map Flaw.message =
      errorsOf [(decide (¬c), flaw.message)] := by
  by_cases h : c
  · rw [if_pos h, decide_eq_false (not_not_intro h)]
    rfl
  · rw [if_neg h, decide_eq_true h]
    rfl

/-- The humidity has two rows, of which one at most is there. -/
theorem message_humidityFlaw? (w : Nat) :
    (Raw5.humidityFlaw? w).toList.map Flaw.message =
      errorsOf [(decide (w = 0xFFFF), "Humidity 0xFFFF invalid"),
        (decide (w ≠ 0xFFFF ∧ 40000 < w), "Humidity > 40 000 (100%) invalid")] := by
  unfold Raw5.humidityFlaw?
  by_cases hmissing : w = 0xFFFF
  · have hsingle : ¬(w ≠ 0xFFFF ∧ 40000 < w) := fun h => h.1 hmissing
    rw [if_pos hmissing, decide_eq_true hmissing, decide_eq_false hsingle]
    rfl
  · rw [if_neg hmissing, decide_eq_false hmissing, message_ite]
    have hsame : (w ≠ 0xFFFF ∧ 40000 < w) ↔ 40000 < w := and_iff_right hmissing
    rw [decide_eq_decide.mpr hsame]
    rfl

theorem message_envelopeFlaws (tag needed : Nat) (data : List UInt8) :
    (envelopeFlaws tag needed data).map Flaw.message =
      errorsOf (envelopeTable tag needed data) := by
  rw [envelopeFlaws, List.map_append, sizeFlaw?, tagFlaw?, message_ite_not, message_ite_not,
    ← errorsOf_append]
  rfl

/-- What is reported of the flaws of a payload of data format 5 are its errors. -/
theorem message_flaws5 (a : Advertisement) : (flaws5 a).map Flaw.message = errors5 a := by
  have hx : (Flaw.acceleration .x).message = "X-acceleration 0x8000 invalid" := by decide
  have hy : (Flaw.acceleration .y).message = "Y-acceleration 0x8000 invalid" := by decide
  have hz : (Flaw.acceleration .z).message = "Z-acceleration 0x8000 invalid" := by decide
  simp only [flaws5, List.map_append, message_envelopeFlaws, List.flatMap_cons, List.flatMap_nil,
    List.append_nil, message_humidityFlaw?, Raw5.temperatureFlaw?,
    Raw5.pressureFlaw?, Raw5.accelerationFlaw?, Raw5.batteryFlaw?, Raw5.txPowerFlaw?,
    Raw5.movementFlaw?, Raw5.addressFlaw?, message_ite, message_ite_not, hx, hy, hz,
    ← errorsOf_append]
  rfl

theorem message_flaws3 (a : Advertisement) : (flaws3 a).map Flaw.message = errors3 a :=
  message_envelopeFlaws 3 14 a.payload

end TagGateway.Payload
