import TagGateway.Measurement

/-!
# Measurement sheets

A sheet lists the fields of a measurement by name. Whoever fills in a sheet may put any value into
a field; what is shown or exposed of it is what was put there.

* `Sheet.ofFields` fills in a sheet; a field that is not given stands at its marker.
* `Measurement.sheet` is the sheet of a measurement.
* `Sheet.describe` lists the fields for people.
-/

namespace TagGateway

/-- The fields of a measurement. -/
inductive Field
  | temperature | humidity | pressure | acceleration | batteryVoltage
  | txPower | movementCounter | sequence
  | mac | signalStrength | flawed | report
deriving DecidableEq, Repr

/-- The name of a field. -/
def Field.name : Field → String
  | temperature => "temperature"
  | humidity => "humidity"
  | pressure => "pressure"
  | acceleration => "acceleration"
  | batteryVoltage => "battery_voltage"
  | txPower => "tx_power"
  | movementCounter => "movement_counter"
  | sequence => "measurement_sequence"
  | mac => "mac"
  | signalStrength => "signal_strength"
  | flawed => "contains_errors"
  | report => "error_msg"

/-- A measurement of a data format, field by field. -/
structure Sheet where
  tag : Nat
  entries : List (Field × Value)

/-- The value of the acceleration along the three axes. -/
def Acceleration.value (a : Acceleration) : Value := .list (a.components.map Value.ofNumber)

/-- The fields of the transmission data. -/
def Transmission.entries (t : Transmission) : List (Field × Value) :=
  [(.txPower, .ofNumber t.txPower), (.movementCounter, .ofNumber t.movementCounter),
    (.sequence, .ofNumber t.sequence)]

/-- The sheet of a measurement. -/
def Measurement.sheet (m : Measurement) : Sheet where
  tag := m.tag
  entries := [
    (.temperature, .ofNumber m.temperature),
    (.humidity, .ofNumber m.humidity),
    (.pressure, .ofNumber m.pressure),
    (.acceleration, m.acceleration.value),
    (.batteryVoltage, .ofNumber m.batteryVoltage)] ++
    (m.transmission.map Transmission.entries).getD [] ++ [
    (.mac, .text m.mac),
    (.signalStrength, .ofNumber m.signalStrength),
    (.flawed, .bool m.flawed),
    (.report, .text m.report)]

namespace Sheet

/-- The value of a field, if the data format has it. -/
def get? (s : Sheet) (f : Field) : Option Value := Assoc.get? f s.entries

/-- The value of a field that all data formats have. -/
def get (s : Sheet) (f : Field) : Value := (s.get? f).getD .null

/-- The sheet with another value in a field. -/
def put (s : Sheet) (f : Field) (v : Value) : Sheet :=
  { s with entries := Assoc.put f v s.entries }

/-- The sheet of a data format with every field at its marker. -/
def blank (tag : Nat) : Sheet :=
  ({ transmission := if tag = 5 then some {} else none : Measurement }).sheet

/-- Fill in the field of a name. -/
def fill (s : Sheet) (name : String) (v : Value) : Except Fault Sheet :=
  match s.entries.find? fun (f, _) => f.name = name with
  | some (f, _) => .ok (s.put f v)
  | none =>
    let owner := "Measurement" ++ toString s.tag
    .error (if name = "self" then .takenField owner name else .unknownField owner name)

/-- The sheet of a data format from fields that are given by name. A field that the format does
not have is refused. -/
def ofFields (tag : Nat) (fields : List (String × Value)) : Except Fault Sheet :=
  fields.foldlM (fun s (name, v) => s.fill name v) (blank tag)

/-! ## Acceleration -/

/-- The accelerations along the axes, as many as there are. -/
def axes (s : Sheet) : Except Fault (List Value) := (s.get .acceleration).elements

/-- The number that a component of a vector is. -/
def component (v : Value) : Except Fault Float :=
  match v.number? with
  | none => .error (.notNumber v.kind)
  | some n =>
    match n.toFloat? with
    | some x => .ok x
    | none => .error .wholeTooLarge

/-- The length of the acceleration vector. -/
def accelerationTotal (s : Sheet) : Except Fault Float := do
  match s.axes with
  | .error _ => throw (.notArguments "math.hypot" (s.get .acceleration).kind)
  | .ok axes => return Decimal.length (← axes.mapM component)

/-! ## Description -/

/-- Whether the measurement is marked as flawed. -/
def isFlawed (s : Sheet) : Bool := (s.get .flawed).isTrue

/-- The fields that have a line in a description, with their titles. -/
def titles : List (Field × String) :=
  [(.temperature, "Temperature"), (.humidity, "Humidity"), (.pressure, "Pressure"),
    (.batteryVoltage, "Battery voltage"), (.txPower, "Tx power"),
    (.movementCounter, "Movement counter"), (.sequence, "Measurement sequence"),
    (.signalStrength, "Rssi signal strength")]

/-- The fields of a measurement, a line each. -/
def describe (s : Sheet) : Except Fault String := do
  let axes ← s.axes
  return "\n".intercalate <| [
    "Data from MAC " ++ (s.get .mac).display,
    "Ruuvi data format: " ++ toString s.tag] ++
    titles.filterMap (fun (f, title) => (s.get? f).map fun v => title ++ ": " ++ v.display) ++
    (Payload.Axis.all.zip axes).map (fun (axis, v) =>
      "Acceleration-" ++ axis.label ++ ": " ++ v.display) ++
    (if s.isFlawed then ["Errors: " ++ (s.get .report).display] else [])

end Sheet

end TagGateway
