import TagGateway.Measurement.Sheet
import TagGateway.Metrics.Family

/-!
# Metrics of the sensors

Each quantity that a sensor measures is a gauge with one series per sensor address; measurements
and flawed measurements are counted.

* `SensorMetrics.update` records a measurement. A quantity that the measurement does not carry
  keeps its series.
* `SensorMetrics.families` are the metrics in the order in which they are exposed, each with its
  series in order of first use.
-/

namespace TagGateway.Metrics

/-- The quantities with a gauge of their own. -/
inductive Quantity
  | temperature | humidity | pressure | acceleration | battery | movement | txPower | sequence
  | signalStrength
deriving DecidableEq, Repr

namespace Quantity

/-- The quantities in the order of their gauges. -/
def all : List Quantity :=
  [temperature, humidity, pressure, acceleration, battery, movement, txPower, sequence,
    signalStrength]

/-- The name of the gauge. -/
def metricName : Quantity → String
  | temperature => "ruuvi_temperature_celsius"
  | humidity => "ruuvi_relative_humidity_ratio"
  | pressure => "ruuvi_pressure_pascals"
  | acceleration => "ruuvi_acceleration_total_gs"
  | battery => "ruuvi_battery_volts"
  | movement => "ruuvi_movement_count"
  | txPower => "ruuvi_tx_power_dbm"
  | sequence => "ruuvi_measurement_count"
  | signalStrength => "ruuvi_rssi_dbm"

/-- The documentation of the gauge. -/
def documentation : Quantity → String
  | temperature => "Ruuvitag temperature in Celsius"
  | humidity => "Ruuvitag relative humidity 0-100%"
  | pressure => "Ruuvitag pressure in Pascal"
  | acceleration => "Total acceleration of ruuvitag, hypot(x, y, z)"
  | battery => "Ruuvitag battery voltage"
  | movement => "Ruuvitag movement counter"
  | txPower => "Ruuvitag transmit power"
  | sequence => "Ruuvitag packet measurement sequence number [0-65535]"
  | signalStrength => "Ruuvitag received signal strength rssi"

/-- The field of a quantity. -/
def field : Quantity → Field
  | temperature => .temperature
  | humidity => .humidity
  | pressure => .pressure
  | acceleration => .acceleration
  | battery => .batteryVoltage
  | movement => .movementCounter
  | txPower => .txPower
  | sequence => .sequence
  | signalStrength => .signalStrength

/-- The value of a quantity in a measurement, if the measurement carries it. The gauge of the
acceleration shows the length of the vector. -/
def value? (s : Sheet) (q : Quantity) : Except Fault (Option Value) :=
  match q with
  | acceleration => s.accelerationTotal.map fun x => some (.float x)
  | q => .ok (s.get? q.field)

end Quantity

/-- Values per sensor address, in order of first use. -/
abbrev Series := List (String × Float)

/-- A gauge of a quantity. -/
structure Gauge where
  quantity : Quantity
  series : Series := []

namespace Gauge

/-- Bring a series into being; a new one is at zero. -/
def touch (mac : String) (s : Series) : Series :=
  if Assoc.has mac s then s else s ++ [(mac, 0.0)]

/-- Set the series of an address. A value that is no decimal number leaves a new series at
zero. -/
def set (g : Gauge) (mac : String) (v : Value) : Gauge × Except Fault Unit :=
  let series := touch mac g.series
  match v.real with
  | .ok x => ({ g with series := Assoc.put mac x series }, .ok ())
  | .error f => ({ g with series }, .error f)

end Gauge

/-- The metrics of all sensors. -/
structure SensorMetrics where
  gauges : List Gauge := Quantity.all.map fun q => { quantity := q }
  acceleration : List ((String × Payload.Axis) × Float) := []
  errors : List (String × Nat) := []
  received : List (String × Nat) := []

/-- The address under which a measurement is recorded. -/
def addressOf (s : Sheet) : String := (s.get .mac).display

/-- Set the gauges of all quantities that a measurement carries, up to the first that fails. -/
def setGauges (s : Sheet) : List Gauge → List Gauge × Except Fault Unit
  | [] => ([], .ok ())
  | g :: rest =>
    match g.quantity.value? s with
    | .error f => (g :: rest, .error f)
    | .ok none =>
      let (rest, r) := setGauges s rest
      (g :: rest, r)
    | .ok (some v) =>
      match g.set (addressOf s) v with
      | (g, .error f) => (g :: rest, .error f)
      | (g, .ok ()) =>
        let (rest, r) := setGauges s rest
        (g :: rest, r)

/-- Add to the count of an address. -/
def count (mac : String) (n : Nat) (counts : List (String × Nat)) : List (String × Nat) :=
  Assoc.put mac ((Assoc.get? mac counts).getD 0 + n) counts

namespace SensorMetrics

/-- The acceleration along each axis that has one. A measurement with a component that is no
finite value has no total acceleration either and is not recorded. -/
def accelerations (s : Sheet) : List (Payload.Axis × Float) :=
  (Payload.Axis.all.zip (s.axes.toOption.getD [])).filterMap fun (axis, v) =>
    (Sheet.component v).toOption.map (axis, ·)

/-- Record the acceleration of a measurement. -/
def setAcceleration (s : Sheet) (series : List ((String × Payload.Axis) × Float)) :
    List ((String × Payload.Axis) × Float) :=
  (accelerations s).foldl (fun series (axis, x) => Assoc.put (addressOf s, axis) x series) series

/-- Record a measurement. -/
def update (m : SensorMetrics) (s : Sheet) : SensorMetrics × Except Fault Unit :=
  match setGauges s m.gauges with
  | (gauges, .error f) => ({ m with gauges }, .error f)
  | (gauges, .ok ()) =>
    ({ gauges
       acceleration := setAcceleration s m.acceleration
       errors := count (addressOf s) (if s.isFlawed then 1 else 0) m.errors
       received := count (addressOf s) 1 m.received }, .ok ())

/-- The label of a sensor. -/
def macLabel (mac : String) : Labels := [("mac", mac)]

/-- The family of a gauge. -/
def gaugeFamily (g : Gauge) : Family where
  name := g.quantity.metricName
  documentation := g.quantity.documentation
  samples := g.series.map fun (mac, x) => ⟨g.quantity.metricName, macLabel mac, .float x⟩

/-- A family of counters. -/
def counterFamily (name documentation : String) (counts : List (String × Nat)) : Family where
  name
  documentation
  kind := .counter
  samples := counts.map fun (mac, n) => ⟨name, macLabel mac, .float (Float.ofNat n)⟩

/-- All families. -/
def families (s : SensorMetrics) : List Family :=
  s.gauges.map gaugeFamily ++ [
    { name := "ruuvi_acceleration_gs"
      documentation := "Ruuvitag acceleration in Gs"
      samples := s.acceleration.map fun ((mac, axis), x) =>
        ⟨"ruuvi_acceleration_gs", [("axis", axis.label), ("mac", mac)], .float x⟩ },
    counterFamily "ruuvi_errors_total" "Number of errors" s.errors,
    counterFamily "ruuvi_received_measurements_total" "Total count of received measurements"
      s.received]

/-- All samples. -/
def samples (s : SensorMetrics) : List Sample := s.families.flatMap (·.samples)

end SensorMetrics

end TagGateway.Metrics
