import TagGateway.Decimal.Length
import TagGateway.Value.Access

/-!
# Measurements

What a sensor measured, with every field at its invalid marker until it has been read.

* `Measurement` is what a decoder makes of a payload.
* A measurement of data format 5 carries transmission data that format 3 does not have.
-/

namespace TagGateway

/-- Acceleration along the three axes, in g. -/
structure Acceleration where
  x : Number := .invalid
  y : Number := .invalid
  z : Number := .invalid

/-- The accelerations in the order of the axes. -/
def Acceleration.components (a : Acceleration) : List Number := [a.x, a.y, a.z]

/-- The length of the acceleration vector. -/
def Acceleration.total (a : Acceleration) : Except Fault Float :=
  match a.components.mapM Number.toFloat? with
  | some components => .ok (Decimal.length components)
  | none => .error .wholeTooLarge

/-- What only data format 5 carries. -/
structure Transmission where
  txPower : Number := .whole (-128)
  movementCounter : Number := .whole 255
  sequence : Number := .whole 0

/-- A measurement: temperature in Celsius, humidity in percent, pressure in Pascal, battery
voltage in Volt, signal strength in dBm. -/
structure Measurement where
  temperature : Number := .invalid
  humidity : Number := .invalid
  pressure : Number := .whole 0xFFFFFFFF
  acceleration : Acceleration := {}
  batteryVoltage : Number := .invalid
  transmission : Option Transmission := none
  mac : String := ""
  signalStrength : Number := .whole 0
  flawed : Bool := true
  report : String := ""

namespace Measurement

/-- The data format of a measurement. -/
def tag (m : Measurement) : Nat := if m.transmission.isSome then 5 else 3

/-- The measured total acceleration. -/
def accelerationTotal (m : Measurement) : Except Fault Float := m.acceleration.total

end Measurement

end TagGateway
