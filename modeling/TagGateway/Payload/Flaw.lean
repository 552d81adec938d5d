/-!
# Flaws of a payload

What can be wrong with the bytes of a measurement, in the order in which a decoder looks for it,
and how each flaw is reported.
-/

namespace TagGateway.Payload

/-- The axes of the accelerometer. -/
inductive Axis
  | x | y | z
deriving DecidableEq, Repr

/-- The axes in order. -/
def Axis.all : List Axis := [x, y, z]

/-- The name of an axis in reports. -/
def Axis.name : Axis → String
  | x => "X"
  | y => "Y"
  | z => "Z"

/-- The label of an axis among values. -/
def Axis.label : Axis → String
  | x => "x"
  | y => "y"
  | z => "z"

/-- A flaw of a payload. -/
inductive Flaw
  /-- Fewer bytes than the format needs: no field can be read. -/
  | tooShort (needed got : Nat)
  /-- More bytes than the format has. -/
  | size (needed got : Nat)
  /-- The first byte is not the tag of the format. -/
  | tag (needed got : Nat)
  | temperature
  | humidityMissing
  | humidityAbove
  | pressure
  | acceleration (axis : Axis)
  | battery
  | txPower
  | movementCounter
  /-- The address in the payload is not the one of the sender. -/
  | address
deriving DecidableEq, Repr

/-- The report of a flaw. -/
def Flaw.message : Flaw → String
  | tooShort needed got => "expected data size " ++ toString needed ++ ", got " ++ toString got
  | size needed got => "Expected data size " ++ toString needed ++ ", got " ++ toString got
  | tag needed got => "Expected data format " ++ toString needed ++ ", got " ++ toString got
  | temperature => "Temperature 0x8000 invalid"
  | humidityMissing => "Humidity 0xFFFF invalid"
  | humidityAbove => "Humidity > 40 000 (100%) invalid"
  | pressure => "Pressure 0xFFFF invalid"
  | acceleration axis => axis.name ++ "-acceleration 0x8000 invalid"
  | battery => "Battery voltage 2047 invalid"
  | txPower => "Tx power 31 invalid"
  | movementCounter => "Movement counter 255 invalid"
  | address => "Receiver and packet MAC addresses differ"

/-- The report of all flaws of one payload. -/
def Flaw.report (flaws : List Flaw) : String :=
  " - ".intercalate (flaws.map Flaw.message)

end TagGateway.Payload
