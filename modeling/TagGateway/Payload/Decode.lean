import TagGateway.Advertisement
import TagGateway.Measurement
import TagGateway.Payload.Layout
import TagGateway.Payload.Reading

/-!
# Decoding payloads

A payload of a known data format becomes a measurement. In lenient mode every flawed field is
left at its invalid marker and reported; in strict mode the first flaw refuses the payload. A
payload that is too short for its format is refused in either mode.

* `identify` tells the format from the manufacturer and the first byte.
* `decode5` and `decode3` read a payload as one format, `decode` as the one it says.
-/

namespace TagGateway

/-- What the manufacturer and the first byte of a payload say about its format. -/
inductive PayloadFormat
  | foreign | unknown | format3 | format4 | format5 | format8
deriving DecidableEq, Repr

namespace PayloadFormat

/-- The number of a format. -/
def code : PayloadFormat → Int
  | foreign => -2
  | unknown => -1
  | format3 => 3
  | format4 => 4
  | format5 => 5
  | format8 => 8

/-- The name of a format. -/
def name : PayloadFormat → String
  | foreign => "NOT_RUUVI_TAG"
  | unknown => "UNKNOWN_FORMAT"
  | format3 => "FORMAT_3"
  | format4 => "FORMAT_4"
  | format5 => "FORMAT_5"
  | format8 => "FORMAT_8"

/-- The format that a first byte stands for. -/
def ofTag (tag : Nat) : PayloadFormat :=
  if tag = 3 then format3
  else if tag = 4 then format4
  else if tag = 5 then format5
  else if tag = 8 then format8
  else unknown

end PayloadFormat

namespace Payload

/-- The number of the manufacturer whose payloads are decoded. -/
def manufacturer : Value := .int 0x0499

/-- The format of the payload of an advertisement. -/
def identify (a : Advertisement) : PayloadFormat :=
  if a.manufacturer == manufacturer then
    match a.payload with
    | [] => .unknown
    | tag :: _ => .ofTag tag.toNat
  else .foreign

/-- Report a flaw if there is one. -/
def reportAny (mode : Mode) (flaw? : Option Flaw) : Reading Unit :=
  Reading.check mode flaw? () ()

/-- The checks that all formats share: the size and the tag. -/
def readEnvelope (mode : Mode) (tag needed : Nat) (data : List UInt8) : Reading Unit := do
  if data.length < needed then Reading.refuse (.tooShort needed data.length)
  reportAny mode (sizeFlaw? needed data)
  reportAny mode (tagFlaw? tag data)

/-- Read the acceleration along one axis of data format 5. -/
def readAxis5 (mode : Mode) (axis : Axis) (w : Nat) : Reading Number :=
  Reading.check mode (Raw5.accelerationFlaw? axis w) .invalid
    (.real (real (signed w) / 1000.0))

/-- Read the fields of data format 5. -/
def read5 (mode : Mode) (a : Advertisement) : Reading Measurement := do
  readEnvelope mode 5 format5Size a.payload
  let raw := Raw5.ofBytes a.payload
  let temperature ← Reading.check mode (Raw5.temperatureFlaw? raw.temperature)
    Number.invalid (.real (real (signed raw.temperature) * 0.005))
  let humidity ← Reading.check mode (Raw5.humidityFlaw? raw.humidity)
    Number.invalid (.real (real raw.humidity * 0.0025))
  let pressure ← Reading.check mode (Raw5.pressureFlaw? raw.pressure)
    (.whole 0xFFFFFFFF) (.whole ((raw.pressure : Int) + 50000))
  let x ← readAxis5 mode .x raw.accelerationX
  let y ← readAxis5 mode .y raw.accelerationY
  let z ← readAxis5 mode .z raw.accelerationZ
  let batteryVoltage ← Reading.check mode (Raw5.batteryFlaw? raw.battery)
    Number.invalid (.real (real ((raw.battery : Int) + 1600) / 1000.0))
  let txPower ← Reading.check mode (Raw5.txPowerFlaw? raw.txPower)
    (Number.whole (-128)) (.whole (-40 + 2 * (raw.txPower : Int)))
  let movementCounter ← Reading.check mode (Raw5.movementFlaw? raw.movementCounter)
    (Number.whole 255) (.whole raw.movementCounter)
  let mac ← Reading.check mode (Raw5.addressFlaw? a.mac raw.address)
    "" (Address.ofBytes raw.address)
  return {
    temperature, humidity, pressure, acceleration := ⟨x, y, z⟩, batteryVoltage
    transmission := some ⟨txPower, movementCounter, .whole raw.sequence⟩
    mac, signalStrength := .whole a.signalStrength }

/-- The temperature of data format 3: a sign bit, whole degrees and hundredths. -/
def celsius3 (whole fraction : Nat) : Float :=
  let degrees :=
    Decimal.roundPlaces (real ((whole % 128 : Nat) : Int) + real (fraction : Int) / 100.0) 2
  if whole < 128 then degrees else -degrees

/-- The acceleration along an axis of data format 3. -/
def axis3 (w : Nat) : Number := .real (real (signed w) / 1000.0)

/-- Read the fields of data format 3, none of which has an invalid marker. -/
def read3 (mode : Mode) (a : Advertisement) : Reading Measurement := do
  readEnvelope mode 3 format3Size a.payload
  let raw := Raw3.ofBytes a.payload
  return {
    temperature := .real (celsius3 raw.temperature raw.temperatureFraction)
    humidity := .real (real raw.humidity * 0.5)
    pressure := .whole ((raw.pressure : Int) + 50000)
    acceleration := ⟨axis3 raw.accelerationX, axis3 raw.accelerationY, axis3 raw.accelerationZ⟩
    batteryVoltage := .real (real raw.battery / 1000.0)
    mac := Text.upper a.mac
    signalStrength := .whole a.signalStrength }

/-- Carry out a reading of a format: the measurement with its report, or the flaw that refuses
the payload. -/
def Reading.run (tag : Nat) (r : Reading Measurement) : Except Fault Measurement :=
  match r [] with
  | .error flaw => .error (.undecodable tag flaw)
  | .ok (m, flaws) => .ok { m with flawed := !flaws.isEmpty, report := Flaw.report flaws }

/-- Decode a payload as data format 5. -/
def decode5 (mode : Mode) (a : Advertisement) : Except Fault Measurement :=
  (read5 mode a).run 5

/-- Decode a payload as data format 3. -/
def decode3 (mode : Mode) (a : Advertisement) : Except Fault Measurement :=
  (read3 mode a).run 3

/-- Decode a payload as the format it says; none for formats that are not decoded. -/
def decode (mode : Mode) (a : Advertisement) : Except Fault (Option Measurement) :=
  match identify a with
  | .format5 => (decode5 mode a).map some
  | .format3 => (decode3 mode a).map some
  | _ => .ok none

end Payload

end TagGateway
