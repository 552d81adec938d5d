import TagGateway.Address
import TagGateway.Payload.Bytes
import TagGateway.Payload.Flaw

/-!
# The layouts of the data formats

Where each field stands in a payload, as raw numbers, and which raw numbers mark a field that the
sensor could not measure.

* `Raw5` and `Raw3` are the raw fields of the two formats.
* `Raw5.temperatureFlaw?` and its siblings tell the flaw of one field from its own raw number.
-/

namespace TagGateway.Payload

/-- How many bytes a payload of data format 5 has. -/
def format5Size : Nat := 24

/-- How many bytes a payload of data format 3 has. -/
def format3Size : Nat := 14

/-- The raw fields of data format 5. -/
structure Raw5 where
  temperature : Nat
  humidity : Nat
  pressure : Nat
  accelerationX : Nat
  accelerationY : Nat
  accelerationZ : Nat
  battery : Nat
  txPower : Nat
  movementCounter : Nat
  sequence : Nat
  address : List UInt8
deriving DecidableEq, Repr

/-- The raw fields of a payload of data format 5. Battery voltage and transmit power share a
word: eleven bits and five. -/
def Raw5.ofBytes (data : List UInt8) : Raw5 where
  temperature := wordAt data 1
  humidity := wordAt data 3
  pressure := wordAt data 5
  accelerationX := wordAt data 7
  accelerationY := wordAt data 9
  accelerationZ := wordAt data 11
  battery := wordAt data 13 / 32
  txPower := wordAt data 13 % 32
  movementCounter := byteAt data 15
  sequence := wordAt data 16
  address := (data.drop 18).take 6

/-- The raw fields of data format 3. -/
structure Raw3 where
  humidity : Nat
  temperature : Nat
  temperatureFraction : Nat
  pressure : Nat
  accelerationX : Nat
  accelerationY : Nat
  accelerationZ : Nat
  battery : Nat
deriving DecidableEq, Repr

/-- The raw fields of a payload of data format 3. -/
def Raw3.ofBytes (data : List UInt8) : Raw3 where
  humidity := byteAt data 1
  temperature := byteAt data 2
  temperatureFraction := byteAt data 3
  pressure := wordAt data 4
  accelerationX := wordAt data 6
  accelerationY := wordAt data 8
  accelerationZ := wordAt data 10
  battery := wordAt data 12

/-- More bytes than the format has. -/
def sizeFlaw? (needed : Nat) (data : List UInt8) : Option Flaw :=
  if data.length = needed then none else some (.size needed data.length)

/-- A first byte that is not the tag of the format. -/
def tagFlaw? (tag : Nat) (data : List UInt8) : Option Flaw :=
  if byteAt data 0 = tag then none else some (.tag tag (byteAt data 0))

namespace Raw5

/-- The flaw of the temperature. -/
def temperatureFlaw? (w : Nat) : Option Flaw :=
  if w = 0x8000 then some .temperature else none

/-- The flaw of the humidity. -/
def humidityFlaw? (w : Nat) : Option Flaw :=
  if w = 0xFFFF then some .humidityMissing
  else if 40000 < w then some .humidityAbove
  else none

/-- The flaw of the pressure. -/
def pressureFlaw? (w : Nat) : Option Flaw :=
  if w = 0xFFFF then some .pressure else none

/-- The flaw of the acceleration along an axis. -/
def accelerationFlaw? (axis : Axis) (w : Nat) : Option Flaw :=
  if w = 0x8000 then some (.acceleration axis) else none

/-- The flaw of the battery voltage. -/
def batteryFlaw? (bits : Nat) : Option Flaw :=
  if bits = 2047 then some .battery else none

/-- The flaw of the transmit power. -/
def txPowerFlaw? (bits : Nat) : Option Flaw :=
  if bits = 31 then some .txPower else none

/-- The flaw of the movement counter. -/
def movementFlaw? (byte : Nat) : Option Flaw :=
  if byte = 255 then some .movementCounter else none

/-- The flaw of the address: it is not the one of the sender. -/
def addressFlaw? (sender : String) (address : List UInt8) : Option Flaw :=
  if Text.upper sender = Address.ofBytes address then none else some .address

end Raw5

end TagGateway.Payload
