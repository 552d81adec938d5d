/-!
# Numbers in bytes

Fields of a payload are unsigned or two's complement numbers with the most significant byte first.
-/

namespace TagGateway.Payload

/-- The byte at a place, zero beyond the end. -/
def byteAt (data : List UInt8) (i : Nat) : Nat := (data.getD i 0).toNat

/-- The unsigned number in the two bytes at a place. -/
def wordAt (data : List UInt8) (i : Nat) : Nat := 256 * byteAt data i + byteAt data (i + 1)

/-- The number that a 16-bit two's complement word stands for. -/
def signed (w : Nat) : Int := if w < 0x8000 then w else (w : Int) - 0x10000

/-- A whole number as a `Float`; the fields of payloads are all exact. -/
def real (i : Int) : Float := Float.ofInt i

end TagGateway.Payload
