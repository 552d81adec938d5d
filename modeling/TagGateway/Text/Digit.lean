import TagGateway.Text.DigitTable

/-!
# Digits

* `decimalDigit?` is the value of a decimal digit of any script.
* `hexValue?` is the value of an ASCII hexadecimal digit in either case.
-/

namespace TagGateway.Text

/-- The value of a decimal digit, whatever its script. -/
def decimalDigit? (c : Char) : Option Nat :=
  let n := c.toNat
  if n < 0x80 then
    if 0x30 ≤ n && n ≤ 0x39 then some (n - 0x30) else none
  else
    (decimalZeros.find? fun z => z ≤ n && n < z + 10).map (n - ·)

/-- The value of a hexadecimal digit of ASCII, in either case. -/
def hexValue? (c : Char) : Option Nat :=
  let n := c.toNat
  if 0x30 ≤ n && n ≤ 0x39 then some (n - 0x30)
  else if 0x41 ≤ n && n ≤ 0x46 then some (n - 0x37)
  else if 0x61 ≤ n && n ≤ 0x66 then some (n - 0x57)
  else none

end TagGateway.Text
