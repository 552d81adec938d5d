import TagGateway.Text.Upper
import TagGateway.Text.Blank
import TagGateway.Text.Digit

/-!
# Hardware addresses

The address of a sensor is written as six pairs of upper-case hexadecimal digits with colons
between them: its canonical form.

* `IsCanonical` is that form, decided by `isPairs`.
* `matchesPattern` is the pattern that texts are compared with.
* `canonical?` accepts any letter case, hyphens for colons and surrounding blanks.
* `ofBytes` writes bytes as an address.
-/

namespace TagGateway.Address

open TagGateway.Text

/-- An upper-case hexadecimal digit. -/
def isUpperHex (c : Char) : Bool :=
  (0x30 ≤ c.toNat && c.toNat ≤ 0x39) || (0x41 ≤ c.toNat && c.toNat ≤ 0x46)

/-- The given number of pairs of upper-case hexadecimal digits, with colons between them. -/
def isPairs : Nat → List Char → Bool
  | 1, [a, b] => isUpperHex a && isUpperHex b
  | n + 2, a :: b :: ':' :: rest => isUpperHex a && isUpperHex b && isPairs (n + 1) rest
  | _, _ => false

/-- Six pairs: the canonical form of an address. -/
def IsCanonical (s : String) : Prop := isPairs 6 s.toList = true

instance (s : String) : Decidable (IsCanonical s) :=
  inferInstanceAs (Decidable (isPairs 6 s.toList = true))

/-- The text trimmed, in upper case and with colons for hyphens. -/
def prepared (s : String) : List Char :=
  (upperChars (trimChars s.toList)).map fun c => if c = '-' then ':' else c

/-- Whether a text matches the pattern of addresses: six pairs from its start to its end, where a
line feed that ends the text may follow them. -/
def matchesPattern (cs : List Char) : Bool :=
  isPairs 6 cs || (cs.getLast? == some '\n' && isPairs 6 cs.dropLast)

/-- The canonical form of a text that writes an address. -/
def canonical? (s : String) : Option String :=
  let cs := prepared s
  if matchesPattern cs then some (String.ofList cs) else none

/-- The upper-case hexadecimal digit of a number below sixteen. -/
def upperHexDigit (n : Nat) : Char :=
  if n < 10 then Char.ofNat (0x30 + n) else Char.ofNat (0x37 + n)

/-- The pair of digits of a byte. -/
def byteChars (b : UInt8) : List Char :=
  [upperHexDigit (b.toNat / 16), upperHexDigit (b.toNat % 16)]

/-- The pairs of bytes with colons between them. -/
def pairChars : List UInt8 → List Char
  | [] => []
  | [b] => byteChars b
  | b :: rest => byteChars b ++ ':' :: pairChars rest

/-- Bytes written as an address. -/
def ofBytes (bs : List UInt8) : String := String.ofList (pairChars bs)

end TagGateway.Address
