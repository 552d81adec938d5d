import TagGateway.Text.Digit

/-!
# Payloads as text

A payload is written as pairs of hexadecimal digits in either case. Colons and spaces may stand
anywhere, a mark `0x` may stand in front, and other blanks of ASCII may stand between pairs.

* `Payload.ofHex?` reads such a text.
* `Payload.ofPairs` reads plain pairs, and says where a text is none.
-/

namespace TagGateway.Payload

open TagGateway.Text

/-- A character that may stand anywhere, also inside a pair. -/
def isSeparator (c : Char) : Bool := c == ':' || c == ' '

/-- A blank of ASCII, which may stand between pairs. -/
def isGap (c : Char) : Bool := (0x09 ≤ c.toNat && c.toNat ≤ 0x0D) || c == ' '

/-- The digits without the mark in front of them. -/
def withoutMark : List Char → List Char
  | '0' :: 'x' :: rest => rest
  | '0' :: 'X' :: rest => rest
  | cs => cs

/-- The bytes that pairs of digits write from a place on, blanks between them passed over, or the
place of the first character that should be a digit and is none. -/
def readPairs (place : Nat) : List Char → Except Nat (List UInt8)
  | [] => .ok []
  | a :: rest =>
    if isGap a then readPairs (place + 1) rest
    else
      match hexValue? a, rest with
      | none, _ => .error place
      | some _, [] => .error (place + 1)
      | some high, b :: rest =>
        match hexValue? b with
        | none => .error (place + 1)
        | some low => (readPairs (place + 2) rest).map (UInt8.ofNat (16 * high + low) :: ·)

/-- The bytes that plain pairs of digits write, or the place at which a text fails to. A character
outside ASCII fails before all others. -/
def ofPairs (text : String) : Except Nat (List UInt8) :=
  match text.toList.findIdx? fun c => 0x80 ≤ c.toNat with
  | some place => .error place
  | none => readPairs 0 text.toList

/-- The payload that a text writes. -/
def ofHex? (text : String) : Option (List UInt8) :=
  (readPairs 0 (withoutMark (text.toList.filter fun c => !isSeparator c))).toOption

end TagGateway.Payload
