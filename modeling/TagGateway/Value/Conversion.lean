import TagGateway.Decimal.Reading
import TagGateway.Fault
import TagGateway.Text.Upper

/-!
# What a value is read as

A value of one kind is often wanted as one of another.

* `Value.whole` reads a whole number, `Value.real` a decimal number. A text is read as people type
  numbers.
* `Value.upper` is a text in upper case.
-/

namespace TagGateway

/-- The most bytes, and the most characters of a shown text, that stand in a report of a malformed
number. -/
def reportLength : Nat := 200

/-- The first part of a shown text that stands in a report of a malformed number. -/
def shownStart (s : String) : String := String.ofList (s.toList.take reportLength)

/-- The whole number that a text writes. -/
def wholeOfText (s : String) (shown : String) : Except Fault Int :=
  match Decimal.readInt s with
  | .ok i => .ok i
  | .error .malformed => .error (.malformedInt (shownStart shown))
  | .error (.tooLong n) => .error (.tooManyDigits n)

/-- The character of a byte in ASCII; any other byte has a character that stands in no number. -/
def asciiOf (b : UInt8) : Char := if b < 0x80 then Char.ofNat b.toNat else Char.ofNat 0xFFFD

/-- The whole number of a value: a truth value counts as zero or one, a decimal number loses its
fraction, a text is read. -/
def Value.whole (v : Value) : Except Fault Int :=
  match v with
  | .bool b => .ok (if b then 1 else 0)
  | .int i => .ok i
  | .float x =>
    match Decimal.finite? x with
    | some f => .ok f.truncate
    | none => .error (if x.isNaN then .wholeOfNaN else .wholeOfInfinity)
  | .text s => wholeOfText s v.shown
  | .bytes bs =>
    wholeOfText (String.ofList (bs.map asciiOf)) (Text.quotedBytes (bs.take reportLength))
  | _ => .error (.notWhole v.kind)

/-- The decimal number that a text writes. -/
def realOfText (s shown : String) : Except Fault Float :=
  match Decimal.readFloat? s with
  | some x => .ok x
  | none => .error (.notDecimal shown)

/-- The decimal number of a value: a truth value counts as zero or one, a whole number is rounded
to the nearest, a text is read. -/
def Value.real (v : Value) : Except Fault Float :=
  match v with
  | .float x => .ok x
  | .int i =>
    match Decimal.ofInt? i with
    | some x => .ok x
    | none => .error .wholeTooLarge
  | .bool b => .ok (if b then 1.0 else 0.0)
  | .text s => realOfText s v.shown
  | .bytes bs => realOfText (String.ofList (bs.map asciiOf)) v.shown
  | _ => .error (.notReal v.kind)

/-- A value in upper case. -/
def Value.upper : Value → Except Fault Value
  | .text s => .ok (.text (Text.upper s))
  | .bytes bs => .ok (.bytes (bs.map fun b => if 0x61 ≤ b && b ≤ 0x7A then b - 0x20 else b))
  | v => .error (.noAttribute v.kind "upper")

end TagGateway
