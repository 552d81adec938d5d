/-!
# Binary floating point, exactly

A finite `Float` is a whole number times a power of two. This module takes a `Float` apart into
these two, and finds the `Float` nearest to a quotient of whole numbers.

* `finite?` decodes, `nearest?` rounds to the nearest value with ties to the even mantissa and
  says when the quotient is beyond the greatest finite value.
* `roundDiv` is the one rounding rule; `roundPlaces` applies it to decimal places.
-/

namespace TagGateway.Decimal

/-- A finite value: the mantissa times two to the exponent, with a sign of its own. -/
structure Scaled where
  negative : Bool
  mantissa : Nat
  exponent : Int

/-- The parts of a finite value; none for the infinities and for what is not a number. -/
def finite? (x : Float) : Option Scaled :=
  let bits := x.toBits.toNat
  let fraction : Nat := bits % Nat.pow 2 52
  let biased : Nat := bits / Nat.pow 2 52 % Nat.pow 2 11
  let negative := bits / Nat.pow 2 63 == 1
  if biased == 2047 then none
  else if biased == 0 then some ⟨negative, fraction, -1074⟩
  else some ⟨negative, Nat.pow 2 52 + fraction, (biased : Int) - 1075⟩

/-- The whole number nearest to `num / den`; a half goes to the even neighbour. -/
def roundDiv (num den : Nat) : Nat :=
  let q := num / den
  let r := num % den
  if 2 * r < den then q
  else if den < 2 * r then q + 1
  else if q % 2 == 0 then q else q + 1

/-- The numerator and denominator of `num / den · 2 ^ e`. -/
def scaleTwo (num den : Nat) (e : Int) : Nat × Nat :=
  match e with
  | .ofNat k => (num * Nat.pow 2 k, den)
  | .negSucc k => (num, den * Nat.pow 2 (k + 1))

/-- The greatest exponent at which the quotient still has 53 binary digits, at least the one of
the smallest positive value. -/
def exponentFor (num den : Nat) : Int :=
  let guess : Int := (num.log2 : Int) - den.log2 - 52
  let (n, d) := scaleTwo num den (-guess)
  let e := if n < d * Nat.pow 2 52 then guess - 1 else guess
  max e (-1074)

/-- The `Float` with this sign, mantissa below `2 ^ 53` and exponent; mantissas below `2 ^ 52`
occur only at the least exponent. -/
def ofParts (negative : Bool) (mantissa : Nat) (exponent : Int) : Float :=
  let magnitude :=
    if mantissa < Nat.pow 2 52 then mantissa
    else (exponent + 1075).toNat * Nat.pow 2 52 + (mantissa - Nat.pow 2 52)
  Float.ofBits (UInt64.ofNat (if negative then Nat.pow 2 63 + magnitude else magnitude))

/-- The `Float` nearest to `num / den`, ties to even; none beyond the greatest finite value. -/
def nearest? (negative : Bool) (num den : Nat) : Option Float :=
  if num == 0 then some (ofParts negative 0 (-1074))
  else
    let e := exponentFor num den
    let (n, d) := scaleTwo num den (-e)
    let m := roundDiv n d
    let (m, e) := if m == Nat.pow 2 53 then (Nat.pow 2 52, e + 1) else (m, e)
    if e > 971 then none else some (ofParts negative m e)

/-- Positive infinity. -/
def infinity : Float := Float.ofBits 0x7FF0000000000000

/-- The value that is not a number. -/
def notANumber : Float := Float.ofBits 0x7FF8000000000000

/-- The `Float` nearest to a quotient, infinite beyond the greatest finite value. -/
def nearest (negative : Bool) (num den : Nat) : Float :=
  (nearest? negative num den).getD (if negative then -infinity else infinity)

/-- The `Float` nearest to a whole number, if that is finite. -/
def ofInt? (i : Int) : Option Float :=
  nearest? (i < 0) i.natAbs 1

/-- The exact value rounded to a number of decimal places, a half to the even neighbour, as the
nearest `Float`; infinities and what is not a number stay as they are. -/
def roundPlaces (x : Float) (places : Nat) : Float :=
  match finite? x with
  | none => x
  | some v =>
    let (n, d) := scaleTwo (v.mantissa * Nat.pow 10 places) 1 v.exponent
    nearest v.negative (roundDiv n d) (Nat.pow 10 places)

/-- The whole part of a finite value, toward zero. -/
def Scaled.truncate (v : Scaled) : Int :=
  let (n, d) := scaleTwo v.mantissa 1 v.exponent
  let whole : Int := (n / d : Nat)
  if v.negative then -whole else whole

end TagGateway.Decimal
