import TagGateway.Decimal.Binary

/-!
# The shortest decimal text of a floating point number

A number is written with the fewest digits that read back as the same `Float`, and with the
nearest such digits where there are several.

* `shortestDigits` finds them by exact arithmetic: for one, two, … seventeen digits it tries the
  two neighbours of the value on the grid of that many digits.
* `Layout` says where the positional form ends; `text` writes a number in it.
-/

namespace TagGateway.Decimal

/-- The decimal digits of a natural number, most significant first. -/
def digitChars (n : Nat) : List Char := Nat.toDigits 10 n

/-- A positive decimal: a whole number of units of ten to the exponent. -/
structure Digits where
  digits : Nat
  exponent : Int

/-- The numerator and denominator of `num / den · 10 ^ e`. -/
def scaleTen (num den : Nat) (e : Int) : Nat × Nat :=
  match e with
  | .ofNat k => (num * Nat.pow 10 k, den)
  | .negSucc k => (num, den * Nat.pow 10 (k + 1))

/-- How many digits a natural number has; zero has none. -/
def digitCount (n : Nat) : Nat :=
  if n == 0 then 0 else (digitChars n).length

/-- The place of the decimal point before which a positive quotient has its first digit:
the `p` with `10 ^ (p - 1) ≤ num / den < 10 ^ p`. -/
def pointPlace (num den : Nat) : Int :=
  if den ≤ num then digitCount (num / den)
  else 1 - (digitCount ((den - 1) / num) : Int)

/-- The reals that round to a positive finite value: its two ends and itself over one
denominator, and whether the ends belong to it. -/
structure Interval where
  low : Nat
  value : Nat
  high : Nat
  den : Nat
  closed : Bool

/-- The interval of a positive value; below a power of two the neighbour is half as far. -/
def Scaled.interval (v : Scaled) : Interval :=
  let below := if v.mantissa == Nat.pow 2 52 && v.exponent > -1074 then 1 else 2
  let (unit, den) := scaleTwo 1 1 (v.exponent - 2)
  ⟨(4 * v.mantissa - below) * unit, 4 * v.mantissa * unit, (4 * v.mantissa + 2) * unit, den,
    v.mantissa % 2 == 0⟩

/-- Whether `num / den` rounds to the value of the interval. -/
def Interval.contains (i : Interval) (num den : Nat) : Bool :=
  let low := i.low * den
  let high := i.high * den
  let x := num * i.den
  if i.closed then low ≤ x && x ≤ high else low < x && x < high

/-- The best decimal with `count` digits that reads back, if one does: of two neighbours on the
grid the nearer, of two equally near ones the even. -/
def Interval.onGrid? (i : Interval) (place : Int) (count : Nat) : Option Digits :=
  let e := place - count
  let (n, d) := scaleTen i.value i.den (-e)
  let down := n / d
  let reads (q : Nat) : Bool :=
    let (qn, qd) := scaleTen q 1 e
    i.contains qn qd
  match reads down, reads (down + 1) with
  | true, true => some ⟨roundDiv n d, e⟩
  | true, false => some ⟨down, e⟩
  | false, true => some ⟨down + 1, e⟩
  | false, false => none

/-- The digits without zeros at the end; `fuel` bounds how many are removed. -/
def Digits.strip : Nat → Digits → Digits
  | 0, x => x
  | fuel + 1, x =>
    if x.digits != 0 && x.digits % 10 == 0 then strip fuel ⟨x.digits / 10, x.exponent + 1⟩ else x

/-- The fewest digits that read back as a positive finite value. -/
def shortestDigits (v : Scaled) : Digits :=
  let i := v.interval
  let place := pointPlace i.value i.den
  let found := (List.range 17).findSome? fun k => i.onGrid? place (k + 1)
  (found.getD ⟨0, 0⟩).strip 20

/-- The form of a written number: the decimal exponents written positionally, from the first up
to and without the second. -/
structure Layout where
  leastPositional : Int
  leastScientific : Int

/-- Numbers are positional from 0.0001 up to sixteen digits before the point. -/
def Layout.general : Layout := ⟨-4, 16⟩

/-- The exponent part of the scientific form: a sign and at least two digits. -/
def exponentText (e : Int) : List Char :=
  let ds := digitChars e.natAbs
  'e' :: (if e < 0 then '-' else '+') :: (if ds.length < 2 then '0' :: ds else ds)

/-- A positive decimal in a layout. -/
def Layout.write (l : Layout) (x : Digits) : List Char :=
  let ds := digitChars x.digits
  let place := x.exponent + ds.length
  let e := place - 1
  if l.leastPositional ≤ e && e < l.leastScientific then
    if place ≤ 0 then '0' :: '.' :: List.replicate (-place).toNat '0' ++ ds
    else if ds.length ≤ place.toNat then
      ds ++ List.replicate (place.toNat - ds.length) '0' ++ ['.', '0']
    else ds.take place.toNat ++ '.' :: ds.drop place.toNat
  else
    (match ds with
      | [] => []
      | [d] => [d]
      | d :: rest => d :: '.' :: rest) ++ exponentText e

/-- The text of a number: shortest digits, `inf`, `-inf` and `nan` for the others. -/
def text (x : Float) : String :=
  match finite? x with
  | none =>
    if x != x then "nan" else if x < 0 then "-inf" else "inf"
  | some v =>
    let body :=
      if v.mantissa == 0 then ['0', '.', '0']
      else Layout.general.write (shortestDigits ⟨false, v.mantissa, v.exponent⟩)
    String.ofList (if v.negative then '-' :: body else body)

end TagGateway.Decimal
