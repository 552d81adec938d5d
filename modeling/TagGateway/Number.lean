import TagGateway.Decimal.Shortest

/-!
# Numbers

A number is whole, without bounds, or a floating point number.

* `Number.compare?` compares by the exact values; what is not a number has no place in the order.
* `Number.text` writes a number.
-/

namespace TagGateway

/-- A whole number or a floating point number. -/
inductive Number
  | whole (n : Int)
  | real (x : Float)

namespace Number

/-- The marker of a quantity that was not measured. -/
def invalid : Number := real Decimal.notANumber

/-- The text of a number. -/
def text : Number → String
  | whole n => toString n
  | real x => Decimal.text x

/-- The nearest floating point number, if that is finite or the number is one already. -/
def toFloat? : Number → Option Float
  | whole n => Decimal.ofInt? n
  | real x => some x

/-- Which of a whole number and a floating point number is greater. -/
def compareWhole (n : Int) (x : Float) : Option Ordering :=
  match Decimal.finite? x with
  | some v =>
    let (num, den) := Decimal.scaleTwo v.mantissa 1 v.exponent
    some (compare (n * den) (if v.negative then -(num : Int) else num))
  | none => if x != x then none else some (if x < 0 then .gt else .lt)

/-- Which of two numbers is greater. -/
def compare? : Number → Number → Option Ordering
  | whole m, whole n => some (compare m n)
  | whole m, real y => compareWhole m y
  | real x, whole n => (compareWhole n x).map Ordering.swap
  | real x, real y =>
    if x < y then some .lt else if y < x then some .gt else if x == y then some .eq else none

/-- Whether two numbers have the same value. -/
def equals (a b : Number) : Bool := a.compare? b == some .eq

/-- Whether a number is less than another. -/
def less (a b : Number) : Bool := a.compare? b == some .lt

end Number

end TagGateway
