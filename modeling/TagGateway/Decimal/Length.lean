import TagGateway.Decimal.Binary

/-!
# The length of a vector

The square root of a sum of squares, rounded once: the sum is formed exactly, so nothing is lost
and nothing overflows on the way.

* `sqrtFloor` is the whole part of a square root.
* `length` is infinite if a component is, else not a number if a component is not one.
-/

namespace TagGateway.Decimal

/-- The whole part of the square root. -/
def sqrtFloor (n : Nat) : Nat :=
  if h : n < 2 then n
  else
    let r := 2 * sqrtFloor (n / 4)
    if (r + 1) * (r + 1) ≤ n then r + 1 else r
termination_by n
decreasing_by omega

/-- The nearest `Float` to the square root of `square · 2 ^ (2 · e)`: the root is taken with 64
more binary digits than needed, and one more digit records whether it is inexact. -/
def nearestRoot (square : Nat) (e : Int) : Float :=
  if square == 0 then nearest false 0 1
  else
    let scaled := square * Nat.pow 4 128
    let r := sqrtFloor scaled
    let sticky := if r * r == scaled then 0 else 1
    let (n, d) := scaleTwo (2 * r + sticky) 1 (e - 129)
    nearest false n d

/-- The length of a vector, correctly rounded. -/
def length (components : List Float) : Float :=
  if components.any Float.isInf then infinity
  else if components.any Float.isNaN then notANumber
  else
    let parts := components.filterMap finite?
    let e := parts.foldl (fun least v => min least v.exponent) 0
    let square := parts.foldl
      (fun sum v => sum + Nat.pow (v.mantissa * Nat.pow 2 (v.exponent - e).toNat) 2) 0
    nearestRoot square e

end TagGateway.Decimal
