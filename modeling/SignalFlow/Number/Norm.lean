import SignalFlow.Number.Binary64

/-! # The length of a vector

`Binary64.norm` is the double nearest to the square root of a sum of squares. The sum is taken in
whole multiples of the smallest double, so that nothing is lost before the one rounding at the end.
-/

namespace SignalFlow.Binary64

/-- The largest number whose square is at most `n`: twice the root of a quarter, or one more. -/
def floorSqrt (n : Nat) : Nat :=
  if positive : 0 < n then
    let half := 2 * floorSqrt (n / 4)
    if (half + 1) * (half + 1) ≤ n then half + 1 else half
  else 0
termination_by n
decreasing_by exact Nat.div_lt_self positive (by decide)

/-- A finite double as a multiple of `2 ^ (-1074)`, without its sign. -/
def units (mantissa : Nat) (exponent : Int) : Nat :=
  mantissa * Nat.pow 2 (exponent + 1074).toNat

/-- The squares of some doubles, added up in multiples of `2 ^ (-2148)`; `none` if one of them is
infinite or no number. -/
def squareSum? : List Float → Option Nat
  | [] => some 0
  | x :: rest =>
      match parts x with
      | .finite _ mantissa exponent =>
          (squareSum? rest).map (Nat.pow (units mantissa exponent) 2 + ·)
      | _ => none

/-- The length of a vector. A vector with an infinite component is infinitely long. -/
def norm (components : List Float) : Float :=
  match squareSum? components with
  | some sum =>
      let root := floorSqrt (sum * Nat.pow 2 140)
      let sticky := if root * root == sum * Nat.pow 2 140 then 0 else 1
      ofRatio false (2 * root + sticky) (Nat.pow 2 1145)
  | none => if components.any Float.isInf then infinity else notANumber

end SignalFlow.Binary64
