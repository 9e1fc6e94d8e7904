import SignalFlow.Number.Binary64

/-! # Division of doubles with a remainder

`Binary64.remainder` is the exact remainder with the sign of the dividend. The other two operations
floor the quotient, so that a remainder has the sign of the divisor: `Binary64.floorMod` and
`Binary64.floorDiv`.
-/

namespace SignalFlow.Binary64

/-- A magnitude with the sign of another double. -/
def withSignOf (magnitude sign : Float) : Float :=
  if isNegative magnitude == isNegative sign then magnitude else -magnitude

/-- What is left of `x` after taking away a whole multiple of `y`, rounded toward zero. The result
is exact: both doubles are multiples of one power of two. -/
def remainder (x y : Float) : Float :=
  match parts x, parts y with
  | .finite negative mantissa exponent, .finite _ divisor scale =>
      if divisor == 0 then notANumber
      else
        let unit := min exponent scale
        let left := mantissa * Nat.pow 2 (exponent - unit).toNat %
          (divisor * Nat.pow 2 (scale - unit).toNat)
        let (numerator, denominator) := ratio left unit
        ofRatio negative numerator denominator
  | .finite .., .infinite _ => x
  | _, _ => notANumber

/-- The remainder of a floored division by a divisor other than zero. -/
def floorMod (x y : Float) : Float :=
  let left := remainder x y
  if left == 0.0 then withSignOf 0.0 y
  else if (y < 0.0) != (left < 0.0) then left + y
  else left

/-- The floored quotient by a divisor other than zero. The remainder is taken away first, and the
quotient of the rest is snapped to the nearest whole number. -/
def floorDiv (x y : Float) : Float :=
  let left := remainder x y
  let quotient := (x - left) / y
  let quotient := if left != 0.0 && (y < 0.0) != (left < 0.0) then quotient - 1.0 else quotient
  if quotient == 0.0 then withSignOf 0.0 (x / y)
  else
    let whole := quotient.floor
    if 0.5 < quotient - whole then whole + 1.0 else whole

end SignalFlow.Binary64
