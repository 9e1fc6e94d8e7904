/-! # Doubles as exact numbers

A double is a sign, a mantissa and a power of two, or infinite, or no number at all
(`Binary64.parts`). Every exact operation of the library goes through these parts: the value as a
rational (`Binary64.toRat?`), the rounding to whole numbers (`Binary64.floor?`,
`Binary64.nearest?`), and, in the other direction, the double nearest to a quotient of whole
numbers (`Binary64.ofRatio`).
-/

namespace SignalFlow

namespace Binary64

/-- What a double stands for: the finite value is `± mantissa * 2 ^ exponent`. -/
inductive Parts where
  | notANumber
  | infinite (negative : Bool)
  | finite (negative : Bool) (mantissa : Nat) (exponent : Int)
deriving DecidableEq

/-- The parts of a double, read off its bits. -/
def parts (x : Float) : Parts :=
  let bits : Nat := x.toBits.toNat
  let negative := bits / Nat.pow 2 63 == 1
  let biased : Nat := bits / Nat.pow 2 52 % Nat.pow 2 11
  let fraction : Nat := bits % Nat.pow 2 52
  if biased == 2047 then
    if fraction == 0 then .infinite negative else .notANumber
  else if biased == 0 then .finite negative fraction (-1074)
  else .finite negative (Nat.pow 2 52 + fraction) ((biased : Int) - 1075)

/-- Whether the sign bit is set; negative zero counts as negative. -/
def isNegative (x : Float) : Bool :=
  x.toBits.toNat / Nat.pow 2 63 == 1

/-- The whole numbers `(numerator, denominator)` whose quotient a finite double is, without its
sign. -/
def ratio (mantissa : Nat) (exponent : Int) : Nat × Nat :=
  match exponent with
  | .ofNat up => (mantissa * Nat.pow 2 up, 1)
  | .negSucc down => (mantissa, Nat.pow 2 (down + 1))

/-- The sign times a natural number. -/
def signed (negative : Bool) (magnitude : Nat) : Int :=
  if negative then -(magnitude : Int) else magnitude

/-- The exact value of a finite double. -/
def toRat? (x : Float) : Option Rat :=
  match parts x with
  | .finite negative mantissa exponent =>
      let (numerator, denominator) := ratio mantissa exponent
      some (mkRat (signed negative numerator) denominator)
  | _ => none

/-- The largest whole number not above a finite double. -/
def floor? (x : Float) : Option Int :=
  match parts x with
  | .finite negative mantissa exponent =>
      let (numerator, denominator) := ratio mantissa exponent
      some ((signed negative numerator).fdiv denominator)
  | _ => none

/-- The smallest whole number not below a finite double. -/
def ceil? (x : Float) : Option Int :=
  match parts x with
  | .finite negative mantissa exponent =>
      let (numerator, denominator) := ratio mantissa exponent
      some (-((signed (!negative) numerator).fdiv denominator))
  | _ => none

/-- A finite double without its fraction. -/
def truncate? (x : Float) : Option Int :=
  match parts x with
  | .finite negative mantissa exponent =>
      let (numerator, denominator) := ratio mantissa exponent
      some (signed negative (numerator / denominator))
  | _ => none

/-- The quotient of two natural numbers rounded to the nearest one, a half to the even one. -/
def roundDiv (numerator denominator : Nat) : Nat :=
  let quotient := numerator / denominator
  let twice := 2 * (numerator % denominator)
  if twice < denominator then quotient
  else if denominator < twice then quotient + 1
  else quotient + quotient % 2

/-- The whole number nearest to a finite double, a half going to the even neighbour. -/
def nearest? (x : Float) : Option Int :=
  match parts x with
  | .finite negative mantissa exponent =>
      let (numerator, denominator) := ratio mantissa exponent
      some (signed negative (roundDiv numerator denominator))
  | _ => none

/-- The double nearest to `numerator / denominator`, a tie going to the even mantissa; too large
a quotient is infinite, and so is any positive number over zero. -/
def ofRatio (negative : Bool) (numerator denominator : Nat) : Float :=
  let magnitude : Float :=
    if above : 0 < numerator then
      if below : 0 < denominator then
        .ofModel (Float.Model.pack (Float.Model.UnpackedFloat.div Float.Model.Format.binary64
          (.finite .positive numerator 0 above) (.finite .positive denominator 0 below)))
      else 1.0 / 0.0
    else 0.0
  if negative then -magnitude else magnitude

/-- The double nearest to a whole number, or `none` if it lies beyond the finite doubles. -/
def ofInt? (n : Int) : Option Float :=
  let x := Float.ofInt n
  if x.isFinite then some x else none

/-- Positive infinity. -/
def infinity : Float := 1.0 / 0.0

/-- The double that is no number. -/
def notANumber : Float := 0.0 / 0.0

end Binary64

end SignalFlow
