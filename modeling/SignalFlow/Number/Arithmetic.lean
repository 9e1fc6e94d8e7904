import SignalFlow.Number.Division
import SignalFlow.Number.Norm

/-! # Arithmetic on whole, real and complex numbers

A `Quantity` is an unbounded whole number, a double or a complex number. An operation between two
whole numbers is exact where it can be, and one between different kinds takes both to the wider
kind. Every operation gives `none` where it has no value: a division by zero, a result beyond the
doubles where one may not be infinite, a complex number where only real ones have a meaning.
-/

namespace SignalFlow

/-- A whole number, a double or a complex number. -/
inductive Quantity where
  | whole (value : Int)
  | real (value : Float)
  | complex (re im : Float)

namespace Quantity

/-- The double that a quantity is; a complex number is none. -/
def toFloat? : Quantity → Option Float
  | .whole n => Binary64.ofInt? n
  | .real x => some x
  | .complex .. => none

/-- The real and imaginary parts of a quantity. -/
def toComplex? : Quantity → Option (Float × Float)
  | .complex re im => some (re, im)
  | q => q.toFloat?.map (·, 0.0)

/-! ## Complex numbers -/

/-- The product of two complex numbers. -/
def complexMul (a b : Float × Float) : Float × Float :=
  (a.1 * b.1 - a.2 * b.2, a.1 * b.2 + a.2 * b.1)

/-- The quotient of two complex numbers; the larger part of the divisor is divided out first, so
that nothing overflows on the way. -/
def complexDiv? (a b : Float × Float) : Option (Float × Float) :=
  if b.2.abs ≤ b.1.abs then
    if b.1 == 0.0 then none
    else
      let ratio := b.2 / b.1
      let scale := b.1 + b.2 * ratio
      some ((a.1 + a.2 * ratio) / scale, (a.2 - a.1 * ratio) / scale)
  else if b.1.abs ≤ b.2.abs then
    let ratio := b.1 / b.2
    let scale := b.1 * ratio + b.2
    some ((a.1 * ratio + a.2) / scale, (a.2 * ratio - a.1) / scale)
  else some (Binary64.notANumber, Binary64.notANumber)

/-- A complex number multiplied with itself by repeated squaring: `square` is the base to the power
of the bit that `exponent` has lowest. -/
def complexPowNat (square result : Float × Float) (exponent : Nat) : Float × Float :=
  if positive : 0 < exponent then
    let result := if exponent % 2 == 1 then complexMul result square else result
    complexPowNat (complexMul square square) result (exponent / 2)
  else result
termination_by exponent
decreasing_by exact Nat.div_lt_self positive (by decide)

/-- A power of a complex number through its polar form. -/
def complexPowPolar? (a b : Float × Float) : Option (Float × Float) :=
  if b.1 == 0.0 && b.2 == 0.0 then some (1.0, 0.0)
  else if a.1 == 0.0 && a.2 == 0.0 then
    if b.2 != 0.0 || b.1 < 0.0 then none else some (0.0, 0.0)
  else
    let size := Binary64.norm [a.1, a.2]
    let angle := Float.atan2 a.2 a.1
    let length := size.pow b.1
    let length := if b.2 == 0.0 then length else length * Float.exp (-(angle * b.2))
    let phase := angle * b.1
    let phase := if b.2 == 0.0 then phase else phase + b.2 * size.log
    some (length * phase.cos, length * phase.sin)

/-- The largest exponent for which a complex power is taken by multiplication. -/
def multipliedPower : Float := 100.0

/-- A power of a complex number; none may be infinite. -/
def complexPow? (a b : Float × Float) : Option (Float × Float) := do
  let power ←
    if b.2 == 0.0 && b.1 == b.1.floor && b.1.abs ≤ multipliedPower then
      let exponent := (Binary64.truncate? b.1).getD 0
      let power := complexPowNat a (1.0, 0.0) exponent.natAbs
      if 0 < exponent then some power else complexDiv? (1.0, 0.0) power
    else complexPowPolar? a b
  if power.1.isInf || power.2.isInf then none else some power

/-! ## Powers of real numbers -/

/-- A power of a double. A fractional power of a negative number is complex. -/
def realPow? (x y : Float) : Option Quantity :=
  if x == 0.0 && y < 0.0 && y.isFinite then none
  else if x < 0.0 && x.isFinite && y.isFinite && y != y.floor then
    (complexPow? (x, 0.0) (y, 0.0)).map fun (re, im) => .complex re im
  else
    let power := x.pow y
    if power.isInf && x.isFinite && y.isFinite then none else some (.real power)

/-- A power of a whole number: exact, or a double for a negative exponent. -/
def wholePow? (a b : Int) : Option Quantity :=
  match b with
  | .ofNat exponent =>
      -- The powers of small numbers depend only on whether the exponent is even.
      if a.natAbs ≤ 1 && 2 ≤ exponent then some (.whole (Int.pow a (exponent % 2 + 2)))
      else some (.whole (Int.pow a exponent))
  | .negSucc _ => do
      realPow? (← Binary64.ofInt? a) (← Binary64.ofInt? b)

/-! ## The operations -/

/-- An operation between two quantities, by the wider of their kinds. -/
def combine? (whole : Int → Int → Option Quantity) (real : Float → Float → Option Quantity)
    (complex : Float × Float → Float × Float → Option (Float × Float)) (a b : Quantity) :
    Option Quantity :=
  match a, b with
  | .whole m, .whole n => whole m n
  | .complex .., _ | _, .complex .. => do
      let (re, im) ← complex (← a.toComplex?) (← b.toComplex?)
      some (.complex re im)
  | _, _ => do real (← a.toFloat?) (← b.toFloat?)

/-- The sum. -/
def add? : Quantity → Quantity → Option Quantity :=
  combine? (fun m n => some (.whole (m + n))) (fun x y => some (.real (x + y)))
    fun a b => some (a.1 + b.1, a.2 + b.2)

/-- The difference. -/
def sub? : Quantity → Quantity → Option Quantity :=
  combine? (fun m n => some (.whole (m - n))) (fun x y => some (.real (x - y)))
    fun a b => some (a.1 - b.1, a.2 - b.2)

/-- The product. -/
def mul? : Quantity → Quantity → Option Quantity :=
  combine? (fun m n => some (.whole (m * n))) (fun x y => some (.real (x * y)))
    fun a b => some (complexMul a b)

/-- The quotient. That of two whole numbers is the nearest double. -/
def div? : Quantity → Quantity → Option Quantity :=
  combine?
    (fun m n =>
      if n == 0 then none
      else
        let quotient := Binary64.ofRatio ((m < 0) != (n < 0)) m.natAbs n.natAbs
        if quotient.isFinite then some (.real quotient) else none)
    (fun x y => if y == 0.0 then none else some (.real (x / y))) complexDiv?

/-- The floored quotient of real numbers. -/
def floorDiv? : Quantity → Quantity → Option Quantity :=
  combine? (fun m n => if n == 0 then none else some (.whole (m.fdiv n)))
    (fun x y => if y == 0.0 then none else some (.real (Binary64.floorDiv x y)))
    fun _ _ => none

/-- The remainder of the floored quotient of real numbers. -/
def mod? : Quantity → Quantity → Option Quantity :=
  combine? (fun m n => if n == 0 then none else some (.whole (m.fmod n)))
    (fun x y => if y == 0.0 then none else some (.real (Binary64.floorMod x y)))
    fun _ _ => none

/-- A power. -/
def pow? : Quantity → Quantity → Option Quantity :=
  combine? wholePow? realPow? complexPow?

/-- The number of binary digits of a whole number besides its first one. -/
def bits : Quantity → Nat
  | .whole n => n.natAbs.log2
  | _ => 0

/-- The least number of binary digits that a power of whole numbers has besides its first one. -/
def powBits : Quantity → Quantity → Nat
  | .whole m, .whole n => m.natAbs.log2 * n.toNat
  | _, _ => 0

/-- The same quantity with the other sign. -/
def neg : Quantity → Quantity
  | .whole n => .whole (-n)
  | .real x => .real (-x)
  | .complex re im => .complex (-re) (-im)

/-- The size of a quantity. -/
def abs? : Quantity → Option Quantity
  | .whole n => some (.whole n.natAbs)
  | .real x => some (.real x.abs)
  | .complex re im =>
      let size := Binary64.norm [re, im]
      if size.isInf && re.isFinite && im.isFinite then none else some (.real size)

/-- The largest whole number not above a real one. -/
def floor? : Quantity → Option Quantity
  | .whole n => some (.whole n)
  | .real x => (Binary64.floor? x).map .whole
  | .complex .. => none

/-- The smallest whole number not below a real one. -/
def ceil? : Quantity → Option Quantity
  | .whole n => some (.whole n)
  | .real x => (Binary64.ceil? x).map .whole
  | .complex .. => none

/-! ## Order -/

/-- Whether a whole number lies below a double; nothing lies below a double that is no number. -/
def wholeBelowReal (n : Int) (x : Float) : Bool :=
  match Binary64.ceil? x with
  | some ceiling => n < ceiling
  | none => 0.0 < x

/-- Whether a double lies below a whole number. -/
def realBelowWhole (x : Float) (n : Int) : Bool :=
  match Binary64.floor? x with
  | some floor => floor < n
  | none => x < 0.0

/-- Whether one quantity lies below another, compared exactly; complex numbers have no order. -/
def less? : Quantity → Quantity → Option Bool
  | .whole m, .whole n => some (m < n)
  | .whole m, .real y => some (wholeBelowReal m y)
  | .real x, .whole n => some (realBelowWhole x n)
  | .real x, .real y => some (x < y)
  | _, _ => none

end Quantity

end SignalFlow
