import SignalFlow.Linear.Polynomial

/-! # Discrete transfer functions

A discrete transfer function is a recurrence over past inputs and outputs (`Recurrence`), its
coefficients divided by the leading one of the denominator.
-/

namespace SignalFlow

/-- A recurrence; the first coefficient of the denominator is one. -/
structure Recurrence (α : Type) where
  num : List α
  den : List α
deriving Inhabited

namespace Recurrence

variable {α : Type} [Scalar α]

/-- The next output, from the inputs and the earlier outputs, newest first. -/
def evaluate (model : Recurrence α) (inputs outputs : List α) : α :=
  let forward := (List.zipWith (· * ·) model.num inputs).foldl (· + ·) 0.0
  (List.zipWith (· * ·) model.den.tail outputs).foldl (· - ·) forward

/-- The numerator of a recurrence. Its leading zeros are kept, since they stand for a delay of the
input. -/
def numerator (coefficients : List α) : List α :=
  if Polynomial.isZero coefficients then [0.0] else Polynomial.clean coefficients

/-- The denominator of a recurrence, which is one in place of zero. -/
def denominator (coefficients : List α) : List α :=
  if Polynomial.isZero coefficients then [1.0] else Polynomial.normalize coefficients

/-- The recurrence of a transfer function. -/
def realize (num den : List α) : Recurrence α :=
  let leading := (denominator den).headD 1.0
  ⟨(numerator num).map (· / leading), (denominator den).map (· / leading)⟩

end Recurrence

end SignalFlow
