import SignalFlow.Scalar

/-! # Coefficient lists

A polynomial is the list of its coefficients, highest degree first. Coefficients below a tolerance
count as zero: `Polynomial.normalize` drops the leading ones. `Polynomial.reduce` finds the same in
one go, and tells whether no coefficient counts.
-/

namespace SignalFlow.Polynomial

/-- The coefficients of a list that may be missing, and that may have gaps. A gap is no number. -/
def ofNullable (given : Option (List (Option Float))) : List Float :=
  (given.getD []).map (·.getD Binary64.notANumber)

variable {α : Type} [Scalar α]

/-- The magnitude below which a coefficient counts as zero. -/
def tolerance : α := 1e-12

/-- Whether a coefficient counts as zero. -/
def isNegligible (coefficient : α) : Bool :=
  Scalar.abs coefficient < tolerance

/-- The coefficients with a zero for each one that is not finite. -/
def clean (coefficients : List α) : List α :=
  coefficients.map fun c => if Scalar.isFinite c then c else 0.0

/-- Without the leading coefficients that count as zero. -/
def trim (coefficients : List α) : List α :=
  coefficients.dropWhile isNegligible

/-- The coefficients from the first one on that does not count as zero; a polynomial that has none
is zero. -/
def normalize (coefficients : List α) : List α :=
  match trim (clean coefficients) with
  | [] => [0.0]
  | trimmed => trimmed

/-- Whether all the coefficients count as zero. -/
def isZero (coefficients : List α) : Bool :=
  (clean coefficients).all isNegligible

/-- Without the leading coefficients that count as zero, but with the last coefficient in any case. -/
def strip : List α → List α
  | [] => []
  | [last] => [last]
  | first :: second :: rest =>
      if isNegligible first then strip (second :: rest) else first :: second :: rest

/-- A polynomial without its leading coefficients that count as zero, and whether it is zero: this
shows once nothing more can be stripped. -/
def reduce (coefficients : List α) : List α × Bool :=
  let stripped := strip (clean coefficients)
  if stripped.all isNegligible then ([0.0], true) else (stripped, false)

end SignalFlow.Polynomial
