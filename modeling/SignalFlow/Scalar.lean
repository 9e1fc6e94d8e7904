import SignalFlow.Fault
import SignalFlow.Number.Binary64

/-! # The numbers of a simulation

Blocks compute with numbers of a type `Scalar α`. Simulations run on doubles. The same blocks over
rational numbers compute exactly, which is what laws of the blocks speak of.

The larger of two numbers is the first one unless the second exceeds it, and likewise the smaller;
with doubles this decides what becomes of a negative zero and of a value that is no number.
-/

namespace SignalFlow

/-- The numbers that blocks compute with. -/
class Scalar (α : Type) extends
    Add α, Sub α, Mul α, Div α, Neg α, LT α, LE α, BEq α, OfScientific α where
  decideLt : ∀ a b : α, Decidable (a < b)
  decideLe : ∀ a b : α, Decidable (a ≤ b)
  /-- The number of a natural one. -/
  ofCount : Nat → α
  /-- The number nearest to a double; a double that is not finite may become zero. -/
  ofFloat : Float → α
  /-- The double nearest to a number. -/
  toFloat : α → Float
  isFinite : α → Bool
  /-- The nearest whole number, a half going to the even one. -/
  round : α → Except Fault Int
  /-- The sine, of a finite number. -/
  sin : α → Except Fault α

instance Scalar.decidableLt {α : Type} [Scalar α] (a b : α) : Decidable (a < b) :=
  Scalar.decideLt a b

instance Scalar.decidableLe {α : Type} [Scalar α] (a b : α) : Decidable (a ≤ b) :=
  Scalar.decideLe a b

namespace Scalar

variable {α : Type} [Scalar α]

/-- The larger of two numbers: the first one unless the second exceeds it. -/
def max (a b : α) : α := if a < b then b else a

/-- The smaller of two numbers: the first one unless the second lies below it. -/
def min (a b : α) : α := if b < a then b else a

/-- The magnitude of a number. -/
def abs (a : α) : α := if a < 0.0 then -a else a

/-- The ratio of a circle's circumference to its diameter. -/
def pi : α := 3.141592653589793

/-- A number unless it is zero, in which case another one takes its place. -/
def orElse (a instead : α) : α := if a == 0.0 then instead else a

/-- Limits a number to a range; where the range is empty its upper end wins. -/
def clip (value lower upper : α) : α := min upper (max lower value)

end Scalar

instance : Scalar Float where
  decideLt := fun a b => inferInstanceAs (Decidable (a < b))
  decideLe := fun a b => inferInstanceAs (Decidable (a ≤ b))
  ofCount := Float.ofNat
  ofFloat := id
  toFloat := id
  isFinite := Float.isFinite
  round := fun x =>
    match Binary64.nearest? x with
    | some n => .ok n
    | none => .error (if x.isNaN then .undefined else .tooLarge)
  sin := fun x => if x.isInf then .error .undefined else .ok x.sin

/-- The double nearest to a rational number. -/
def Binary64.ofRat (q : Rat) : Float :=
  ofRatio (q < 0) q.num.natAbs q.den

/-- Rational numbers have no sine. -/
instance : Scalar Rat where
  decideLt := fun a b => inferInstanceAs (Decidable (a < b))
  decideLe := fun a b => inferInstanceAs (Decidable (a ≤ b))
  ofCount := fun n => (n : Rat)
  ofFloat := fun x => (Binary64.toRat? x).getD 0
  toFloat := Binary64.ofRat
  isFinite := fun _ => true
  round := fun q =>
    .ok (Binary64.signed (q < 0) (Binary64.roundDiv q.num.natAbs q.den))
  sin := fun _ => .error .undefined

end SignalFlow
