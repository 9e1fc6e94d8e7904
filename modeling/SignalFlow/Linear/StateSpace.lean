import SignalFlow.Linear.Polynomial
import SignalFlow.Notice

/-! # State-space models

A model `x' = A x + B u`, `y = C x + D u` with one input and one output (`StateSpace`).
`StateSpace.realize?` finds the model of a transfer function, and `StateSpace.advance` integrates
it over one step with the classic fourth-order method, the input held.
-/

namespace SignalFlow

/-! ## Vectors -/

namespace Vector

variable {α : Type} [Scalar α]

/-- The sum of two vectors. -/
def add (x y : List α) : List α := List.zipWith (· + ·) x y

/-- A multiple of a vector. -/
def scale (factor : α) (x : List α) : List α := x.map (factor * ·)

/-- The scalar product of two vectors. -/
def dot (x y : List α) : α := (List.zipWith (· * ·) x y).foldl (· + ·) 0.0

/-- The zero vector. -/
def zero (size : Nat) : List α := List.replicate size 0.0

end Vector

/-- A model with one input and one output. A model of order zero is a gain. -/
structure StateSpace (α : Type) where
  /-- The rows of `A`. -/
  a : List (List α)
  b : List α
  c : List α
  d : α
deriving Inhabited

namespace StateSpace

variable {α : Type} [Scalar α]

/-- The number of state variables. -/
def order (model : StateSpace α) : Nat := model.b.length

/-- Whether the input reaches the output directly. -/
def hasFeedthrough (model : StateSpace α) : Bool := model.d != 0.0

/-- The rate of change of a state. -/
def derivative (model : StateSpace α) (x : List α) (u : α) : List α :=
  Vector.add (model.a.map (Vector.dot · x)) (model.b.map (· * u))

/-- The output in a state. -/
def output (model : StateSpace α) (x : List α) (u : α) : α :=
  if model.order == 0 then model.d * u else Vector.dot model.c x + model.d * u

/-- The state at rest. -/
def rest (model : StateSpace α) : List α := Vector.zero model.order

/-- The state after a step `h`, by the classic fourth-order method. -/
def advance (model : StateSpace α) (x : List α) (u h : α) : List α :=
  if model.order == 0 then x
  else
    let k₁ := model.derivative x u
    let k₂ := model.derivative (Vector.add x (Vector.scale (0.5 * h) k₁)) u
    let k₃ := model.derivative (Vector.add x (Vector.scale (0.5 * h) k₂)) u
    let k₄ := model.derivative (Vector.add x (Vector.scale h k₃)) u
    let middle := Vector.add (Vector.add k₁ (Vector.scale 2.0 k₂)) (Vector.scale 2.0 k₃)
    let slope := Vector.add middle k₄
    Vector.add x (Vector.scale (h / 6.0) slope)

/-! ## Realization -/

/-- The vector with a one at one place and zeros elsewhere. -/
def unit (size place : Nat) : List α :=
  (List.range size).map fun i => if i == place then 1.0 else 0.0

/-- The model in controllable canonical form of a transfer function whose denominator is
`s ^ n + a.head * s ^ (n - 1) + …` and whose numerator is `b`, from `s ^ n` on. -/
def canonical (a b : List α) : StateSpace α :=
  let n := a.length
  let direct := b.headD 0.0
  { a := (List.range n).map fun i =>
      if i + 1 < n then unit n (i + 1) else a.reverse.map (- ·)
    b := unit n (n - 1)
    c := (List.zipWith (fun numerator denominator => numerator - denominator * direct)
      b.tail a).reverse
    d := direct }

/-- The last `size` coefficients of a numerator, with zeros in front of a shorter one. -/
def fit (size : Nat) (numerator : List α) : List α :=
  List.replicate (size - numerator.length) 0.0 ++ numerator.drop (numerator.length - size)

/-- The number of entries of the square matrix in the model of a transfer function. -/
def matrixSize (denominator : List α) : Nat :=
  let order := (Polynomial.normalize denominator).length - 1
  order * order

/-- The model of a transfer function; `none` if its denominator is zero. Of a numerator of a higher
degree than the denominator the terms of lowest order are kept; a denominator of degree zero takes
the leading one. -/
def realize? (numerator denominator : List α) : Option (StateSpace α) :=
  if Polynomial.isZero denominator then none
  else
    match Polynomial.normalize denominator with
    | [] => none
    | [leading] =>
        some ⟨[], [], [], (Polynomial.normalize numerator).headD 0.0 / leading⟩
    | leading :: rest =>
        some (canonical (rest.map (· / leading))
          ((fit (rest.length + 1) (Polynomial.normalize numerator)).map (· / leading)))

/-- What is to be told about a realization: that terms of the numerator are left out. -/
def realizationNotice? (numerator denominator : List α) : Option Notice :=
  let num := Polynomial.normalize numerator
  let den := Polynomial.normalize denominator
  if !Polynomial.isZero denominator && 1 < den.length && den.length < num.length then
    some (.improper (num.length - 1) (den.length - 1))
  else none

end StateSpace

end SignalFlow
