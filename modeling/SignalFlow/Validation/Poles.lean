import SignalFlow.Scalar

/-! # Counting poles

How many roots a polynomial has beyond the boundary of stability, in exact arithmetic and without
computing any of them. Along the imaginary axis the argument of a polynomial turns by half a circle
for every root to the left of the axis and back for every root to its right. The turn is read off
the signs of a chain of remainders of the real and the imaginary part (`Poles.index`).

Polynomials are lists of rational coefficients, highest degree first. A root on the boundary counts
as stable: the boundary is moved outward by a tolerance first.
-/

namespace SignalFlow.Poles

/-- Without leading zeros. -/
def trim (p : List Rat) : List Rat := p.dropWhile (· == 0)

/-- The sum of two polynomials. -/
def add (p q : List Rat) : List Rat :=
  let size := max p.length q.length
  List.zipWith (· + ·) (List.replicate (size - p.length) 0 ++ p)
    (List.replicate (size - q.length) 0 ++ q)

/-- A multiple of a polynomial. -/
def scale (factor : Rat) (p : List Rat) : List Rat := p.map (factor * ·)

/-- A polynomial times `a * x + b`. -/
def mulLinear (p : List Rat) (a b : Rat) : List Rat :=
  add (scale a p ++ [0]) (scale b p)

/-- A polynomial with `x + shift` in place of `x`. -/
def shift (shift : Rat) (p : List Rat) : List Rat :=
  p.foldl (fun result coefficient => add (mulLinear result 1 shift) [coefficient]) []

/-- A power of `a * x + b` times a polynomial. -/
def mulPower (a b : Rat) (p : List Rat) : Nat → List Rat
  | 0 => p
  | count + 1 => mulLinear (mulPower a b p count) a b

/-- The polynomial whose roots in the right half plane are those of `p` outside the circle of a
radius, by the substitution `radius * (1 + x) / (1 - x)`. -/
def unfoldCircle (radius : Rat) (p : List Rat) : List Rat :=
  let degree := p.length - 1
  (List.range p.length).foldl (fun result i =>
    add result (mulPower radius radius (mulPower (-1) 1 [p.getD i 0] i) (degree - i))) []

/-- Every second coefficient from a polynomial on, with alternating signs and zeros between them, as
it becomes on the imaginary axis. -/
def alternate : Bool → Bool → List Rat → List Rat
  | _, _, [] => []
  | true, negative, c :: rest => (if negative then -c else c) :: alternate false (!negative) rest
  | false, negative, _ :: rest => 0 :: alternate true negative rest

/-- The negated remainder of a division; `room` is at least the difference of the degrees and one
more. -/
def negatedRemainder (divisor : List Rat) : Nat → List Rat → List Rat
  | 0, p => scale (-1) p
  | room + 1, p =>
      match trim p, divisor with
      | lead :: rest, head :: tail =>
          if rest.length < tail.length then scale (-1) (lead :: rest)
          else
            let factor := -(lead / head)
            negatedRemainder divisor room
              (add rest (scale factor tail ++ List.replicate (rest.length - tail.length) 0))
      | _, _ => []

/-- A polynomial divided by the magnitude of its leading coefficient, which keeps the signs. -/
def normalize (p : List Rat) : List Rat :=
  match trim p with
  | [] => []
  | lead :: rest => scale (1 / (if lead < 0 then -lead else lead)) (lead :: rest)

/-- The chain of negated remainders of two polynomials. -/
def chain : Nat → List Rat → List Rat → List (List Rat)
  | 0, p, _ => [p]
  | room + 1, p, q =>
      match normalize q with
      | [] => [p]
      | q => p :: chain room q (negatedRemainder q (p.length + 1) p)

/-- The number of changes between signs that follow each other; zeros are left out. -/
def changes (signs : List Rat) : Nat :=
  let signs := signs.filter (· != 0)
  ((signs.zip signs.tail).filter fun (a, b) => (a < 0) != (b < 0)).length

/-- The leading coefficient of a polynomial, which has its sign far to the right. -/
def signAbove (p : List Rat) : Rat := (trim p).headD 0

/-- A number of the sign that a polynomial has far to the left. -/
def signBelow (p : List Rat) : Rat :=
  if (trim p).length % 2 == 0 then -signAbove p else signAbove p

/-- How often the quotient `q / p` jumps from negative to positive, less how often it jumps back,
for `q` of lower degree than `p`. -/
def index (p q : List Rat) : Int :=
  let polynomials := chain (p.length + q.length) p q
  (changes (polynomials.map signBelow) : Int) - changes (polynomials.map signAbove)

/-- The number of roots to the right of the imaginary axis, of a polynomial without roots on it. -/
def rightHalf (p : List Rat) : Nat :=
  let p := trim p
  let degree := p.length - 1
  let turned := index (alternate true false p) (alternate false false p)
  ((degree - turned) / 2).toNat

/-- How far beyond the boundary a pole must lie to count. -/
def tolerance : Rat := 1e-9

/-- The exact coefficients of a polynomial. -/
def exact (p : List Float) : List Rat := p.map fun x => (Binary64.toRat? x).getD 0

/-- The number of roots in the right half plane. -/
def unstable (p : List Float) : Nat := rightHalf (shift tolerance (exact p))

/-- The number of roots outside the unit circle. -/
def outsideCircle (p : List Float) : Nat := rightHalf (unfoldCircle (1 + tolerance) (exact p))

end SignalFlow.Poles
