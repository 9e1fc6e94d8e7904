import SignalFlow.Number.Arithmetic

/-! # The functions of expressions

The functions that an expression may call, by name (`Expr.function?`). A function of real numbers
takes every argument to a double first. It has no value (`none`) at a point where it is undefined or
too large, or with a wrong number of arguments.
-/

namespace SignalFlow.Expr

/-- A function gives no value where it is undefined. -/
abbrev Function := List Quantity → Option Quantity

/-- A real result, which may be infinite or no number only if one of the points was. -/
def checked (points : List Float) (result : Float) : Option Quantity :=
  if result.isFinite || points.any (fun x => !x.isFinite && !(result.isNaN && !x.isNaN)) then
    some (.real result)
  else none

/-- A function of one real number. -/
def realFunction (f : Float → Float) : Function
  | [a] => do
      let x ← a.toFloat?
      checked [x] (f x)
  | _ => none

/-- A function of two real numbers. -/
def realFunction₂ (f : Float → Float → Float) : Function
  | [a, b] => do
      let x ← a.toFloat?
      let y ← b.toFloat?
      checked [x, y] (f x y)
  | _ => none

/-- A whole number as a double between one half and one, rounded to the nearest one, times a power
of two. -/
def scaled (n : Nat) : Float × Nat :=
  let bits := n.log2 + 1
  let mantissa := Binary64.ofRatio false n (Nat.pow 2 bits)
  if mantissa == 1.0 then (0.5, bits + 1) else (mantissa, bits)

/-- A logarithm. It is defined for positive numbers only; that of a whole number beyond the doubles
is taken from its leading digits. -/
def logarithm (log : Float → Float) : Quantity → Option Float
  | .whole n =>
      if 0 < n then
        match Binary64.ofInt? n with
        | some x => some (log x)
        | none =>
            let (mantissa, bits) := scaled n.natAbs
            some (log mantissa + log 2.0 * bits.toFloat)
      else none
  | .real x => if x.isNaN || 0.0 < x then some (log x) else none
  | .complex .. => none

/-- The natural logarithm, or the one to a base. -/
def naturalLogarithm : Function
  | [a] => (logarithm Float.log a).map .real
  | [a, base] => do
      let x ← logarithm Float.log a
      let y ← logarithm Float.log base
      if y == 0.0 then none else some (.real (x / y))
  | _ => none

/-- A logarithm to a fixed base. -/
def logarithmFunction (log : Float → Float) : Function
  | [a] => (logarithm log a).map .real
  | _ => none

/-- An operation on one quantity. -/
def single (f : Quantity → Option Quantity) : Function
  | [a] => f a
  | _ => none

/-- The first of at least two quantities that no other one comes before. -/
def extreme (before? : Quantity → Quantity → Option Bool) : Function
  | first :: second :: rest =>
      (second :: rest).foldlM (fun best next => do
        if ← before? next best then some next else some best) first
  | _ => none

/-- The functions by name. -/
def functions : List (String × Function) :=
  [("sin", realFunction Float.sin), ("cos", realFunction Float.cos),
   ("tan", realFunction Float.tan), ("asin", realFunction Float.asin),
   ("acos", realFunction Float.acos), ("atan", realFunction Float.atan),
   ("atan2", realFunction₂ Float.atan2),
   ("sinh", realFunction Float.sinh), ("cosh", realFunction Float.cosh),
   ("tanh", realFunction Float.tanh), ("exp", realFunction Float.exp),
   ("log", naturalLogarithm), ("log10", logarithmFunction Float.log10),
   ("log2", logarithmFunction Float.log2), ("sqrt", realFunction Float.sqrt),
   ("abs", single Quantity.abs?), ("floor", single Quantity.floor?),
   ("ceil", single Quantity.ceil?), ("pow", realFunction₂ Float.pow),
   ("min", extreme Quantity.less?), ("max", extreme fun next best => best.less? next),
   ("hypot", fun arguments => do some (.real (Binary64.norm (← arguments.mapM Quantity.toFloat?))))]

/-- The function of a name. -/
def function? (name : String) : Option Function :=
  (functions.find? (·.1 == name)).map (·.2)

/-- The numbers known under a name of the mathematics module. -/
def moduleConstants : List (String × Float) :=
  [("pi", 3.141592653589793), ("PI", 3.141592653589793), ("e", 2.718281828459045),
   ("E", 2.718281828459045), ("tau", 6.283185307179586)]

/-- The names of the mathematics module. -/
def modules : List String := ["math", "Math"]

end SignalFlow.Expr
