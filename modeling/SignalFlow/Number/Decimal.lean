import SignalFlow.Number.Binary64

/-! # Decimal texts of doubles

Three ways to write a double, each computed with whole numbers from its exact value:

* `Decimal.shortest`: the fewest digits that still read back as the same double, and of those the
  nearest to it;
* `Decimal.fixed`: a given number of places after the point;
* `Decimal.scientific`: a given number of significant digits, with an exponent.

How digits are laid out (`Decimal.Layout`) is a decision of whoever writes the text;
`Decimal.plain` is the layout of all numbers this library prints.
-/

namespace SignalFlow.Decimal

open Binary64

/-- A decimal number `digits * 10 ^ exponent`. -/
structure Scaled where
  digits : Nat
  exponent : Int
deriving DecidableEq

/-- The decimal digits of a natural number. -/
def digitsOf (n : Nat) : String :=
  String.ofList (Nat.toDigits 10 n)

/-- `digitsOf`, preceded by zeros up to `width` characters. -/
def padded (width n : Nat) : String :=
  let text := digitsOf n
  String.ofList (List.replicate (width - text.length) '0') ++ text

/-- The position of the leading decimal digit of `numerator / denominator`: the exponent `e` with
`10 ^ e ≤ numerator / denominator < 10 ^ (e + 1)`. The binary logarithms give it up to one, which
the comparison settles. -/
def leading (numerator denominator : Nat) : Int :=
  let guess : Int := ((numerator.log2 : Int) - denominator.log2) * 30103 / 100000 - 1
  let reaches (e : Int) : Bool :=
    match e with
    | .ofNat up => denominator * Nat.pow 10 up ≤ numerator
    | .negSucc down => denominator ≤ numerator * Nat.pow 10 (down + 1)
  if reaches (guess + 2) then guess + 2
  else if reaches (guess + 1) then guess + 1
  else if reaches guess then guess
  else guess - 1

/-- `numerator / denominator * 10 ^ shift` as a quotient of whole numbers. -/
def shifted (numerator denominator : Nat) (shift : Int) : Nat × Nat :=
  match shift with
  | .ofNat up => (numerator * Nat.pow 10 up, denominator)
  | .negSucc down => (numerator, denominator * Nat.pow 10 (down + 1))

/-- The open or closed interval of the numbers that round to the double
`mantissa * 2 ^ exponent`, in quarters of its last place: below the smallest mantissa of a binade
the gap is half as wide. -/
def roundsTo (mantissa : Nat) (exponent : Int) : Nat × Nat :=
  let below := if mantissa == Nat.pow 2 52 && exponent != -1074 then 1 else 2
  (4 * mantissa - below, 4 * mantissa + 2)

/-- The decimal with `count` significant digits that reads back as `mantissa * 2 ^ exponent`, if
there is one: of the two neighbours on that grid the nearer, in a tie the even one. -/
def candidate? (mantissa : Nat) (exponent : Int) (count : Nat) : Option Scaled :=
  let (low, high) := roundsTo mantissa exponent
  let closed := mantissa % 2 == 0
  let (numerator, denominator) := ratio mantissa exponent
  let place : Int := leading numerator denominator - count + 1
  -- the value and the ends of its interval, in units of a quarter of `10 ^ place`
  let (_, unit) := ratio 1 exponent
  let scale := match exponent with
    | .ofNat up => Nat.pow 2 up
    | .negSucc _ => 1
  let (lowEnd, divisor) := shifted (low * scale) unit (-place)
  let (highEnd, _) := shifted (high * scale) unit (-place)
  let (value, _) := shifted (4 * mantissa * scale) unit (-place)
  let inside (digits : Nat) : Bool :=
    let point := 4 * digits * divisor
    if closed then lowEnd ≤ point && point ≤ highEnd else lowEnd < point && point < highEnd
  let below := value / (4 * divisor)
  let above := below + 1
  let toBelow := value - 4 * below * divisor
  let toAbove := 4 * above * divisor - value
  let nearer := if toBelow < toAbove then below
    else if toAbove < toBelow then above
    else if below % 2 == 0 then below else above
  let farther := if nearer == below then above else below
  if inside nearer then some ⟨nearer, place⟩
  else if inside farther then some ⟨farther, place⟩
  else none

/-- Without the zeros at its end. -/
def Scaled.trim : Nat → Scaled → Scaled
  | 0, scaled => scaled
  | fuel + 1, scaled =>
      if scaled.digits != 0 && scaled.digits % 10 == 0 then
        Scaled.trim fuel ⟨scaled.digits / 10, scaled.exponent + 1⟩
      else scaled

/-- The fewest digits that read back as the positive double `mantissa * 2 ^ exponent`; seventeen
always do. -/
def fewest (mantissa : Nat) (exponent : Int) : Scaled :=
  match ((List.range 17).map (· + 1)).findSome? (candidate? mantissa exponent) with
  | some scaled => scaled.trim 20
  | none => ⟨0, 0⟩

/-- How the digits of a number are laid out. -/
structure Layout where
  /-- Positions of the leading digit that are written without an exponent. -/
  positionalFrom : Int
  positionalBelow : Int
  /-- Written between mantissa and exponent. -/
  mark : String
  /-- Least number of exponent digits; the exponent always has a sign. -/
  exponentWidth : Nat
  notANumber : String
  infinite : String

/-- Numbers from `0.0001` up to `10 ^ 16` are written with a point, all others with an exponent of
at least two digits. -/
def plain : Layout where
  positionalFrom := -4
  positionalBelow := 16
  mark := "e"
  exponentWidth := 2
  notANumber := "nan"
  infinite := "inf"

/-- A signed exponent of at least `width` digits. -/
def exponentText (width : Nat) (e : Int) : String :=
  (if e < 0 then "-" else "+") ++ padded width e.natAbs

/-- The text of `digits * 10 ^ exponent`, a point always among the digits outside the exponent
form. -/
def Layout.place (layout : Layout) (scaled : Scaled) : String :=
  let digits := digitsOf scaled.digits
  let top : Int := scaled.exponent + digits.length - 1
  if layout.positionalFrom ≤ top && top < layout.positionalBelow then
    if 0 ≤ scaled.exponent then
      digits ++ String.ofList (List.replicate scaled.exponent.toNat '0') ++ ".0"
    else if 0 ≤ top then
      let whole := (top + 1).toNat
      String.ofList (digits.toList.take whole) ++ "." ++ String.ofList (digits.toList.drop whole)
    else
      "0." ++ String.ofList (List.replicate (-top - 1).toNat '0') ++ digits
  else
    let rest := digits.toList.drop 1
    String.ofList (digits.toList.take 1) ++ (if rest.isEmpty then "" else "." ++ String.ofList rest)
      ++ layout.mark ++ exponentText layout.exponentWidth top

/-- A minus sign for negative numbers. -/
def sign (negative : Bool) : String :=
  if negative then "-" else ""

/-- The fewest digits that read back as the same double. -/
def shortest (x : Float) : String :=
  match parts x with
  | .notANumber => plain.notANumber
  | .infinite negative => sign negative ++ plain.infinite
  | .finite negative 0 _ => sign negative ++ "0.0"
  | .finite negative mantissa exponent =>
      sign negative ++ plain.place (fewest mantissa exponent)

/-- Exactly `places` digits after the point, correctly rounded; a tie goes to the even digit. -/
def fixed (places : Nat) (x : Float) : String :=
  match parts x with
  | .notANumber => plain.notANumber
  | .infinite negative => sign negative ++ plain.infinite
  | .finite negative mantissa exponent =>
      let (numerator, denominator) := ratio mantissa exponent
      let units := roundDiv (numerator * Nat.pow 10 places) denominator
      sign negative ++ digitsOf (units / Nat.pow 10 places) ++
        (if places == 0 then "" else "." ++ padded places (units % Nat.pow 10 places))

/-- Exactly `count` significant digits (at least one) and an exponent, correctly rounded. Zero
has no sign. -/
def scientific (count : Nat) (x : Float) : String :=
  match parts x with
  | .notANumber => plain.notANumber
  | .infinite negative => sign negative ++ plain.infinite
  | .finite negative mantissa exponent =>
      let write (negative : Bool) (digits : Nat) (top : Int) : String :=
        let text := (padded count digits).toList
        sign negative ++ String.ofList (text.take 1) ++
          (if count ≤ 1 then "" else "." ++ String.ofList (text.drop 1)) ++
          "e" ++ exponentText 2 top
      if mantissa == 0 then write false 0 0
      else
        let (numerator, denominator) := ratio mantissa exponent
        let top := leading numerator denominator
        let (scaledUp, divisor) := shifted numerator denominator ((count : Int) - 1 - top)
        let digits := roundDiv scaledUp divisor
        if digits == Nat.pow 10 count then write negative (Nat.pow 10 (count - 1)) (top + 1)
        else write negative digits top

end SignalFlow.Decimal
