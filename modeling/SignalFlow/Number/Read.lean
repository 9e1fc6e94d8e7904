import SignalFlow.Number.Binary64
import SignalFlow.Text.Blank
import SignalFlow.Text.Digit

/-! # Reading numbers from text

`Number.readFloat?` and `Number.readInt?` read the texts of numbers as people write them: white
space around the number, decimal digits of any script, and single underscores between digits are
allowed. A decimal number is read as the nearest double; a number that is too large is infinite,
and infinity and the double that is no number can be written by their names.
-/

namespace SignalFlow.Number

open Text

/-- Every digit and blank in its ASCII form; any other character beyond ASCII becomes a question
mark, which no number holds. -/
def asciiForm (text : List Char) : List Char :=
  text.map fun c =>
    if c.toNat < 128 then c
    else if isBlank c then ' '
    else match decimalDigit? c with
      | some digit => Char.ofNat ('0'.toNat + digit)
      | none => '?'

/-- The blanks of ASCII proper. -/
def isAsciiBlank (c : Char) : Bool :=
  c == ' ' || (9 ≤ c.toNat && c.toNat ≤ 13)

/-- Digits, with single underscores between them, at the start of a text: the digits read and
what follows. `inside` tells that a digit came just before. -/
def digitRunFrom : Bool → List Char → List Nat × List Char
  | _, [] => ([], [])
  | inside, c :: rest =>
      if c == '_' then
        if inside && (rest.head?.bind asciiDigit?).isSome then digitRunFrom false rest
        else ([], c :: rest)
      else
        match asciiDigit? c with
        | some digit =>
            let (digits, left) := digitRunFrom true rest
            (digit :: digits, left)
        | none => ([], c :: rest)

/-- Digits, with single underscores between them, at the start of a text: the digits read and
what follows. -/
def digitRun (text : List Char) : List Nat × List Char :=
  digitRunFrom false text

/-- The number written by decimal digits. -/
def digitsValue (digits : List Nat) : Nat :=
  digits.foldl (fun value digit => 10 * value + digit) 0

/-- A sign, if there is one: whether it is a minus, and what follows. -/
def signOf : List Char → Bool × List Char
  | '-' :: rest => (true, rest)
  | '+' :: rest => (false, rest)
  | text => (false, text)

/-- `value * 10 ^ exponent` as a double. -/
def scaledFloat (negative : Bool) (value : Nat) (exponent : Int) : Float :=
  let magnitude : Float := match exponent with
    | .ofNat up => Float.ofScientific value false up
    | .negSucc down => Float.ofScientific value true (down + 1)
  if negative then -magnitude else magnitude

/-- The exponent part of a decimal number: its value and what follows, or `none` if the mark is not
followed by digits. -/
def exponentPart : List Char → Option (Int × List Char)
  | c :: rest =>
      if c == 'e' || c == 'E' then
        let (negative, digits) := signOf rest
        match digitRun digits with
        | ([], _) => none
        | (digits, left) => some (Binary64.signed negative (digitsValue digits), left)
      else some (0, c :: rest)
  | [] => some (0, [])

/-- An unsigned decimal number with optional point and exponent, as digits, exponent and what
follows. -/
def decimal? (text : List Char) : Option (Nat × Int × List Char) :=
  let (whole, rest) := digitRun text
  let (fraction, rest) := match rest with
    | '.' :: more => digitRun more
    | _ => ([], rest)
  if whole.isEmpty && fraction.isEmpty then none
  else (exponentPart rest).map fun (exponent, left) =>
    (digitsValue (whole ++ fraction), exponent - fraction.length, left)

/-- The named numbers, in any case. -/
def named? (text : List Char) : Option Float :=
  let word := String.ofList (text.map Char.toLower)
  if word == "inf" || word == "infinity" then some Binary64.infinity
  else if word == "nan" then some Binary64.notANumber
  else none

/-- The double that a text denotes. -/
def readFloat? (text : String) : Option Float :=
  let (negative, rest) := signOf (trimBy isAsciiBlank (asciiForm text.toList))
  match named? rest with
  | some x => some (if negative then -x else x)
  | none =>
      match decimal? rest with
      | some (value, exponent, []) => some (scaledFloat negative value exponent)
      | _ => none

/-- The longest whole number that is read, in digits. -/
def digitLimit : Nat := 4300

/-- The whole number that a text denotes. -/
def readInt? (text : String) : Option Int :=
  let (negative, rest) := signOf (trimBy isAsciiBlank (asciiForm text.toList))
  match digitRun rest with
  | ([], _) => none
  | (digits, []) =>
      if digitLimit < digits.length then none
      else some (Binary64.signed negative (digitsValue digits))
  | _ => none

end SignalFlow.Number
