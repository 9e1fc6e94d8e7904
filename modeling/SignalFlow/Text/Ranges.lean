/-! # Sets of characters as ranges

A set of characters is a list of ranges of their numbers. The tables of this library are written
as texts (`Ranges.read`): ranges divided by blanks and line ends, each a number in base sixteen or
two of them joined by a hyphen.
-/

namespace SignalFlow.Text

/-- The value of a digit in base sixteen, in either case. -/
def hexDigit? (c : Char) : Option Nat :=
  if '0' ≤ c && c ≤ '9' then some (c.toNat - '0'.toNat)
  else if 'a' ≤ c && c ≤ 'f' then some (c.toNat - 'a'.toNat + 10)
  else if 'A' ≤ c && c ≤ 'F' then some (c.toNat - 'A'.toNat + 10)
  else none

/-- The number that digits in base sixteen stand for; other characters are passed over. -/
def hexValue (digits : List Char) : Nat :=
  digits.foldl (fun value c =>
    match hexDigit? c with
    | some digit => 16 * value + digit
    | none => value) 0

/-- The parts of a list between the occurrences of a separator. -/
def splitAt (separator : Char) : List Char → List (List Char)
  | [] => [[]]
  | c :: rest =>
      match splitAt separator rest with
      | [] => [[c]]
      | part :: parts => if c == separator then [] :: part :: parts else (c :: part) :: parts

/-- The items of a table text: what blanks and line ends divide. -/
def tableItems (table : String) : List (List Char) :=
  (splitAt ' ' (table.toList.map fun c => if c == '\n' then ' ' else c)).filter (!·.isEmpty)

/-- A set of characters, given by the first and the last number of each range. -/
structure Ranges where
  bounds : Array (Nat × Nat)

/-- Whether a character belongs to the set. -/
def Ranges.contains (ranges : Ranges) (c : Char) : Bool :=
  ranges.bounds.any fun (first, last) => first ≤ c.toNat && c.toNat ≤ last

/-- One range: a number, or two joined by a hyphen. -/
def Ranges.readOne (item : List Char) : Nat × Nat :=
  match splitAt '-' item with
  | [first, last] => (hexValue first, hexValue last)
  | _ => (hexValue item, hexValue item)

/-- The set that a table text describes. -/
def Ranges.read (table : String) : Ranges :=
  ⟨((tableItems table).map Ranges.readOne).toArray⟩

end SignalFlow.Text
