import SignalFlow.Text.Ranges
import SignalFlow.Text.CompatibilityTables
import Std.Data.HashMap

/-! # The compatibility form of identifiers

Two spellings of an identifier that Unicode calls compatible, such as a ligature and its letters,
name the same thing. They are told by their common form (`compatibility`): every character is
decomposed as far as it goes, marks after a letter are sorted by their combining class, and letters
and marks are composed again.
-/

namespace SignalFlow.Text

/-- The two sides of an item `left=right` of a table. -/
def tableItem (item : List Char) : List Char × List Char :=
  match splitAt '=' item with
  | [left, right] => (left, right)
  | _ => (item, [])

/-- The numbers of a list joined by plus signs. -/
def tableNumbers (numbers : List Char) : List Nat :=
  (splitAt '+' numbers).map hexValue

/-- The full decomposition of each character that has one. -/
def decompositions : Std.HashMap Nat (List Nat) :=
  (tableItems decompositionTable).foldl (fun table item =>
    let (left, right) := tableItem item
    let (first, last) := Ranges.readOne left
    match tableNumbers right with
    | [target] =>
        (List.range (last - first + 1)).foldl
          (fun table offset => table.insert (first + offset) [target + offset]) table
    | targets => table.insert first targets) ∅

/-- The composition of each pair of characters that has one. -/
def compositions : Std.HashMap (Nat × Nat) Nat :=
  (tableItems compositionTable).foldl (fun table item =>
    let (left, right) := tableItem item
    match tableNumbers left with
    | [first, second] => table.insert (first, second) (hexValue right)
    | _ => table) ∅

/-- The combining class of each character whose class is not zero. -/
def combiningClasses : Std.HashMap Nat Nat :=
  (tableItems combiningTable).foldl (fun table item =>
    let (left, right) := tableItem item
    let (first, last) := Ranges.readOne left
    let cls := right.foldl (fun value c => 10 * value + (c.toNat - '0'.toNat)) 0
    (List.range (last - first + 1)).foldl
      (fun table offset => table.insert (first + offset) cls) table) ∅

/-- The combining class of a character. -/
def combiningClass (n : Nat) : Nat :=
  combiningClasses.getD n 0

/-- The decomposition of one character. Hangul syllables decompose by arithmetic. -/
def decompose (n : Nat) : List Nat :=
  if 0xAC00 ≤ n && n ≤ 0xD7A3 then
    let index := n - 0xAC00
    let lead := 0x1100 + index / 588
    let vowel := 0x1161 + index % 588 / 28
    let tail := index % 28
    if tail == 0 then [lead, vowel] else [lead, vowel, 0x11A7 + tail]
  else (decompositions[n]?).getD [n]

/-- Puts a mark before the marks of a higher class at the end of a reversed text. -/
def insertMark (mark : Nat) : List Nat → List Nat
  | [] => [mark]
  | last :: rest =>
      if combiningClass mark < combiningClass last then last :: insertMark mark rest
      else mark :: last :: rest

/-- Sorts every run of marks by combining class, keeping the order within a class. -/
def sortMarks (text : List Nat) : List Nat :=
  (text.foldl (fun reversed n =>
    if combiningClass n == 0 then n :: reversed else insertMark n reversed) []).reverse

/-- The composition of two characters; Hangul syllables compose by arithmetic. -/
def compose? (first second : Nat) : Option Nat :=
  if 0x1100 ≤ first && first < 0x1113 && 0x1161 ≤ second && second < 0x1176 then
    some (0xAC00 + ((first - 0x1100) * 21 + (second - 0x1161)) * 28)
  else if 0xAC00 ≤ first && first ≤ 0xD7A3 && (first - 0xAC00) % 28 == 0 &&
      0x11A7 < second && second < 0x11C3 then
    some (first + (second - 0x11A7))
  else compositions[(first, second)]?

/-- Composes a text whose marks are sorted. `starter` is the last character of class zero, `marks`
what followed it, reversed, and was not composed with it. -/
def composeFrom (starter : Option Nat) (marks : List Nat) : List Nat → List Nat
  | [] => starter.toList ++ marks.reverse
  | n :: rest =>
      match starter with
      | none =>
          if combiningClass n == 0 then composeFrom (some n) [] rest
          else n :: composeFrom none [] rest
      | some base =>
          let blocked := match marks with
            | [] => false
            | last :: _ => combiningClass last == 0 || combiningClass n ≤ combiningClass last
          match if blocked then none else compose? base n with
          | some composed => composeFrom (some composed) marks rest
          | none =>
              if combiningClass n == 0 then base :: marks.reverse ++ composeFrom (some n) [] rest
              else composeFrom starter (n :: marks) rest

/-- The compatibility form of an identifier. -/
def compatibility (text : String) : String :=
  if text.toList.all (·.toNat < 128) then text
  else
    let decomposed := text.toList.flatMap fun c => decompose c.toNat
    String.ofList ((composeFrom none [] (sortMarks decomposed)).map Char.ofNat)

end SignalFlow.Text
