import SignalFlow.Text.Printable
import SignalFlow.Number.Decimal

/-! # Quoted text

A text is quoted in single quotes, or in double quotes if it holds a single quote and no double
quote. The quote in use and the backslash are escaped, line breaks and tabs have their letters, and
every other character that is not printable is written by its number.
-/

namespace SignalFlow.Text

/-- A digit of base sixteen. -/
def hexCharacter (digit : Nat) : Char :=
  if digit < 10 then Char.ofNat ('0'.toNat + digit) else Char.ofNat ('a'.toNat + (digit - 10))

/-- The last `count` digits of a number in base sixteen. -/
def hexText : Nat → Nat → List Char
  | 0, _ => []
  | count + 1, n => hexText count (n / 16) ++ [hexCharacter (n % 16)]

/-- A character by its number: two, four or eight digits, as many as it needs. -/
def numbered (n : Nat) : List Char :=
  if n < 0x100 then '\\' :: 'x' :: hexText 2 n
  else if n < 0x10000 then '\\' :: 'u' :: hexText 4 n
  else '\\' :: 'U' :: hexText 8 n

/-- One character of a text between the given quotes. -/
def quotedCharacter (quote : Char) (c : Char) : List Char :=
  if c == quote || c == '\\' then ['\\', c]
  else if c == '\n' then ['\\', 'n']
  else if c == '\r' then ['\\', 'r']
  else if c == '\t' then ['\\', 't']
  else if isPrintable c then [c]
  else numbered c.toNat

/-- The quote in which a text is written. -/
def quoteFor (text : List Char) : Char :=
  if text.contains '\'' && !text.contains '"' then '"' else '\''

/-- A text between quotes. -/
def quoted (text : String) : String :=
  let quote := quoteFor text.toList
  String.ofList (quote :: text.toList.flatMap (quotedCharacter quote) ++ [quote])

/-- One byte between the given quotes: all that is not printable ASCII is written by number. -/
def quotedByte (quote : Char) (byte : Nat) : List Char :=
  let c := Char.ofNat byte
  if byte < 128 then quotedCharacter quote c else '\\' :: 'x' :: hexText 2 byte

/-- A string of bytes between quotes, marked by the letter before them. -/
def quotedBytes (bytes : List Nat) : String :=
  let text := bytes.map Char.ofNat
  let quote := quoteFor text
  String.ofList ('b' :: quote :: bytes.flatMap (quotedByte quote) ++ [quote])

end SignalFlow.Text
