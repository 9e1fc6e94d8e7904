import SignalFlow.Host
import SignalFlow.Number.Read

/-! # Reading JSON

`Json.parse` reads one JSON text into a `Value`. Mappings keep the order of their keys, a repeated
key its first place and its last value. A number with a point or an exponent is a double, any other
a whole number of any size up to a limit of digits; `NaN`, `Infinity` and `-Infinity` are read as
doubles too. Lists and mappings may be nested only so deep. The reader consumes a list of
characters; each of its parsers returns what follows.
-/

namespace SignalFlow.Json

open Text

/-- The white space between tokens. -/
def isSpace (c : Char) : Bool :=
  c == ' ' || c == '\t' || c == '\n' || c == '\r'

/-- Without the white space at the start. -/
def skip (text : List Char) : List Char :=
  text.dropWhile isSpace

/-- What follows a given word at the start of a text. -/
def after? : List Char → List Char → Option (List Char)
  | [], text => some text
  | c :: word, d :: text => if c == d then after? word text else none
  | _ :: _, [] => none

/-- Four digits of base sixteen. -/
def fourHex? : List Char → Option (Nat × List Char)
  | a :: b :: c :: d :: rest =>
      match hexDigit? a, hexDigit? b, hexDigit? c, hexDigit? d with
      | some a, some b, some c, some d => some (((a * 16 + b) * 16 + c) * 16 + d, rest)
      | _, _, _, _ => none
  | _ => none

/-- The character of one half of a surrogate pair that stands alone. -/
def replacement : Char := Char.ofNat 0xFFFD

/-- The character of a UTF-16 unit, joined with the low half that follows a high half. -/
def unitCharacter (unit : Nat) (rest : List Char) : Char × List Char :=
  if 0xD800 ≤ unit && unit < 0xDC00 then
    match rest with
    | '\\' :: 'u' :: more =>
        match fourHex? more with
        | some (low, left) =>
            if 0xDC00 ≤ low && low < 0xE000 then
              (Char.ofNat (0x10000 + (unit - 0xD800) * 0x400 + (low - 0xDC00)), left)
            else (replacement, rest)
        | none => (replacement, rest)
    | _ => (replacement, rest)
  else if 0xDC00 ≤ unit && unit < 0xE000 then (replacement, rest)
  else (Char.ofNat unit, rest)

/-- The character that an escape of one letter stands for. -/
def escaped? (c : Char) : Option Char :=
  match c with
  | '"' => some '"'
  | '\\' => some '\\'
  | '/' => some '/'
  | 'b' => some '\x08'
  | 'f' => some '\x0c'
  | 'n' => some '\n'
  | 'r' => some '\r'
  | 't' => some '\t'
  | _ => none

/-- The rest of a text after its opening quote. The fuel bounds the number of characters. -/
def readText : Nat → List Char → List Char → Option (String × List Char)
  | 0, _, _ => none
  | _ + 1, _, [] => none
  | _ + 1, read, '"' :: rest => some (String.ofList read.reverse, rest)
  | fuel + 1, read, '\\' :: 'u' :: rest =>
      match fourHex? rest with
      | none => none
      | some (unit, rest) =>
          let (c, rest) := unitCharacter unit rest
          readText fuel (c :: read) rest
  | fuel + 1, read, '\\' :: c :: rest =>
      match escaped? c with
      | some c => readText fuel (c :: read) rest
      | none => none
  | fuel + 1, read, c :: rest =>
      if c.toNat < 32 || c == '\\' then none else readText fuel (c :: read) rest

/-- Digits at the start of a text. -/
def digits (text : List Char) : List Char × List Char :=
  (text.takeWhile Char.isDigit, text.dropWhile Char.isDigit)

/-- The value of ASCII digits. -/
def digitsValue (text : List Char) : Nat :=
  text.foldl (fun value c => 10 * value + (c.toNat - '0'.toNat)) 0

/-- An exponent, if one follows. -/
def exponent (text : List Char) : Option (Int × List Char) :=
  match text with
  | c :: rest =>
      if c == 'e' || c == 'E' then
        let (negative, rest) := Number.signOf rest
        match digits rest with
        | ([], _) => none
        | (ds, rest) => some (Binary64.signed negative (digitsValue ds), rest)
      else none
  | [] => none

/-- A number. Zeros may not stand before another digit, and a whole number with too many digits has
no value. -/
def number (text : List Char) : Except Fault (Value × List Char) :=
  let (negative, rest) := match text with
    | '-' :: rest => (true, rest)
    | _ => (false, text)
  let (whole, rest) := match rest with
    | '0' :: more => (['0'], more)
    | _ => digits rest
  if whole.isEmpty then .error .malformed
  else
    let (fraction, rest) := match rest with
      | '.' :: more =>
          match digits more with
          | ([], _) => ([], rest)
          | found => found
      | _ => ([], rest)
    match exponent rest, fraction with
    | some (e, rest), _ =>
        .ok (.float (Number.scaledFloat negative (digitsValue (whole ++ fraction))
          (e - fraction.length)), rest)
    | none, [] =>
        if Number.digitLimit < whole.length then .error .undefined
        else .ok (.int (Binary64.signed negative (digitsValue whole)), rest)
    | none, fraction =>
        .ok (.float (Number.scaledFloat negative (digitsValue (whole ++ fraction))
          (-(fraction.length : Int))), rest)

/-- The named values. -/
def constants : List (String × Value) :=
  [("null", .null), ("true", .bool true), ("false", .bool false),
   ("NaN", .float Binary64.notANumber), ("Infinity", .float Binary64.infinity),
   ("-Infinity", .float (-Binary64.infinity))]

/-- A named value or a number. -/
def plain (text : List Char) : Except Fault (Value × List Char) :=
  match constants.findSome? fun (word, value) =>
      (after? word.toList text).map fun rest => (value, rest) with
  | some found => .ok found
  | none => number text

/-- What is still to be read of a list or mapping. -/
inductive Open where
  | list (read : List Value)
  | mapping (read : List (String × Value)) (key : String)

/-- Puts a value into the innermost open list or mapping. -/
def Open.push : Open → Value → Value
  | .list read, value => .list (value :: read).reverse
  | .mapping read key, value => .mapping (Entries.ofPairs ((key, value) :: read).reverse)

/-- A key, its colon, and what follows. -/
def key? (text : List Char) : Option (String × List Char) :=
  match text with
  | '"' :: rest =>
      match readText (rest.length + 1) [] rest with
      | some (key, rest) =>
          match skip rest with
          | ':' :: rest => some (key, skip rest)
          | _ => none
      | none => none
  | _ => none

section Nested

variable (depth : Nat)

mutual

/-- Reads a value at the start of a text, inside the lists and mappings that are open, which may not
be too many. -/
def readValue : Nat → List Open → List Char → Except Fault (Value × List Char)
  | 0, _, _ => .error .malformed
  | fuel + 1, stack, text =>
      match text with
      | '[' :: rest =>
          if depth ≤ stack.length then .error .tooDeep
          else
            match skip rest with
            | ']' :: rest => close fuel stack (.list []) rest
            | rest => readValue fuel (.list [] :: stack) rest
      | '\x7b' :: rest =>
          if depth ≤ stack.length then .error .tooDeep
          else
            match skip rest with
            | '\x7d' :: rest => close fuel stack (.mapping []) rest
            | rest =>
                match key? rest with
                | some (key, rest) => readValue fuel (.mapping [] key :: stack) rest
                | none => .error .malformed
      | '"' :: rest =>
          match readText (rest.length + 1) [] rest with
          | some (s, rest) => close fuel stack (.text s) rest
          | none => .error .malformed
      | text =>
          match plain text with
          | .ok (value, rest) => close fuel stack value rest
          | .error fault => .error fault

/-- Puts a finished value into the innermost open list or mapping and reads on. -/
def close : Nat → List Open → Value → List Char → Except Fault (Value × List Char)
  | 0, _, _, _ => .error .malformed
  | _ + 1, [], value, rest => .ok (value, rest)
  | fuel + 1, .list read :: stack, value, text =>
      match skip text with
      | ',' :: rest => readValue fuel (.list (value :: read) :: stack) (skip rest)
      | ']' :: rest => close fuel stack ((Open.list read).push value) rest
      | _ => .error .malformed
  | fuel + 1, .mapping read key :: stack, value, text =>
      match skip text with
      | ',' :: rest =>
          match key? (skip rest) with
          | some (next, rest) =>
              readValue fuel (.mapping ((key, value) :: read) next :: stack) rest
          | none => .error .malformed
      | '\x7d' :: rest => close fuel stack ((Open.mapping read key).push value) rest
      | _ => .error .malformed

end

end Nested

/-- The value of a JSON text. Every step of the reader consumes a character or closes a list or
mapping that a character opened. -/
def parse [Host] (text : String) : Except Fault Value := do
  let chars := text.toList
  let (value, rest) ← readValue Host.jsonDepth (2 * chars.length + 2) [] (skip chars)
  if (skip rest).isEmpty then return value else throw .malformed

end SignalFlow.Json
