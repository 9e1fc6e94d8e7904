import SignalFlow.Text.Ranges

/-! # Escapes in quoted text

What stands between quotes is read with its escapes: `Escape.text?` for text, `Escape.bytes?` for
bytes. A backslash before a line end hides it, one before another character that is no escape
stands for itself. Both refuse an escape by number with too few digits.
-/

namespace SignalFlow.Escape

open Text

/-- The character that a letter after a backslash stands for. -/
def letter? (c : Char) : Option Char :=
  match c with
  | '\\' => some '\\'
  | '\'' => some '\''
  | '"' => some '"'
  | 'a' => some '\x07'
  | 'b' => some '\x08'
  | 'f' => some '\x0c'
  | 'n' => some '\n'
  | 'r' => some '\r'
  | 't' => some '\t'
  | 'v' => some '\x0b'
  | _ => none

/-- Exactly `count` digits of base sixteen. -/
def hexRun : Nat → List Char → Option (Nat × List Char)
  | 0, rest => some (0, rest)
  | count + 1, c :: rest =>
      match hexDigit? c, hexRun count rest with
      | some digit, some (value, left) => some (digit * Nat.pow 16 count + value, left)
      | _, _ => none
  | _ + 1, [] => none

/-- Up to `count` digits of base eight, with the value of those before. -/
def octalRun : Nat → Nat → List Char → Nat × List Char
  | 0, value, rest => (value, rest)
  | _ + 1, value, [] => (value, [])
  | count + 1, value, c :: rest =>
      if '0' ≤ c && c ≤ '7' then octalRun count (8 * value + (c.toNat - '0'.toNat)) rest
      else (value, c :: rest)

/-- The character after a backslash in a text: what it stands for and what follows. -/
def textEscape (c : Char) (rest : List Char) : Option (List Char × List Char) :=
  if c == '\n' then some ([], rest)
  else
    match letter? c with
    | some meant => some ([meant], rest)
    | none =>
        if '0' ≤ c && c ≤ '7' then
          let (value, left) := octalRun 2 (c.toNat - '0'.toNat) rest
          some ([Char.ofNat value], left)
        else
          let digits := if c == 'x' then 2 else if c == 'u' then 4 else if c == 'U' then 8 else 0
          if digits != 0 then
            match hexRun digits rest with
            | some (value, left) =>
                if value ≤ 0x10FFFF then some ([Char.ofNat value], left) else none
            | none => none
          else if c == 'N' then
            match rest with
            | '\x7b' :: name =>
                match name.dropWhile (· != '\x7d') with
                | _ :: left => if name.head? == some '\x7d' then none else some (['?'], left)
                | [] => none
            | _ => none
          else some (['\\', c], rest)

/-- Reads a text with its escapes. The fuel bounds the number of characters. -/
def textFrom : Nat → List Char → Option (List Char)
  | 0, _ => some []
  | _ + 1, [] => some []
  | fuel + 1, '\\' :: c :: rest =>
      match textEscape c rest with
      | some (meant, left) => (textFrom fuel left).map (meant ++ ·)
      | none => none
  | fuel + 1, c :: rest => (textFrom fuel rest).map (c :: ·)

/-- A text with its escapes replaced. -/
def text? (body : List Char) : Option (List Char) :=
  textFrom body.length body

/-- The byte after a backslash: what it stands for and what follows. -/
def byteEscape (c : Char) (rest : List Char) : Option (List Nat × List Char) :=
  if c == '\n' then some ([], rest)
  else
    match letter? c with
    | some meant => some ([meant.toNat], rest)
    | none =>
        if '0' ≤ c && c ≤ '7' then
          let (value, left) := octalRun 2 (c.toNat - '0'.toNat) rest
          some ([value % 256], left)
        else if c == 'x' then (hexRun 2 rest).map fun (value, left) => ([value], left)
        else some ([92, c.toNat], rest)

/-- Reads bytes with their escapes. The fuel bounds the number of characters. -/
def bytesFrom : Nat → List Char → Option (List Nat)
  | 0, _ => some []
  | _ + 1, [] => some []
  | fuel + 1, '\\' :: c :: rest =>
      match byteEscape c rest with
      | some (meant, left) => (bytesFrom fuel left).map (meant ++ ·)
      | none => none
  | fuel + 1, c :: rest => (bytesFrom fuel rest).map (c.toNat :: ·)

/-- Bytes with their escapes replaced; only ASCII may stand between the quotes. -/
def bytes? (body : List Char) : Option (List Nat) :=
  if body.all (·.toNat < 128) then bytesFrom body.length body else none

end SignalFlow.Escape
