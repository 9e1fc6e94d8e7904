import SignalFlow.Json.Reader
import SignalFlow.Yaml.Cursor

/-! # Scalars of YAML

A plain scalar has a value by its form (`plainValue?`): a truth value, a number, null or else a
text, by the rules of YAML 1.1. A quoted one is a text. Where a scalar goes on in the next line the
line break is read as a space, and further line breaks as they are.
-/

namespace SignalFlow.Yaml

open Text

/-! ## The values of plain scalars -/

/-- The words for truth values. -/
def truthValues : List (String × Bool) :=
  [("yes", true), ("no", false), ("true", true), ("false", false), ("on", true), ("off", false)]

/-- The forms of a word that count: small letters, a capital first letter, capital letters. -/
def spellings (word : String) : List String :=
  let first := String.ofList (word.toList.take 1)
  let others := String.ofList (word.toList.drop 1)
  [word, first.map Char.toUpper ++ others, word.map Char.toUpper]

/-- A sign, and what follows it. -/
def signOf : List Char → Bool × List Char
  | '-' :: rest => (true, rest)
  | '+' :: rest => (false, rest)
  | text => (false, text)

/-- Whether a character is a digit of a base up to sixteen, or an underscore between digits. -/
def isDigitOf (base : Nat) (c : Char) : Bool :=
  c == '_' || match hexDigit? c with
    | some digit => digit < base
    | none => false

/-- The parts of a text between colons. -/
def colonParts (text : List Char) : List (List Char) :=
  text.splitOn ':'

/-- Whether a part of a number in base sixty is one of the later ones: one or two digits, below
sixty. -/
def isSixtieth : List Char → Bool
  | [a] => a.isDigit
  | [a, b] => a.isDigit && a.toNat < '6'.toNat && b.isDigit
  | _ => false

/-- Whether a text is a decimal number with underscores and without a leading zero. -/
def isCount (text : List Char) : Bool :=
  match text with
  | c :: rest => c.isDigit && c != '0' && rest.all (isDigitOf 10)
  | [] => false

/-- Whether a text without its sign is a whole number. -/
def isWhole (text : List Char) : Bool :=
  let all (base : Nat) (digits : List Char) : Bool :=
    !digits.isEmpty && digits.all (isDigitOf base)
  match text with
  | ['0'] => true
  | '0' :: 'b' :: digits => all 2 digits
  | '0' :: 'x' :: digits => all 16 digits
  | '0' :: digits => all 8 digits
  | text =>
      match colonParts text with
      | [] => false
      | first :: later => isCount first && later.all isSixtieth

/-- Whether a text is the exponent of a decimal number, or empty. -/
def isExponent : List Char → Bool
  | [] => true
  | e :: sign :: digits =>
      (e == 'e' || e == 'E') && (sign == '-' || sign == '+') && !digits.isEmpty &&
        digits.all Char.isDigit
  | _ => false

/-- Whether a text is digits and underscores that start with a digit. -/
def isRun : List Char → Bool
  | c :: rest => c.isDigit && rest.all (isDigitOf 10)
  | [] => false

/-- Whether a text is a decimal number with a point. -/
def isDecimal (text : List Char) : Bool :=
  let (signed, unsigned) := (text != (signOf text).2, (signOf text).2)
  let whole := unsigned.takeWhile (isDigitOf 10)
  match unsigned.dropWhile (isDigitOf 10) with
  | '.' :: rest =>
      let fraction := rest.takeWhile (isDigitOf 10)
      let exponent := rest.dropWhile (isDigitOf 10)
      isExponent exponent && (isRun whole || (whole.isEmpty && !signed && isRun fraction))
  | _ => false

/-- Whether a text is a number in base sixty with a point. -/
def isSixtiethDecimal (text : List Char) : Bool :=
  let unsigned := (signOf text).2
  let fraction := (unsigned.dropWhile (· != '.')).drop 1
  match colonParts (unsigned.takeWhile (· != '.')) with
  | first :: later@(_ :: _) =>
      unsigned.contains '.' && isRun first && later.all isSixtieth &&
        fraction.all (isDigitOf 10)
  | _ => false

/-- The value of digits in a base, if there is at least one; decimal ones up to a limit. -/
def digitsValue? (base : Nat) (digits : List Char) : Option Nat :=
  if digits.isEmpty || (base == 10 && Number.digitLimit < digits.length) then none
  else some (digits.foldl (fun value c => base * value + (hexDigit? c).getD 0) 0)

/-- The value of a whole number without its sign. -/
def wholeValue? (text : List Char) : Option Nat :=
  match text.filter (· != '_') with
  | ['0'] => some 0
  | '0' :: 'b' :: digits => digitsValue? 2 digits
  | '0' :: 'x' :: digits => digitsValue? 16 digits
  | '0' :: digits => digitsValue? 8 digits
  | text => (colonParts text).foldlM (fun value part => do
      return 60 * value + (← digitsValue? 10 part)) 0

/-- The value of a number in base sixty with a point. -/
def sixtiethValue (text : List Char) : Float :=
  let (negative, unsigned) := signOf (text.filter (· != '_'))
  let parts := (colonParts unsigned).map fun part =>
    (Number.readFloat? (String.ofList part)).getD 0.0
  let (value, _) := parts.reverse.foldl (fun (value, base) part =>
    (value + part * base, base * 60.0)) ((0.0, 1.0) : Float × Float)
  if negative then -value else value

/-- The value of a plain scalar, unless its form stands for a value that there is not. -/
def plainValue? (text : String) : Option Value :=
  let letters := text.toList
  let (negative, unsigned) := signOf letters
  if text == "" || text == "~" || (spellings "null").contains text then some .null
  else if text == "=" || text == "<<" then none
  else if let some (_, truth) := truthValues.find? fun (word, _) => (spellings word).contains text
  then some (.bool truth)
  else if (spellings "inf").any fun word => unsigned == '.' :: word.toList then
    some (.float (if negative then -Binary64.infinity else Binary64.infinity))
  else if [".nan", ".NaN", ".NAN"].contains text then some (.float Binary64.notANumber)
  else if isDecimal letters then
    (Number.readFloat? (String.ofList (letters.filter (· != '_')))).map .float
  else if isSixtiethDecimal letters then some (.float (sixtiethValue letters))
  else if isWhole unsigned then
    (wholeValue? unsigned).map fun n => .int (Binary64.signed negative n)
  else some (.text text)

/-! ## Reading scalars -/

/-- Line breaks between two words, with the spaces around them: what they are read as, and what
follows them. `spaces` are those before the first break, and `breaks` the breaks so far, last one
first. -/
def foldFrom : List Char → Cursor → Nat → List Char × Cursor
  | breaks, cursor, 0 => (breaks, cursor)
  | breaks, cursor, fuel + 1 =>
      match cursor.rest with
      | c :: _ =>
          if cursor.atMark then (breaks, cursor)
          else if c == ' ' then foldFrom breaks cursor.next fuel
          else if isBreak c then foldFrom (breakText c :: breaks) cursor.next fuel
          else (breaks, cursor)
      | [] => (breaks, cursor)

/-- What some line breaks, last one first, are read as: the first one is a space if it stands
alone, and is left out before others. -/
def folded (breaks : List Char) : List Char :=
  match breaks.reverse with
  | [] => []
  | '\n' :: [] => [' ']
  | '\n' :: more => more
  | all => all

/-- Whether a character ends a word of a plain scalar, with what comes after it. -/
def endsPlain (inFlow : Bool) (c : Char) (after : List Char) : Bool :=
  isGap c ||
    (c == ':' &&
      (startsGap after || (inFlow && (after.head?.any fun d => ",[]\x7b\x7d".contains d)))) ||
    (inFlow && ",?[]\x7b\x7d".contains c)

/-- The letters of a word of a plain scalar. -/
def plainWord (inFlow : Bool) : List Char → List Char
  | [] => []
  | c :: rest => if endsPlain inFlow c rest then [] else c :: plainWord inFlow rest

/-- Whether a plain scalar can begin here. -/
def startsPlain (inFlow : Bool) (text : List Char) : Bool :=
  match text with
  | [] => false
  | c :: rest =>
      !(isGap c || "-?:,[]\x7b\x7d#&*!|>\x27\"%@\x60".contains c) ||
        (!startsGap rest && (c == '-' || (!inFlow && (c == '?' || c == ':'))))

/-- The rest of a plain scalar, whose letters so far are given, last one first. Outside of flow it
goes on in a line only from the column `least` on. -/
def readPlain (inFlow : Bool) (least : Nat) : Nat → List Char → Cursor → List Char × Cursor
  | 0, read, cursor => (read, cursor)
  | fuel + 1, read, cursor =>
      let word := plainWord inFlow cursor.rest
      let read := word.reverse ++ read
      let behind := cursor.forward word.length
      let spaces := behind.rest.takeWhile (· == ' ')
      let beyond := behind.skipSpaces
      let (gap, beyond) := match beyond.rest with
        | c :: _ =>
            if isBreak c then
              let (breaks, beyond) := foldFrom [breakText c] beyond.next beyond.rest.length
              (folded breaks, beyond)
            else (spaces, beyond)
        | [] => (spaces, beyond)
      let stops := gap.isEmpty || beyond.atMark || beyond.rest.head? == some '#' ||
        (!inFlow && beyond.column < least) || (plainWord inFlow beyond.rest).isEmpty
      if stops then (read, beyond) else readPlain inFlow least fuel (gap.reverse ++ read) beyond

/-- The characters that escapes of one letter stand for. -/
def escapes : List (Char × Char) :=
  [('0', '\x00'), ('a', '\x07'), ('b', '\x08'), ('t', '\t'), ('\t', '\t'), ('n', '\n'),
   ('v', '\x0b'), ('f', '\x0c'), ('r', '\r'), ('e', '\x1b'), (' ', ' '), ('"', '"'), ('\\', '\\'),
   ('/', '/'), ('N', '\u0085'), ('_', '\u00a0'), ('L', '\u2028'), ('P', '\u2029')]

/-- The number of digits of an escape by code. -/
def escapeLength : Char → Nat
  | 'x' => 2
  | 'u' => 4
  | 'U' => 8
  | _ => 0

/-- Whether a character is a space or a tab. -/
def isBlank (c : Char) : Bool := c == ' ' || c == '\t'

/-- Behind the spaces and tabs at a place. -/
def skipBlanks (cursor : Cursor) : Cursor :=
  cursor.forward (cursor.rest.takeWhile isBlank).length

/-- The line breaks that follow in a quoted scalar, joined to earlier ones, last one first, and what
stands behind them. A document may not end there. -/
def quotedBreaks : Nat → List Char → Cursor → Option (List Char × Cursor)
  | 0, _, _ => none
  | fuel + 1, breaks, cursor =>
      if cursor.atMark then none
      else
        let cursor := skipBlanks cursor
        match cursor.rest with
        | [] => none
        | c :: rest =>
            if isBreak c then quotedBreaks fuel (breakText c :: breaks) cursor.next
            else some (breaks, ⟨c :: rest, cursor.line, cursor.column⟩)

/-- What the gap at which a quoted scalar stands is read as, and what follows it. -/
def quotedGap (cursor : Cursor) : Option (List Char × Cursor) :=
  let beyond := skipBlanks cursor
  match beyond.rest with
  | [] => none
  | c :: rest =>
      if isBreak c then
        (quotedBreaks (rest.length + 1) [breakText c] beyond.next).map fun (breaks, cursor) =>
          (folded breaks, cursor)
      else some (cursor.rest.takeWhile isBlank, beyond)

/-- The rest of a scalar in single quotes, in which a quote is written twice. The characters so far
are given, last one first. -/
def readSingle : Nat → List Char → Cursor → Option (String × Cursor)
  | 0, _, _ => none
  | fuel + 1, read, cursor =>
      match cursor.rest with
      | [] => none
      | '\x27' :: '\x27' :: _ => readSingle fuel ('\x27' :: read) (cursor.forward 2)
      | '\x27' :: _ => some (String.ofList read.reverse, cursor.next)
      | c :: _ =>
          if isGap c then
            match quotedGap cursor with
            | some (gap, cursor) => readSingle fuel (gap.reverse ++ read) cursor
            | none => none
          else readSingle fuel (c :: read) cursor.next

/-- The character of an escape by code, and what follows it. -/
def readCode (length : Nat) (cursor : Cursor) : Option (List Char × Cursor) := do
  let digits := cursor.rest.take length
  let values ← digits.mapM hexDigit?
  let code := values.foldl (fun code digit => 16 * code + digit) 0
  if digits.length < length || 0x10FFFF < code then none
  else
    let (character, rest) := Json.unitCharacter code (cursor.rest.drop length)
    return ([character], cursor.forward (cursor.rest.length - rest.length))

/-- What an escape is read as, and what follows it. An escaped line break is left out, with the
blanks around it. -/
def readEscape (cursor : Cursor) : Option (List Char × Cursor) :=
  match cursor.rest with
  | [] => none
  | c :: rest =>
      match escapes.find? (·.1 == c) with
      | some (_, character) => some ([character], cursor.next)
      | none =>
          if isBreak c then
            (quotedBreaks (rest.length + 1) [] cursor.next).map fun (breaks, cursor) =>
              (breaks.reverse, cursor)
          else if escapeLength c == 0 then none
          else readCode (escapeLength c) cursor.next

/-- The rest of a scalar in double quotes. The characters so far are given, last one first. -/
def readDouble : Nat → List Char → Cursor → Option (String × Cursor)
  | 0, _, _ => none
  | fuel + 1, read, cursor =>
      match cursor.rest with
      | [] => none
      | '"' :: _ => some (String.ofList read.reverse, cursor.next)
      | '\\' :: _ =>
          match readEscape cursor.next with
          | some (characters, cursor) => readDouble fuel (characters.reverse ++ read) cursor
          | none => none
      | c :: _ =>
          if isGap c then
            match quotedGap cursor with
            | some (gap, cursor) => readDouble fuel (gap.reverse ++ read) cursor
            | none => none
          else readDouble fuel (c :: read) cursor.next

end SignalFlow.Yaml
