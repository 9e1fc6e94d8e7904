import SignalFlow.Expr.Basic
import SignalFlow.Text.Blank
import SignalFlow.Text.Identifier
import SignalFlow.Text.Compatibility
import SignalFlow.Number.Read

/-! # Tokens

`Token.scan?` divides a text into names, numbers, quoted texts, operators, line ends and changes of
indentation. It refuses a text with a malformed token, an unclosed bracket, more than
`bracketLimit` brackets inside one another, or lines whose indentation matches no line before.

A statement ends with its line unless a bracket is open or the line ends with a backslash. Comments
and blank lines leave no token.
-/

namespace SignalFlow

/-- What a token is. -/
inductive Lexeme where
  | name (text : String)
  | keyword (text : String)
  | number (value : Literal)
  /-- A quoted text: the letters before the quote, and what stands between the quotes. -/
  | quoted (letters : List Char) (body : List Char)
  | operator (text : String)
  | lineEnd
  | indent
  | dedent

/-- A token with the places in the text where it starts and where it ends, and the line it starts
on. -/
structure Token where
  lexeme : Lexeme
  first : Nat
  stop : Nat
  line : Nat

namespace Token

open Text

/-- The most brackets that may be open at once. -/
def bracketLimit : Nat := 200

/-- The deepest level of indentation. -/
def indentLimit : Nat := 100

/-- Whether a character may belong to a name, as far as the division into tokens goes. -/
def isNameStart (c : Char) : Bool :=
  c.isAlpha || c == '_' || 128 ≤ c.toNat

/-- Whether a character may belong to a name after its start. -/
def isNameRest (c : Char) : Bool :=
  isNameStart c || c.isDigit

/-- Whether a digit belongs to a base. -/
def isDigitOf (base : Nat) (c : Char) : Bool :=
  match hexDigit? c with
  | some digit => digit < base
  | none => false

/-- Digits of a base with single underscores between them: the digits and what follows, or `none`
where an underscore is not followed by a digit. `inside` tells that a digit came just before. -/
def digitsOfBase (base : Nat) : Bool → List Char → Option (List Char × List Char)
  | _, [] => some ([], [])
  | inside, c :: rest =>
      if c == '_' && inside then
        if (rest.head?.map (isDigitOf base)).getD false then digitsOfBase base false rest else none
      else if isDigitOf base c then
        (digitsOfBase base true rest).map fun (digits, left) => (c :: digits, left)
      else some ([], c :: rest)

/-- The keywords, less their first letter, that may follow a number without a blank. -/
def keywordTails (c : Char) : List String :=
  if c == 'a' then ["nd"]
  else if c == 'e' then ["lse"]
  else if c == 'f' then ["or"]
  else if c == 'i' then ["f", "n", "s"]
  else if c == 'n' then ["ot"]
  else if c == 'o' then ["r"]
  else []

/-- Whether a number may end before the given text: no letter, digit or underscore follows, unless
it starts a keyword. -/
def endsNumber : List Char → Bool
  | [] => true
  | c :: rest =>
      (keywordTails c).any (fun tail => tail.toList.isPrefixOf rest) || !isNameRest c

/-- The value of digits of a base. -/
def valueOfBase (base : Nat) (digits : List Char) : Nat :=
  digits.foldl (fun value c => base * value + (hexDigit? c).getD 0) 0

/-- A whole number with the letter of its base. -/
def prefixedNumber (base : Nat) (text : List Char) : Option (Literal × List Char) :=
  let text := match text with
    | '_' :: rest => rest
    | _ => text
  match digitsOfBase base false text with
  | some (c :: digits, rest) =>
      if (rest.head?.map Char.isDigit).getD false || !endsNumber rest then none
      else some (.int (valueOfBase base (c :: digits)), rest)
  | _ => none

/-- The exponent of a decimal number, if a digit follows its mark: the digits with their sign, and
what follows. A mark with a sign but no digit is malformed. -/
def exponentDigits (text : List Char) : Option (Option (Bool × List Char) × List Char) :=
  match text with
  | c :: rest =>
      if c == 'e' || c == 'E' then
        match rest with
        | sign :: digits =>
            if sign == '+' || sign == '-' then
              match digitsOfBase 10 false digits with
              | some (d :: ds, left) => some (some (sign == '-', d :: ds), left)
              | _ => none
            else
              match digitsOfBase 10 false rest with
              | some (d :: ds, left) => some (some (false, d :: ds), left)
              | some ([], _) => if endsNumber text then some (none, text) else none
              | none => none
        | [] => if endsNumber text then some (none, text) else none
      else some (none, text)
  | [] => some (none, [])

/-- A decimal number from its whole digits on: a fraction, an exponent and the mark of imaginary
numbers may follow. -/
def decimalNumber (whole rest : List Char) : Option (Literal × List Char) := do
  let (fraction, rest) ← match rest with
    | '.' :: more => (digitsOfBase 10 false more).map fun (digits, left) => (some digits, left)
    | _ => some (none, rest)
  let (exponent, rest) ← exponentDigits rest
  let digits := whole ++ fraction.getD []
  let shift : Int := match exponent with
    | some (negative, ds) => Binary64.signed negative (valueOfBase 10 ds)
    | none => 0
  let value := Number.scaledFloat false (valueOfBase 10 digits) (shift - (fraction.getD []).length)
  match rest with
  | c :: more =>
      if c == 'j' || c == 'J' then
        if endsNumber more then return (.imaginary value, more) else none
  | [] => pure ()
  if !endsNumber rest then none
  else if fraction.isSome || exponent.isSome then return (.float value, rest)
  else if (whole.head? == some '0') && valueOfBase 10 whole != 0 then none
  else if Number.digitLimit < whole.length then none
  else return (.int (valueOfBase 10 whole), rest)

/-- The number at the start of a text. -/
def scanNumber (text : List Char) : Option (Literal × List Char) :=
  match text with
  | '0' :: c :: rest =>
      if c == 'x' || c == 'X' then prefixedNumber 16 rest
      else if c == 'o' || c == 'O' then prefixedNumber 8 rest
      else if c == 'b' || c == 'B' then prefixedNumber 2 rest
      else (digitsOfBase 10 false text).bind fun (whole, rest) => decimalNumber whole rest
  | _ => (digitsOfBase 10 false text).bind fun (whole, rest) => decimalNumber whole rest

/-- The letters before a quote that mark the kind of a quoted text, each at most once: `b` for
bytes, `u` for text, `f` for a format, `r` for a text without escapes. -/
def quoteLetters (letters : List Char) : Bool :=
  let lower := letters.map Char.toLower
  ["", "b", "u", "r", "f", "br", "rb", "fr", "rf"].any fun known => known.toList == lower

/-- What stands before the closing quotes, and what follows them. `count` is the number of quotes,
one or three; a line may end only inside three. -/
def scanQuoted (quote : Char) (count : Nat) : List Char → Option (List Char × List Char)
  | [] => none
  | '\\' :: c :: rest =>
      (scanQuoted quote count rest).map fun (body, left) => ('\\' :: c :: body, left)
  | c :: rest =>
      if c == quote && (count == 1 || [quote, quote].isPrefixOf rest) then
        some ([], rest.drop (count - 1))
      else if c == '\n' && count == 1 then none
      else (scanQuoted quote count rest).map fun (body, left) => (c :: body, left)

/-- The words that are not names. -/
def keywords : List String :=
  ["False", "None", "True", "and", "as", "assert", "async", "await", "break", "class", "continue",
   "def", "del", "elif", "else", "except", "finally", "for", "from", "global", "if", "import", "in",
   "is", "lambda", "nonlocal", "not", "or", "pass", "raise", "return", "try", "while", "with",
   "yield"]

/-- The operators, longest first. -/
def operators : List String :=
  ["...", "**=", "//=", ">>=", "<<=",
   "**", "//", ">>", "<<", "<=", ">=", "==", "!=", "->", "+=", "-=", "*=", "/=", "%=", "@=", "&=",
   "|=", "^=", ":=",
   "+", "-", "*", "/", "%", "@", "&", "|", "^", "~", "<", ">", "(", ")", "[", "]", "\x7b", "\x7d",
   ",", ":", ".", ";", "="]

/-- The bracket that closes another. -/
def closing? (c : Char) : Option Char :=
  if c == '(' then some ')'
  else if c == '[' then some ']'
  else if c == '\x7b' then some '\x7d'
  else none

/-- Where the scanner stands. -/
structure Scanner where
  rest : List Char
  /-- Number of characters passed. -/
  place : Nat := 0
  line : Nat := 1
  /-- The brackets that must still be closed, innermost first. -/
  brackets : List Char := []
  /-- The columns of the open levels of indentation, with tabs counted as eight columns and as
  one. -/
  indents : List (Nat × Nat) := []
  /-- Whether a line starts here. -/
  fresh : Bool := true
  /-- Whether the line so far holds no token. -/
  blank : Bool := true
  /-- The tokens found, latest first. -/
  found : List Token := []

namespace Scanner

/-- Passes over characters that belong to no token. -/
def pass (s : Scanner) (count : Nat) : Scanner :=
  { s with
    rest := s.rest.drop count
    place := s.place + count
    line := s.line + (s.rest.take count).count '\n' }

/-- Takes the next characters as a token. -/
def take (s : Scanner) (lexeme : Lexeme) (count : Nat) : Scanner :=
  { s.pass count with
    found := ⟨lexeme, s.place, s.place + count, s.line⟩ :: s.found
    blank := false }

/-- The columns at the first token of a line and the number of characters before it. A line that a
backslash joins to the next counts by the column of the first backslash, unless that is zero;
`none` where a backslash does not end its line. -/
def columns : List Char → (column flat count joined : Nat) → Option (Nat × Nat × Nat)
  | '\\' :: '\n' :: rest, column, flat, count, joined =>
      if rest.isEmpty then none
      else columns rest column flat (count + 2) (if joined == 0 then column else joined)
  | c :: rest, column, flat, count, joined =>
      if c == ' ' then columns rest (column + 1) (flat + 1) (count + 1) joined
      else if c == '\t' then columns rest ((column / 8 + 1) * 8) (flat + 1) (count + 1) joined
      else if c == '\x0c' then columns rest 0 0 (count + 1) joined
      else if c == '\\' then none
      else if joined == 0 then some (column, flat, count)
      else some (joined, joined, count)
  | [], column, flat, count, _ => some (column, flat, count)

/-- Opens or closes levels of indentation at the start of a line. -/
def align (s : Scanner) (column flat : Nat) : Option Scanner :=
  let (top, topFlat) := s.indents.headD (0, 0)
  if column == top then
    if flat == topFlat then some s else none
  else if top < column then
    if indentLimit ≤ s.indents.length + 1 || flat ≤ topFlat then none
    else some { s with
      indents := (column, flat) :: s.indents
      found := ⟨.indent, s.place, s.place, s.line⟩ :: s.found }
  else
    let kept := s.indents.dropWhile fun (open_, _) => column < open_
    let (base, baseFlat) := kept.headD (0, 0)
    if base == column && baseFlat == flat then
      some { s with
        indents := kept
        found := List.replicate (s.indents.length - kept.length) ⟨.dedent, s.place, s.place, s.line⟩
          ++ s.found }
    else none

/-- The start of a line. -/
def startLine (s : Scanner) : Option Scanner := do
  let (column, flat, count) ← columns s.rest 0 0 0 0
  let s := { s.pass count with fresh := false, blank := true }
  match s.rest with
  | '#' :: _ => return s
  | '\n' :: _ => return s
  | _ => if s.brackets.isEmpty then align s column flat else return s

/-- A quoted text whose letters have been passed. -/
def quotedToken (s : Scanner) (letters : List Char) (quote : Char) : Option Scanner := do
  let after := s.rest.drop (letters.length + 1)
  let count := if [quote, quote].isPrefixOf after then 3 else 1
  let (body, left) ← scanQuoted quote count (after.drop (count - 1))
  return s.take (.quoted letters body) (s.rest.length - left.length)

/-- A name or the letters of a quoted text. -/
def nameToken (s : Scanner) : Option Scanner :=
  let name := s.rest.takeWhile isNameRest
  match s.rest.drop name.length with
  | c :: _ =>
      if (c == '"' || c == '\'') && quoteLetters name then quotedToken s name c
      else plain s name
  | [] => plain s name
where
  /-- A name must be an identifier; it stands for its compatibility form. -/
  plain (s : Scanner) (name : List Char) : Option Scanner :=
    let text := String.ofList name
    if keywords.contains text then some (s.take (.keyword text) name.length)
    else if isIdentifier text then some (s.take (.name (compatibility text)) name.length)
    else none

/-- An operator or bracket. -/
def operatorToken (s : Scanner) (c : Char) : Option Scanner := do
  let text ← operators.find? fun known => known.toList.isPrefixOf s.rest
  let s := s.take (.operator text) text.length
  match closing? c with
  | some closer =>
      if bracketLimit ≤ s.brackets.length then none
      else return { s with brackets := closer :: s.brackets }
  | none =>
      if c == ')' || c == ']' || c == '\x7d' then
        match s.brackets with
        | [] => none
        | open_ :: rest => if open_ == c then return { s with brackets := rest } else none
      else return s

/-- One step of the scanner before the end of the text. -/
def step (s : Scanner) (c : Char) (rest : List Char) : Option Scanner :=
  if s.fresh then startLine s
  else if c == ' ' || c == '\t' || c == '\x0c' then some (s.pass 1)
  else if c == '#' then some (s.pass ((s.rest.takeWhile (· != '\n')).length))
  else if c == '\n' then
    if s.brackets.isEmpty then
      if s.blank then some { s.pass 1 with fresh := true }
      else some { s.take .lineEnd 1 with fresh := true }
    else some { s.pass 1 with fresh := true }
  else if c == '\\' then
    match rest with
    | '\n' :: more => if more.isEmpty then none else some (s.pass 2)
    | _ => none
  else if c.isDigit || (c == '.' && (rest.head?.map Char.isDigit).getD false) then do
    let (value, left) ← scanNumber s.rest
    return s.take (.number value) (s.rest.length - left.length)
  else if c == '"' || c == '\'' then quotedToken s [] c
  else if isNameStart c then nameToken s
  else operatorToken s c

/-- Scans to the end of the text. Every step passes a character or starts a line, which the line
before has ended. -/
def run : Nat → Scanner → Option (List Token)
  | 0, _ => none
  | fuel + 1, s =>
      match s.rest with
      | [] =>
          if s.brackets.isEmpty then
            let closed := List.replicate s.indents.length
              (⟨.dedent, s.place, s.place, s.line⟩ : Token)
            some (s.found.reverse ++ closed)
          else none
      | c :: rest =>
          match step s c rest with
          | some next => run fuel next
          | none => none

end Scanner

/-- The tokens of a text. -/
def scan? (text : List Char) : Option (List Token) :=
  if text.contains (Char.ofNat 0) then none
  else Scanner.run (2 * text.length + 2) { rest := text }

end Token

end SignalFlow
