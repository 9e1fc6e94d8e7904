/-! # Places in a YAML text

Blocks of a YAML text are told apart by the columns at which they begin, so a reader has to know
where it stands (`Cursor`). Between tokens stand spaces, line breaks and comments (`Cursor.skip`);
a tab does not.
-/

namespace SignalFlow.Yaml

/-- What is left of a text, and the line and column at which that begins. -/
structure Cursor where
  rest : List Char
  line : Nat
  column : Nat

/-- Whether a character ends a line. -/
def isBreak (c : Char) : Bool :=
  c == '\n' || c == '\r' || c == '\u0085' || c == '\u2028' || c == '\u2029'

/-- Whether a character ends a word. -/
def isGap (c : Char) : Bool := c == ' ' || c == '\t' || isBreak c

/-- Whether nothing or a gap comes next. -/
def startsGap : List Char → Bool
  | [] => true
  | c :: _ => isGap c

/-- The character that a line break is read as. -/
def breakText (c : Char) : Char := if c == '\u2028' || c == '\u2029' then c else '\n'

namespace Cursor

/-- The start of a text; a byte order mark is left out. -/
def start (text : List Char) : Cursor :=
  match text with
  | '\ufeff' :: rest => ⟨rest, 0, 0⟩
  | _ => ⟨text, 0, 0⟩

/-- Behind the next character. -/
def next (cursor : Cursor) : Cursor :=
  match cursor.rest with
  | [] => cursor
  | c :: rest =>
      if isBreak c then ⟨rest, cursor.line + 1, 0⟩ else ⟨rest, cursor.line, cursor.column + 1⟩

/-- Behind characters of one line. -/
def forward (cursor : Cursor) (count : Nat) : Cursor :=
  ⟨cursor.rest.drop count, cursor.line, cursor.column + count⟩

/-- Behind spaces. -/
def skipSpaces (cursor : Cursor) : Cursor :=
  cursor.forward (cursor.rest.takeWhile (· == ' ')).length

/-- Behind the spaces, comments and line breaks of a text. The column counts spaces only, and a
comment reaches to the end of its line. -/
def skipFrom : Bool → List Char → Nat → Nat → Cursor
  | _, [], line, column => ⟨[], line, column⟩
  | inComment, c :: rest, line, column =>
      if isBreak c then skipFrom false rest (line + 1) 0
      else if inComment || c == ' ' then skipFrom inComment rest line (column + 1)
      else if c == '#' then skipFrom true rest line (column + 1)
      else ⟨c :: rest, line, column⟩

/-- The next token. -/
def skip (cursor : Cursor) : Cursor := skipFrom false cursor.rest cursor.line cursor.column

/-- Whether a line of a mark such as three dots begins here. -/
def marks (cursor : Cursor) (mark : Char) : Bool :=
  cursor.column == 0 &&
    match cursor.rest with
    | a :: b :: c :: rest => a == mark && b == mark && c == mark && startsGap rest
    | _ => false

/-- Whether a document begins or ends here. -/
def atMark (cursor : Cursor) : Bool := cursor.marks '-' || cursor.marks '.'

/-- Whether a document has nothing more. -/
def atEnd (cursor : Cursor) : Bool := cursor.rest.isEmpty || cursor.atMark

/-- Whether an item of a block sequence begins here. -/
def atItem (cursor : Cursor) : Bool :=
  match cursor.rest with
  | '-' :: rest => startsGap rest
  | _ => false

end Cursor

end SignalFlow.Yaml
