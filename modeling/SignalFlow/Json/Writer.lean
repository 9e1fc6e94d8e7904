import SignalFlow.Value.Whole

/-! # Writing JSON

`Json.compact` writes a value on one line and `Json.indented` one item to a line, as long as nothing
in the value keeps it from being written (`Json.checkWritten`). Characters beyond ASCII are escaped
by their UTF-16 units. Whole numbers are written in full and doubles with the fewest digits; a
double that is infinite or no number has its name.
-/

namespace SignalFlow.Json

open Text

/-- A UTF-16 unit as an escape. -/
def unitText (unit : Nat) : List Char :=
  '\\' :: 'u' :: hexText 4 unit

/-- One character of a text. -/
def characterText (c : Char) : List Char :=
  if c == '"' then ['\\', '"']
  else if c == '\\' then ['\\', '\\']
  else if c == '\n' then ['\\', 'n']
  else if c == '\r' then ['\\', 'r']
  else if c == '\t' then ['\\', 't']
  else if c == '\x08' then ['\\', 'b']
  else if c == '\x0c' then ['\\', 'f']
  else if 32 ≤ c.toNat && c.toNat < 127 then [c]
  else if c.toNat < 0x10000 then unitText c.toNat
  else
    let offset := c.toNat - 0x10000
    unitText (0xD800 + offset / 0x400) ++ unitText (0xDC00 + offset % 0x400)

/-- A text in double quotes. -/
def textLiteral (text : String) : String :=
  String.ofList ('"' :: text.toList.flatMap characterText ++ ['"'])

/-- A double, with the names of the values that are not finite. -/
def floatLiteral (x : Float) : String :=
  if x.isNaN then "NaN"
  else if x.isInf then (if Binary64.isNegative x then "-Infinity" else "Infinity")
  else Decimal.shortest x

/-- The text of a value that is neither list nor mapping. -/
def leafText : Value → String
  | .null => "null"
  | .bool b => if b then "true" else "false"
  | .int n => (Value.int n).quoted
  | .float x => floatLiteral x
  | .text s => textLiteral s
  | .list _ => "[]"
  | .mapping _ => "\x7b\x7d"

/-- A new line at a level of nesting. -/
def breakLine (width depth : Nat) : String :=
  "\n" ++ String.ofList (List.replicate (width * depth) ' ')

mutual

/-- A value with one item to a line, at a level of nesting. -/
def indentedAt (width depth : Nat) : Value → String
  | .list items =>
      match items with
      | [] => "[]"
      | items => "[" ++ breakLine width (depth + 1) ++
          ("," ++ breakLine width (depth + 1)).intercalate
            (indentedItems width (depth + 1) items) ++
          breakLine width depth ++ "]"
  | .mapping entries =>
      match entries with
      | [] => "\x7b\x7d"
      | entries => "\x7b" ++ breakLine width (depth + 1) ++
          ("," ++ breakLine width (depth + 1)).intercalate
            (indentedEntries width (depth + 1) entries) ++ breakLine width depth ++ "\x7d"
  | value => leafText value

/-- The items of a list. -/
def indentedItems (width depth : Nat) : List Value → List String
  | [] => []
  | item :: rest => indentedAt width depth item :: indentedItems width depth rest

/-- The entries of a mapping. -/
def indentedEntries (width depth : Nat) : List (String × Value) → List String
  | [] => []
  | (key, value) :: rest =>
      (textLiteral key ++ ": " ++ indentedAt width depth value) :: indentedEntries width depth rest

end

/-- A value with one item to a line, each level indented by `width` blanks. -/
def indented (width : Nat) (value : Value) : String :=
  indentedAt width 0 value

mutual

/-- A value on one line. -/
def compact : Value → String
  | .list items => "[" ++ ",".intercalate (compactItems items) ++ "]"
  | .mapping entries => "\x7b" ++ ",".intercalate (compactEntries entries) ++ "\x7d"
  | value => leafText value

/-- The items of a list on one line. -/
def compactItems : List Value → List String
  | [] => []
  | item :: rest => compact item :: compactItems rest

/-- The entries of a mapping on one line. -/
def compactEntries : List (String × Value) → List String
  | [] => []
  | (key, value) :: rest => (textLiteral key ++ ":" ++ compact value) :: compactEntries rest

end

/-- Makes sure that nothing keeps a value from being written. -/
def checkWritten [Host] (value : Value) : Except Fault Unit :=
  (value.obstacle? (Host.jsonTextDepth + 1)).elim (.ok ()) .error

end SignalFlow.Json
