/-! # Comma-separated values

A text of comma-separated values is read as rows of cells (`Csv.rows`). A cell may stand in double
quotes; then it may hold commas, line breaks and, written twice, quotes. Lines end with a line feed,
a carriage return or both. A row is written with quotes where they are needed (`Csv.line`).
-/

namespace SignalFlow.Csv

/-- Where the reader is: before a row, before a cell, in a plain cell, in a quoted one, or behind a
quote in a quoted one. -/
inductive Place where
  | row | cell | plain | quoted | quote
deriving DecidableEq

/-- The length of the longest cell that is accepted. -/
def cellLimit : Nat := 131072

/-- The cell whose characters have been read, last one first. -/
def close (cell : List Char) : String := String.ofList cell.reverse

/-- Reads the rows of a text. `cells` are the cells of the row under way and `cell` the characters
of the cell under way, both last one first. -/
def rowsFrom : Place → List String → List Char → List Char → List (List String)
  | place, cells, cell, [] =>
      match place with
      | .row => []
      | _ => [(close cell :: cells).reverse]
  | place, cells, cell, c :: rest =>
      let isBreak := c == '\n' || c == '\r'
      if place == .quoted then
        if c == '"' then rowsFrom .quote cells cell rest
        else rowsFrom .quoted cells (c :: cell) rest
      else if isBreak then
        let row := if place == .row then [] else (close cell :: cells).reverse
        if c == '\r' then
          match rest with
          | '\n' :: rest => row :: rowsFrom .row [] [] rest
          | rest => row :: rowsFrom .row [] [] rest
        else row :: rowsFrom .row [] [] rest
      else if c == ',' then rowsFrom .cell (close cell :: cells) [] rest
      else if c == '"' then
        match place with
        | .row | .cell => rowsFrom .quoted cells cell rest
        | .quote => rowsFrom .quoted cells (c :: cell) rest
        | _ => rowsFrom .plain cells (c :: cell) rest
      else rowsFrom .plain cells (c :: cell) rest

/-- The rows of a text; a blank line is a row without cells. -/
def rows (text : String) : List (List String) := rowsFrom .row [] [] text.toList

/-- Whether the cells of a row are within the limit. -/
def fits (row : List String) : Bool := row.all (·.length ≤ cellLimit)

/-- Whether a cell is written in quotes. -/
def needsQuotes (cell : String) : Bool :=
  cell.toList.any fun c => c == ',' || c == '"' || c == '\n'

/-- A cell as it is written. -/
def cellText (cell : String) : String :=
  if needsQuotes cell then
    "\"" ++ String.join (cell.toList.map fun c => if c == '"' then "\"\"" else c.toString) ++ "\""
  else cell

/-- A row as it is written, with its line end. The only cell of a row is written in quotes if it is
empty. -/
def line : List String → String
  | [""] => "\"\"\n"
  | cells => ",".intercalate (cells.map cellText) ++ "\n"

end SignalFlow.Csv
