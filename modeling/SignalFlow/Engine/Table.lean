import SignalFlow.Engine.Run
import SignalFlow.Store.Csv
import SignalFlow.Store.Files

/-! # Tables of series

A run is written as a table with a column of times and one for each series, every number with six
places. Input series are read from such tables: the column of times is named `t` or `time`, and what
is missing or no number counts as zero.
-/

namespace SignalFlow

/-- Why a file holds no input series. -/
inductive InputProblem where
  | unreadable
  | malformed
  | noTimes
  | notLoaded
deriving DecidableEq

/-- The words of a problem. -/
def InputProblem.message : InputProblem → String
  | .unreadable => "cannot read file"
  | .malformed => "malformed CSV"
  | .noTimes => "missing 't' or 'time' column"
  | .notLoaded => "cannot load workspace file"

/-- What reading an input series may end with. -/
inductive InputError where
  | problem (cause : InputProblem)
  | fault (cause : Fault)

namespace Table

/-- The number in a cell. -/
def cell (text : Option String) : Float :=
  match text with
  | none => 0.0
  | some text => (Number.readFloat? text).getD 0.0

/-- The names that a column of times may have, the first choice first. -/
def timeColumns : List String := ["t", "time"]

/-- The column of times of a header. -/
def timeColumn? (header : List String) : Option String :=
  timeColumns.find? header.contains

/-- The cell of a row under a name. Of several columns of that name the last one counts, which has
no cell in a row that is too short. -/
def cellUnder (header : List String) (row : List String) (name : String) : Option String :=
  let padded := row.map some ++ List.replicate (header.length - row.length) none
  (((header.zip padded).filter (·.1 == name)).getLast?).bind (·.2)

/-- The columns of a table that are kept, each name once, with the values of its rows; a name that
is kept several times takes the value of every row as often. -/
def columns (header : List String) (rows : List (List String)) (wanted : List String) :
    List (String × List Float) :=
  wanted.eraseDups.map fun name =>
    let times := wanted.count name
    (name, rows.flatMap fun row => List.replicate times (cell (cellUnder header row name)))

/-- The input series of a table; `names` are the inputs to keep, or else all columns but the one of
times are kept. -/
def series (text : String) (names : Option (List String)) :
    Noted InputError (InputSeries Float) := do
  let rows := Csv.rows text
  let header := rows.headD []
  unless Csv.fits header do throw (.problem .malformed)
  let some timeName := timeColumn? header | throw (.problem .noTimes)
  let wanted := names.getD (header.filter (· != timeName))
  let rows := rows.tail.filter (!·.isEmpty)
  unless rows.all Csv.fits do throw (.problem .malformed)
  let times := rows.map fun row => cell (cellUnder header row timeName)
  let made : Noted Fault (InputSeries Float) :=
    InputSeries.make times (columns header rows wanted)
  ExceptT.mk do
    match ← made.run with
    | .ok series => return .ok series
    | .error cause => return .error (.fault cause)

/-- The input series of a file. -/
def load (files : Files) (path : String) (names : Option (List String)) :
    Noted InputError (InputSeries Float) :=
  match files.read path with
  | .ok text => series text names
  | .error _ => throw (.problem .unreadable)

/-- A number in a table. -/
def number (x : Float) : String := Decimal.fixed 6 x

/-- The rows of some series over some times, from a tick on. -/
def rowsFrom (series : List (String × List Float)) :
    Nat → List Float → Except Fault (List (List String))
  | _, [] => .ok []
  | tick, time :: rest => do
      let values ← series.mapM fun (_, values) =>
        match values[tick]? with
        | some value => Except.ok value
        | none => .error .outOfRange
      return (number time :: values.map number) :: (← rowsFrom series (tick + 1) rest)

/-- The table of some series. -/
def text (times : List Float) (series : List (String × List Float)) : Except Fault String := do
  let rows ← rowsFrom series 0 times
  return String.join ((("t" :: series.map (·.1)) :: rows).map Csv.line)

/-- The table of some outputs, by default all of them. -/
def outputs (times : List Float) (series : List (String × List Float))
    (names : Option (List String)) : Except Fault String := do
  match names with
  | none => text times series
  | some names =>
      let chosen ← names.mapM fun name =>
        match Entries.get? series name with
        | some values => Except.ok (name, values)
        | none => .error .missingName
      text times (Entries.ofPairs chosen)

end Table

end SignalFlow
