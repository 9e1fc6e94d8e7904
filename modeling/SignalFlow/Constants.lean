import SignalFlow.Expr.Eval
import SignalFlow.Value.Whole

/-! # Constants and the values of parameters

A parameter is a number, the name of a constant or an expression over constants.
`Constants.resolve` gives its value, a finite double: whatever has no finite value counts as zero,
unless it ends in a fault.
`Constants.ofVariables` builds the table of a diagram's variables, each of which may use the ones
before it.
-/

namespace SignalFlow

/-- A double, or zero if it is not finite. -/
def finiteOrZero (x : Float) : Float :=
  if x.isFinite then x else 0.0

/-- Replaces every character outside the ASCII letters, digits and the underscore by an
underscore. -/
def sanitize (name : String) : String :=
  String.ofList (name.toList.map fun c =>
    if c.toNat < 128 && (c.isAlphanum || c == '_') then c else '_')

namespace Constants

/-- The constants that every table starts with. -/
def standard : Constants :=
  [("pi", 3.141592653589793), ("e", 2.718281828459045)]

/-- The finite number that a text writes. -/
def written? (text : String) : Option Float :=
  (Number.readFloat? text).filter Float.isFinite

/-- The constant that a text names, directly or after a backslash. -/
def named? (constants : Constants) (text : String) : Option Float :=
  match Entries.get? constants text with
  | some value => some value
  | none =>
      match text.toList with
      | '\\' :: rest => Entries.get? constants (String.ofList rest)
      | _ => none

/-- The value of a parameter's text: a number, a constant or an expression. -/
def resolveText [Host] (constants : Constants) (text : String) : Except Fault Float :=
  let text := Text.trim text
  if text.isEmpty then .ok 0.0
  else match written? text with
    | some value => .ok value
    | none =>
        match named? constants text with
        | some value => .ok (finiteOrZero value)
        | none => (Expr.evaluate constants text).map fun result => result.toOption.getD 0.0

/-- The number of a value that is one: the double nearest to it, or zero if it is not finite. -/
def number? : Value → Option (Except Fault Float)
  | .bool true => some (.ok 1.0)
  | .bool false => some (.ok 0.0)
  | .int n =>
      match Binary64.ofInt? n with
      | some x => some (.ok x)
      | none => some (.error .tooLarge)
  | .float x => some (.ok (finiteOrZero x))
  | _ => none

/-- The value of a parameter. -/
def resolve [Host] (constants : Constants) (value : Value) : Except Fault Float :=
  match value with
  | .null => .ok 0.0
  | value => (number? value).getD (value.toText.bind constants.resolveText)

/-- What stands between commas, without the blanks around it; empty parts are left out. -/
def commaParts (text : List Char) : List String :=
  ((text.splitOn ',').map fun part => Text.trim (String.ofList part)).filter (!·.isEmpty)

/-- What a pair of square brackets encloses; a text without one is kept as it is. -/
def withoutBrackets (text : List Char) : List Char :=
  match text with
  | '[' :: rest => if rest.getLast? == some ']' then rest.dropLast else text
  | _ => text

/-- The items of a coefficient list in text form, brackets and empty items left out. -/
def listItems (text : String) : List String :=
  commaParts (withoutBrackets (Text.trimBy Text.isBlank text.toList))

/-- The values of a coefficient list: a list, a single number, or a text with commas. -/
def resolveList [Host] (constants : Constants) : Value → Except Fault (List Float)
  | .null => .ok []
  | .list items => items.mapM constants.resolve
  | value =>
      match number? value with
      | some result => result.map ([·])
      | none => value.toText.bind fun text => (listItems text).mapM constants.resolveText

/-- Adds a variable to a table. The name is trimmed and may not be empty; one that starts with a
backslash is also known without it. -/
def define (constants : Constants) (name : String) (value : Float) : Constants :=
  let key := Text.trim name
  if key.isEmpty then constants
  else
    let constants := Entries.set constants key value
    match key.toList with
    | '\\' :: c :: rest => Entries.set constants (String.ofList (c :: rest)) value
    | _ => constants

/-- Resolves a variable in a table and adds it. -/
def extend [Host] (constants : Constants) (entry : String × Value) : Except Fault Constants :=
  if (Text.trim entry.1).isEmpty then .ok constants
  else return constants.define entry.1 (← constants.resolve entry.2)

/-- The table of some variables, in their order. -/
def ofVariables [Host] (vars : List (String × Value)) : Except Fault Constants :=
  vars.foldlM extend standard

end Constants

end SignalFlow
