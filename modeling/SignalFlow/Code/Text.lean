import SignalFlow.Code.Program
import SignalFlow.Text.Blank

/-! # The text of statements

How terms, tests and statements are written in each language (`Language.term`, `Language.test`,
`Language.statement`). A statement is a list of lines; what stands inside another statement is
indented.

Multiplication and division bind more tightly than addition and subtraction, and all of them to the
left; parentheses stand only where this asks for them, around negative numbers, and where the term
has them.
-/

namespace SignalFlow

open Code

/-- Lines that stand inside other ones; an empty line stays empty. -/
def indentedBy (margin : String) (lines : List String) : List String :=
  lines.map fun line => if line.isEmpty then line else margin ++ line

/-- A comment that ends within a comment must not end it: the end mark is broken by a blank. -/
def breakCommentEnds : List Char → List Char
  | '*' :: '/' :: rest => '*' :: ' ' :: '/' :: breakCommentEnds rest
  | c :: rest => c :: breakCommentEnds rest
  | [] => []

/-- The text of a relation. -/
def Code.Relation.text : Relation → String
  | .lt => "<"
  | .le => "<="
  | .gt => ">"
  | .ge => ">="
  | .ne => "!="

/-- A number in an expression. -/
def Code.literal (value : Float) : String :=
  let text := Decimal.shortest value
  if text.startsWith "-" then "(" ++ text ++ ")" else text

namespace Language

/-- The margin of a line inside another one. -/
def margin : Language → String
  | .python => "    "
  | .c => "  "

/-- How many items an array has that is to hold some. There is no array without items in C. -/
def arrayLength : Language → Nat → Nat
  | .python, length => length
  | .c, length => Nat.max 1 length

/-- Indents lines by some levels. -/
def indented (language : Language) (lines : List String) : List String :=
  indentedBy language.margin lines

/-- A statement that ends here. -/
def ended (language : Language) (text : String) : String :=
  match language with
  | .python => text
  | .c => text ++ ";"

/-- A comment on a line of its own; all blanks in it are written as single spaces. -/
def comment (language : Language) (text : String) : String :=
  let text := " ".intercalate (Text.words text)
  match language with
  | .python => "# " ++ text
  | .c => "/* " ++ String.ofList (breakCommentEnds text.toList) ++ " */"

/-- A state field. -/
def field (language : Language) (field : Field) : String :=
  match language with
  | .python => "state[\"" ++ field.name ++ "\"]"
  | .c => "s->" ++ field.name

/-- An input of the whole program. -/
def external (language : Language) (name : String) : String :=
  match language with
  | .python => "float(inputs.get(\"" ++ name ++ "\", 0.0))"
  | .c => "(in ? in->u_" ++ name ++ " : 0.0)"

/-- The place ahead of a cursor. -/
def ahead (language : Language) (idx : Field) (steps size : Nat) : String :=
  "(" ++ language.field idx ++ s!" + {Decimal.digitsOf steps}) % {Decimal.digitsOf size}"

/-- A place in an array. -/
def place (language : Language) : Place → String
  | .at place => Decimal.digitsOf place
  | .cursor idx => language.field idx
  | .ahead idx steps size => language.ahead idx steps size

/-- The output of a block. -/
def output (handle : Nat) : String := "o[" ++ Decimal.digitsOf handle ++ "]"

/-- Whether a block is settled. -/
def settled (handle : Nat) : String := "v[" ++ Decimal.digitsOf handle ++ "]"

/-- The name of a function. -/
def function (language : Language) (name : String) : String :=
  match language, name with
  | .python, "sin" => "math.sin"
  | .c, "abs" => "fabs"
  | .c, "min" => "fmin"
  | .c, "max" => "fmax"
  | _, name => name

/-- The truth value of what holds. -/
def truth : Language → String
  | .python => "True"
  | .c => "1"

/-- A text in parentheses where they are needed. -/
def wrapped (needed : Bool) (text : String) : String :=
  if needed then "(" ++ text ++ ")" else text

/-- A term that stands where operators of at least a level are read: 1 for addition, 2 for
multiplication, 3 for what needs no parentheses. -/
def termAt (language : Language) (level : Nat) : Term Float → String
  | .number value => literal value
  | .time => "t"
  | .step => "dt"
  | .pi => match language with
    | .python => "math.pi"
    | .c => "M_PI"
  | .output handle => output handle
  | .field field => language.field field
  | .item array place => language.field array ++ "[" ++ language.place place ++ "]"
  | .localValue name => name.name
  | .external name => language.external name
  | .add a b => wrapped (1 < level) (language.termAt 1 a ++ " + " ++ language.termAt 2 b)
  | .sub a b => wrapped (1 < level) (language.termAt 1 a ++ " - " ++ language.termAt 2 b)
  | .mul a b => wrapped (2 < level) (language.termAt 2 a ++ " * " ++ language.termAt 3 b)
  | .div a b => wrapped (2 < level) (language.termAt 2 a ++ " / " ++ language.termAt 3 b)
  | .sin a => language.function "sin" ++ "(" ++ language.termAt 1 a ++ ")"
  | .abs a => language.function "abs" ++ "(" ++ language.termAt 1 a ++ ")"
  | .min a b => language.function "min" ++
      "(" ++ language.termAt 1 a ++ ", " ++ language.termAt 1 b ++ ")"
  | .max a b => language.function "max" ++
      "(" ++ language.termAt 1 a ++ ", " ++ language.termAt 1 b ++ ")"
  | .choice relation a b ifTrue ifFalse =>
      let test := language.termAt 1 a ++ " " ++ relation.text ++ " " ++ language.termAt 1 b
      let ifTrue := language.termAt 1 ifTrue
      let ifFalse := language.termAt 1 ifFalse
      match language with
      | .python => s!"({ifTrue} if {test} else {ifFalse})"
      | .c => s!"(({test}) ? {ifTrue} : {ifFalse})"
  | .grouped a => "(" ++ language.termAt 1 a ++ ")"

/-- A term. -/
def term (language : Language) (term : Term Float) : String := language.termAt 1 term

/-- A test. -/
def test (language : Language) : Test Float → String
  | .compare relation a b =>
      language.term a ++ " " ++ relation.text ++ " " ++ language.term b
  | .settled handles =>
      let mark := match language with
        | .python => " and "
        | .c => " && "
      mark.intercalate (handles.map settled)
  | .stale handle =>
      match language with
      | .python => s!"not {settled handle} or {output handle} != value"
      | .c => s!"!{settled handle} || {output handle} != value"

/-- Where a number is stored. -/
def target (language : Language) : Target → String
  | .output handle => output handle
  | .field field => language.field field
  | .item array place => language.field array ++ "[" ++ Decimal.digitsOf place ++ "]"
  | .ahead array idx steps size =>
      language.field array ++ "[" ++ language.ahead idx steps size ++ "]"

/-- The next state of a noise generator. -/
def noise (language : Language) (rng : Field) : String :=
  match language with
  | .python => "(1664525 * " ++ language.field rng ++ " + 1013904223) & 0xFFFFFFFF"
  | .c => "(uint32_t)(1664525u * " ++ language.field rng ++ " + 1013904223u)"

/-- A loop that moves the items of an array towards its end. -/
def shiftRight (language : Language) (array : String) (length : Nat) : List String :=
  if length < 2 then []
  else
    let count := Decimal.digitsOf (length - 1)
    match language with
    | .python => [s!"for i in range({count}, 0, -1):", s!"    {array}[i] = {array}[i - 1]"]
    | .c => [s!"for (int i = {count}; i > 0; i--) {array}[i] = {array}[i - 1];"]

/-- A loop that moves the items of an array towards its start. -/
def shiftLeft (language : Language) (array : String) (length : Nat) : List String :=
  if length < 2 then []
  else
    let count := Decimal.digitsOf (length - 1)
    match language with
    | .python => [s!"for i in range({count}):", s!"    {array}[i] = {array}[i + 1]"]
    | .c => [s!"for (int i = 0; i < {count}; i++) {array}[i] = {array}[i + 1];"]

/-- The lines under a test. -/
def branch (language : Language) (test : String) (body : List String) : List String :=
  match language with
  | .python => s!"if {test}:" :: language.indented body
  | .c => s!"if ({test}) \x7b" :: language.indented body ++ ["\x7d"]

/-- Lines that stand for themselves, where a language has a scope in one of its own. -/
def scope (language : Language) (body : List String) : List String :=
  match language with
  | .python => body
  | .c => if body.isEmpty then [] else "\x7b" :: language.indented body ++ ["\x7d"]

mutual

/-- The lines of a statement. -/
def statement (language : Language) : Statement Float → List String
  | .comment text => [language.comment text]
  | .store target value =>
      [language.ended (language.target target ++ " = " ++ language.term value)]
  | .increase field amount =>
      [language.ended (language.field field ++ " += " ++ language.term amount)]
  | .define name value =>
      let kind := match language with
        | .python => ""
        | .c => "double "
      [language.ended (kind ++ name.name ++ " = " ++ language.term value)]
  | .settle handle => [language.ended (settled handle ++ " = " ++ language.truth)]
  | .progress => [language.ended ("updated = " ++ language.truth)]
  | .advance idx size => [language.ended (language.field idx ++ " = " ++ language.ahead idx 1 size)]
  | .drawNoise rng => [language.ended (language.field rng ++ " = " ++ language.noise rng)]
  | .rungeKutta state handle order input =>
      let x := language.field state
      let a := matrixName handle
      let b := vectorName handle
      let u := language.term input
      match language with
      | .python => [s!"{x} = _rk4({a}, {b}, {x}, {u}, dt)"]
      | .c => [s!"tf_rk4({Decimal.digitsOf order}, &{a}[0][0], {b}, {x}, {u}, dt);"]
  | .shiftRight array length => language.shiftRight (language.field array) length
  | .shiftLeft array length => language.shiftLeft (language.field array) length
  | .publish name handle =>
      match language with
      | .python => ["outputs[\"" ++ name ++ "\"] = " ++ output handle]
      | .c => ["if (out) out->y_" ++ name ++ " = " ++ output handle ++ ";"]
  | .when test body => language.branch (language.test test) (language.statements body)
  | .block body => language.scope (language.statements body)

/-- The lines of some statements. -/
def statements (language : Language) : List (Statement Float) → List String
  | [] => []
  | first :: rest => language.statement first ++ language.statements rest

end

/-- The numbers of a vector. -/
def numbers (values : List Float) : String := ", ".intercalate (values.map Decimal.shortest)

/-- The declaration of a matrix or a vector. -/
def realized (language : Language) : Realized Float → String
  | .matrix handle rows =>
      let size := Decimal.digitsOf rows.length
      match language with
      | .python =>
          let rows := ", ".intercalate (rows.map fun row => "[" ++ numbers row ++ "]")
          s!"{matrixName handle} = [{rows}]"
      | .c =>
          let rows := ", ".intercalate (rows.map fun row => "\x7b" ++ numbers row ++ "\x7d")
          s!"static const double {matrixName handle}[{size}][{size}] = \x7b{rows}\x7d;"
  | .vector handle entries =>
      let size := Decimal.digitsOf entries.length
      match language with
      | .python => s!"{vectorName handle} = [{numbers entries}]"
      | .c => s!"static const double {vectorName handle}[{size}] = \x7b{numbers entries}\x7d;"

end Language

end SignalFlow
