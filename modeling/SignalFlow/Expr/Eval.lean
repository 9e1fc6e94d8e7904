import SignalFlow.Expr.Function
import SignalFlow.Expr.Parser
import SignalFlow.Host
import SignalFlow.Text.Quoted

/-! # Evaluating expressions

`Expr.evaluate` gives the value of an expression's text under a table of constants, or the reason
why there is none (`ExprError`). Literals and constants are doubles; whole numbers arise from
`floor` and `ceil` only. They are exact, so that powers of them may need more memory than there is;
this, and a text for which the reader has not enough, ends the evaluation with a fault.
-/

namespace SignalFlow

/-- Why an expression has no value. -/
inductive EvalError where
  /-- An operation without a value at its operands, or nesting that is too deep. -/
  | undefined
  /-- A whole number that is larger than the memory. -/
  | outOfMemory
  | literal (text : String)
  | unknownName (name : String)
  | attribute
  | operator (name : String)
  | callTarget
  | unknownFunction (name : String)
  | namedArgument
  | construct (name : String)

/-- The reason in words; an operation without a value has none of its own. -/
def EvalError.reason? : EvalError → Option String
  | .undefined | .outOfMemory => none
  | .literal text => some ("unsupported literal " ++ text)
  | .unknownName name => some ("unknown name '" ++ name ++ "'")
  | .attribute => some "unsupported attribute access"
  | .operator name => some ("unsupported operator " ++ name)
  | .callTarget => some "unsupported call target"
  | .unknownFunction name => some ("unknown function '" ++ name ++ "'")
  | .namedArgument => some "keyword arguments are not supported"
  | .construct name => some ("unsupported syntax " ++ name)

/-- Why a text is no expression with a finite value. -/
inductive ExprError where
  | empty
  | malformed (text : String)
  | notFinite (text : String)
  | noValue (text : String) (cause : EvalError)

/-- The words of an error, which quote the text. -/
def ExprError.message : ExprError → String
  | .empty => "empty expression"
  | .malformed text => "invalid expression " ++ Text.quoted text
  | .notFinite text => Text.quoted text ++ " is not finite"
  | .noValue text cause =>
      "cannot evaluate " ++ Text.quoted text ++
        match cause.reason? with
        | some reason => ": " ++ reason
        | none => ""

/-- Numbers by name. -/
abbrev Constants := List (String × Float)

namespace Literal

/-- A literal as messages quote it. -/
def quoted : Literal → String
  | .int n => Decimal.digitsOf n
  | .float x => Decimal.shortest x
  | .imaginary x =>
      let text := Decimal.shortest x
      (if text.endsWith ".0" then (text.dropEnd 2).toString else text) ++ "j"
  | .text s => Text.quoted s
  | .bytes values => Text.quotedBytes values
  | .truth true => "True"
  | .truth false => "False"
  | .none => "None"
  | .ellipsis => "Ellipsis"

/-- The double that a numeric literal stands for. -/
def eval : Literal → Except EvalError Quantity
  | .int n =>
      match Binary64.ofInt? n with
      | some x => .ok (.real x)
      | Option.none => .error .undefined
  | .float x => .ok (.real x)
  | other => .error (.literal other.quoted)

end Literal

/-- The operation of a binary operator, if expressions may use it. -/
def BinaryOp.operation? : BinaryOp → Option (Quantity → Quantity → Option Quantity)
  | .add => some Quantity.add?
  | .sub => some Quantity.sub?
  | .mul => some Quantity.mul?
  | .div => some Quantity.div?
  | .floorDiv => some Quantity.floorDiv?
  | .mod => some Quantity.mod?
  | .pow => some Quantity.pow?
  | _ => none

/-- The operation of a unary operator, if expressions may use it. -/
def UnaryOp.operation? : UnaryOp → Option (Quantity → Quantity)
  | .plus => some id
  | .minus => some Quantity.neg
  | _ => none

namespace Expr

/-- Whether an expression is the name of the mathematics module. -/
def isModule : Expr → Bool
  | .name id => modules.contains id
  | _ => false

/-- The function that a call's target names. -/
def calledFunction (target : Expr) : Except EvalError Function :=
  let named (name : String) : Except EvalError Function :=
    match function? name with
    | some f => .ok f
    | none => .error (.unknownFunction name)
  match target with
  | .name id => named id
  | .attribute owner field => if owner.isModule then named field else .error .callTarget
  | _ => .error .callTarget

/-- The value that an operation gives. -/
def defined (result : Option Quantity) : Except EvalError Quantity :=
  match result with
  | some value => .ok value
  | none => .error .undefined

/-- A value that there is memory for. -/
def fitting [Host] (value : Quantity) : Except EvalError Quantity :=
  if Host.wholeBits < value.bits then .error .outOfMemory else .ok value

/-- The value of a binary operation. A power is not begun where its digits do not fit. -/
def combined [Host] (operator : BinaryOp) (operation : Quantity → Quantity → Option Quantity)
    (a b : Quantity) : Except EvalError Quantity :=
  if operator == .pow && Host.wholeBits < a.powBits b then .error .outOfMemory
  else do fitting (← defined (operation a b))

/-- How deeply operations and calls may be nested. -/
def nestingLimit : Nat := 985

mutual

/-- The value of an expression, with `room` for that many levels of nesting. An operator or a
function is looked up before its operands are evaluated, from left to right. -/
def eval [Host] (constants : Constants) (room : Nat) (expr : Expr) : Except EvalError Quantity :=
  if room == 0 then .error .undefined
  else
    match expr with
    | .literal value => value.eval
    | .name id =>
        match Entries.get? constants id with
        | some value => .ok (.real value)
        | none => .error (.unknownName id)
    | .attribute target field =>
        match if target.isModule then Entries.get? moduleConstants field else none with
        | some value => .ok (.real value)
        | none => .error .attribute
    | .binary operator left right =>
        match operator.operation? with
        | some operation => do
            let a ← eval constants (room - 1) left
            let b ← eval constants (room - 1) right
            combined operator operation a b
        | none => .error (.operator operator.name)
    | .unary operator operand =>
        match operator.operation? with
        | some operation => return operation (← eval constants (room - 1) operand)
        | none => .error (.operator operator.name)
    | .call target arguments named => do
        let function ← calledFunction target
        if named then throw .namedArgument
        defined (function (← evalAll constants (room - 2) arguments))
    | other => .error (.construct other.constructName)

/-- The values of expressions, from left to right. -/
def evalAll [Host] (constants : Constants) (room : Nat) :
    List Expr → Except EvalError (List Quantity)
  | [] => .ok []
  | expr :: rest => do
      let value ← eval constants room expr
      return value :: (← evalAll constants room rest)

end

/-- Whether a character may stand in a name after a backslash. -/
def isLetter (c : Char) : Bool :=
  c.toNat < 128 && c.isAlpha

/-- Without the backslashes that mark names. -/
def withoutMarks : List Char → List Char
  | [] => []
  | c :: rest =>
      if c == '\\' && (rest.head?.map isLetter).getD false then withoutMarks rest
      else c :: withoutMarks rest

/-- The source of an expression in a text, in which names are not marked. -/
def source (text : String) : String :=
  Text.trim (String.ofList (withoutMarks text.toList))

/-- The value of an expression in a text, which is a finite double. -/
def valueOf [Host] (constants : Constants) (text : String) (expr : Expr) :
    Except Fault (Except ExprError Float) :=
  match eval constants nestingLimit expr with
  | .error .outOfMemory => .error .outOfMemory
  | .error cause => .ok (.error (.noValue text cause))
  | .ok value =>
      match value.toFloat? with
      | none => .ok (.error (.noValue text .undefined))
      | some x => .ok (if x.isFinite then .ok x else .error (.notFinite text))

/-- The value of an expression's text. -/
def evaluate [Host] (constants : Constants) (text : String) :
    Except Fault (Except ExprError Float) :=
  if (source text).isEmpty then .ok (.error .empty)
  else
    match Host.breakdown? (source text) with
    | some .outOfMemory => .error .outOfMemory
    | some .tooDeep => .ok (.error (.malformed text))
    | none =>
        match parse? (source text) with
        | none => .ok (.error (.malformed text))
        | some expr => valueOf constants text expr

end Expr

end SignalFlow
