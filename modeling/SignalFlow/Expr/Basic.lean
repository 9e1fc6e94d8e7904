/-! # Expressions

The tree of an arithmetic expression (`Expr`). The grammar also has constructs that no expression
of a diagram may use, such as comparisons or comprehensions. They are read, so that a well-formed
text is told from a malformed one, and are kept by name only (`Expr.construct`).
-/

namespace SignalFlow

/-- A literal as it stands in an expression. -/
inductive Literal where
  | int (value : Nat)
  | float (value : Float)
  | imaginary (value : Float)
  | text (value : String)
  | bytes (value : List Nat)
  | truth (value : Bool)
  | none
  | ellipsis

/-- The operators between two operands. -/
inductive BinaryOp where
  | add | sub | mul | div | floorDiv | mod | pow
  | matMult | bitAnd | bitOr | bitXor | shiftLeft | shiftRight
deriving DecidableEq

/-- The operators before one operand. -/
inductive UnaryOp where
  | plus | minus | invert | not
deriving DecidableEq

/-- The name of an operator in messages. -/
def BinaryOp.name : BinaryOp → String
  | .add => "Add"
  | .sub => "Sub"
  | .mul => "Mult"
  | .div => "Div"
  | .floorDiv => "FloorDiv"
  | .mod => "Mod"
  | .pow => "Pow"
  | .matMult => "MatMult"
  | .bitAnd => "BitAnd"
  | .bitOr => "BitOr"
  | .bitXor => "BitXor"
  | .shiftLeft => "LShift"
  | .shiftRight => "RShift"

/-- The name of an operator in messages. -/
def UnaryOp.name : UnaryOp → String
  | .plus => "UAdd"
  | .minus => "USub"
  | .invert => "Invert"
  | .not => "Not"

/-- An expression. -/
inductive Expr where
  | literal (value : Literal)
  | name (id : String)
  | attribute (target : Expr) (field : String)
  | binary (operator : BinaryOp) (left right : Expr)
  | unary (operator : UnaryOp) (operand : Expr)
  /-- A call; `named` tells whether any argument is given by name. -/
  | call (function : Expr) (arguments : List Expr) (named : Bool)
  /-- A tuple or a list of items. -/
  | sequence (label : String) (items : List Expr)
  /-- An item that stands for all the items of a sequence. -/
  | starred (items : Expr)
  /-- Any other construct, by its name in messages. -/
  | construct (label : String)

/-- The name of a construct in messages. -/
def Expr.constructName : Expr → String
  | .literal _ => "Constant"
  | .name .. => "Name"
  | .attribute .. => "Attribute"
  | .binary .. => "BinOp"
  | .unary .. => "UnaryOp"
  | .call .. => "Call"
  | .sequence label _ => label
  | .starred _ => "Starred"
  | .construct label => label

mutual

/-- Whether a value can be assigned to an expression: to a name, an attribute, an item, or a
sequence of such targets. -/
def Expr.isTarget : Expr → Bool
  | .name .. => true
  | .attribute .. => true
  | .sequence _ items => areTargets items
  | .starred target => target.isTarget
  | .construct label => label == "Subscript"
  | _ => false

/-- Whether a value can be assigned to each of the items of a sequence. -/
def Expr.areTargets : List Expr → Bool
  | [] => true
  | item :: rest => item.isTarget && areTargets rest

end

end SignalFlow
