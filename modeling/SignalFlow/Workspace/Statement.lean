import SignalFlow.Workspace.Pattern

/-! # Statements of a workspace file

A workspace file is a sequence of statements (`Statement.parse?`), of which only the assignments at
its top count. The other statements are recognized, blocks of indented lines and all, so that a file
with a mistake in it is told from one with statements that do not count.
-/

namespace SignalFlow

/-- A statement. -/
inductive Statement where
  /-- The assignment of a value, which stands between two places of the text, to names. Targets that
  are no names are left out. -/
  | assignment (names : List String) (first stop : Nat)
  /-- Any other statement, by its line. -/
  | other (line : Nat)

namespace Statement

open SignalFlow.Parser

section Simple

variable (self : Nested)

/-- The line of the next token. -/
def lineHere : Parser Nat := do
  match ← peek? with
  | some token => return token.line
  | none => failure

/-- Reads an expression. -/
def expression : Parser Unit := self.node .expression *> pure ()

/-- Reads an expression that may be assigned to a name. -/
def named : Parser Unit := self.node .named *> pure ()

/-- Reads expressions with commas between them. -/
def expressions : Parser Unit := self.node .starExpressions *> pure ()

/-- What may be assigned: expressions, or `yield` with its values. -/
def value : Parser Placed := do
  if ← seesKeyword "yield" then yields self else self.node .starExpressions

/-- Whether an expression is a single target: a name, an attribute or an item. -/
def isSingle : Expr → Bool
  | .name _ => true
  | .attribute .. => true
  | .construct label => label == "Subscript"
  | _ => false

/-- The name that an expression is. -/
def nameOf? : Expr → Option String
  | .name name => some name
  | _ => none

/-- The operators that combine a target with a value. -/
def augmented : List String :=
  ["+=", "-=", "*=", "/=", "//=", "%=", "@=", "&=", "|=", "^=", ">>=", "<<=", "**="]

/-- The rest of a statement that starts with an expression: an assignment, an annotation, or
nothing. -/
def afterExpression (line : Nat) (first : Placed) : Parser Statement := do
  if ← sees "=" then
    let values ← many (operator "=" *> value self)
    match values.reverse with
    | last :: others =>
        let targets := first :: others.reverse
        if targets.all (·.expr.isTarget) then
          return .assignment (targets.filterMap (nameOf? ·.expr)) last.first last.stop
        else failure
    | [] => failure
  else if ← optional? (operator ":") then
    if !isSingle first.expr then failure
    expression self
    if ← optional? (operator "=") then
      let _ ← value self
    return .other line
  else
    let augments ← optional? (token fun
      | .operator found => if augmented.contains found then some () else none
      | _ => none)
    if augments then
      if !isSingle first.expr then failure
      let _ ← value self
    return .other line

/-- Names with points between them. -/
def dottedName : Parser Unit := do
  let _ ← name
  let _ ← many (operator "." *> name)

/-- A name that something is known by. -/
def knownAs : Parser Unit := do
  if ← optional? (keyword "as") then
    let _ ← name

/-- What `from` imports. -/
def imported : Parser Unit := do
  let entry : Parser Unit := name *> knownAs
  if ← optional? (operator "*") then pure ()
  else if ← optional? (operator "(") then
    let _ ← Pattern.separated entry
    operator ")"
  else
    entry
    let _ ← many (operator "," *> entry)

/-- The start of an import from a place: points, a name, or both. -/
def importSource : Parser Unit := do
  let points ← many (operator "." <|> operator "...")
  if ← seesKeyword "import" then
    if points.isEmpty then failure
  else dottedName

mutual

/-- Whether an expression can be deleted. -/
def isDeletable : Expr → Bool
  | .sequence _ items => areDeletable items
  | .starred _ => false
  | expr => isSingle expr

/-- Whether all expressions can be deleted. -/
def areDeletable : List Expr → Bool
  | [] => true
  | item :: rest => isDeletable item && areDeletable rest

end

/-- The keywords that start a simple statement, with what follows them. -/
def simpleForms : List (String × Parser Unit) :=
  let names : Parser Unit := do
    let _ ← name
    let _ ← many (operator "," *> name)
  [("pass", pure ()), ("break", pure ()), ("continue", pure ()),
   ("return", optional? (expressions self) *> pure ()),
   ("raise", (do
      expression self
      if ← optional? (keyword "from") then expression self) <|> pure ()),
   ("global", names), ("nonlocal", names),
   ("del", do
      let found ← tupleOf (self.node .factor)
      if !isDeletable found.expr then failure),
   ("assert", do
      expression self
      if ← optional? (operator ",") then expression self),
   ("import", do
      dottedName *> knownAs
      let _ ← many (operator "," *> dottedName *> knownAs)),
   ("from", importSource *> keyword "import" *> imported)]

/-- The rule of the keyword that comes next. -/
def ruleHere? (rules : List (String × Parser Unit)) : Parser (Option (Parser Unit)) := do
  match ← peek? with
  | some ⟨.keyword word, _, _, _⟩ => return (rules.find? (·.1 == word)).map (·.2)
  | _ => return none

/-- A statement without a block. -/
def simple : Parser Statement := do
  let line ← lineHere
  match ← ruleHere? (simpleForms self) with
  | some rule =>
      token fun
        | .keyword _ => some ()
        | _ => none
      rule
      return .other line
  | none => afterExpression self line (← value self)

/-- The end of a line. -/
def lineEnd : Parser Unit :=
  token fun
    | .lineEnd => some ()
    | _ => none

/-- The statements of a line. -/
def simpleLine : Parser (List Statement) := do
  let head ← simple self
  let tail ← many (operator ";" *> simple self)
  let _ ← optional? (operator ";")
  lineEnd
  return head :: tail

end Simple

section Blocks

/-- The parsers of what statements with blocks are made of. -/
structure Inner where
  self : Nested
  /-- The statement of one or more lines, or the statements of one line. -/
  lines : Parser (List Statement)
  /-- The depth to which patterns are nested. -/
  depth : Nat

variable (inner : Inner)

/-- The block of a statement: indented lines, or the rest of the line. -/
def block : Parser Unit := do
  operator ":"
  if ← optional? lineEnd then
    token fun
      | .indent => some ()
      | _ => none
    let _ ← inner.lines
    let _ ← many inner.lines
    token fun
      | .dedent => some ()
      | _ => none
  else
    let _ ← simpleLine inner.self

/-- A block that may follow, under a keyword. -/
def blockUnder (word : String) : Parser Unit := do
  if ← optional? (keyword word) then block inner

/-- Targets of an assignment. -/
def target : Parser Unit := do
  let found ← inner.self.node .factor
  if !found.expr.isTarget then failure

/-- What a `with` statement opens, possibly under a name. -/
def resource : Parser Unit := do
  expression inner.self
  if ← optional? (keyword "as") then
    let _ ← optional? (operator "*")
    target inner

/-- The clauses of a `try` statement that handle errors: all of them of one kind, with a star or
without. -/
def handlers (starred : Bool) : Parser Unit := do
  let handler : Parser Unit := do
    keyword "except"
    if starred then operator "*"
    if starred || !(← sees ":") then
      expression inner.self
      knownAs
    block inner
  handler
  let _ ← many handler

/-- What follows the block of a `try` statement. -/
def afterTry : Parser Unit := do
  if ← seesKeyword "finally" then
    keyword "finally"
    block inner
  else
    handlers inner true <|> handlers inner false
    blockUnder inner "else"
    blockUnder inner "finally"

/-- The rest of a function behind its keyword. -/
def functionRest : Parser Unit := do
  let _ ← name
  operator "("
  parameters inner.self true
  operator ")"
  if ← optional? (operator "->") then expression inner.self
  block inner

/-- The rest of a class behind its keyword. -/
def classRest : Parser Unit := do
  let _ ← name
  if ← sees "(" then
    let _ ← arguments inner.self false
  block inner

/-- The rest of a `for` statement behind its keyword. -/
def loopRest : Parser Unit := do
  let _ ← targets inner.self
  keyword "in"
  expressions inner.self
  block inner
  blockUnder inner "else"

/-- The rest of a `with` statement behind its keyword. -/
def resourceRest : Parser Unit :=
  (do operator "("
      let _ ← Pattern.separated (resource inner)
      operator ")"
      block inner) <|>
  (do resource inner
      let _ ← many (operator "," *> resource inner)
      block inner)

/-- The keywords that start a statement with blocks, with what follows them. -/
def compoundForms : List (String × Parser Unit) :=
  [("if", do
      named inner.self
      block inner
      let _ ← many (keyword "elif" *> named inner.self *> block inner)
      blockUnder inner "else"),
   ("while", do
      named inner.self
      block inner
      blockUnder inner "else"),
   ("for", loopRest inner),
   ("try", block inner *> afterTry inner),
   ("with", resourceRest inner),
   ("def", functionRest inner),
   ("class", classRest inner),
   ("async", (keyword "def" *> functionRest inner) <|> (keyword "for" *> loopRest inner) <|>
      (keyword "with" *> resourceRest inner))]

/-- Reads a given name. -/
def word (text : String) : Parser Unit :=
  token fun
    | .name found => if found == text then some () else none
    | _ => none

/-- A `match` statement. Its word and that of a case are names elsewhere. -/
def matching : Parser Unit := do
  let quoted : Parser Unit := do
    match ← peek? with
    | some ⟨.quoted .., _, _, _⟩ =>
        let _ ← atom inner.self
    | _ => failure
  word "match"
  let subject ← tupleOf (inner.self.node .starNamed)
  match subject.expr with
  | .starred _ => failure
  | _ => pure ()
  operator ":"
  lineEnd
  token fun
    | .indent => some ()
    | _ => none
  let branch : Parser Unit := do
    word "case"
    Pattern.patterns quoted inner.depth
    if ← optional? (keyword "if") then named inner.self
    block inner
  branch
  let _ ← many branch
  token fun
    | .dedent => some ()
    | _ => none

/-- The lines before a function or class that change it. -/
def decorators : Parser Bool := do
  let found ← many (operator "@" *> named inner.self *> lineEnd)
  return !found.isEmpty

/-- A statement with blocks. One with decorators is known by the line behind them. -/
def compound : Parser Statement := do
  let decorated ← decorators inner
  let line ← lineHere
  if ← seesNameAndMore then
    matching inner
    return .other line
  match ← ruleHere? (compoundForms inner) with
  | some rule =>
      if decorated && !(← definesSomething) then failure
      token fun
        | .keyword _ => some ()
        | _ => none
      rule
      return .other line
  | none => failure
where
  /-- Whether a name comes next. -/
  seesNameAndMore : Parser Bool := do
    match ← peek? with
    | some ⟨.name _, _, _, _⟩ => return true
    | _ => return false
  /-- Whether a function or a class comes next. -/
  definesSomething : Parser Bool := do
    match (← get).rest with
    | ⟨.keyword "async", _, _, _⟩ :: ⟨.keyword "def", _, _, _⟩ :: _ => return true
    | ⟨.keyword found, _, _, _⟩ :: _ => return found == "def" || found == "class"
    | _ => return false

/-- The statement of one or more lines, or the statements of one line. -/
def linesOf : Parser (List Statement) :=
  (do return [← compound inner]) <|> simpleLine inner.self

end Blocks

/-- The statements of some lines, with blocks inside one another up to a depth. -/
def linesTo (self : Nested) (patternDepth : Nat) : Nat → Parser (List Statement)
  | 0 => simpleLine self
  | depth + 1 => linesOf ⟨self, linesTo self patternDepth depth, patternDepth⟩

/-- The statements of a text. -/
def parse? (text : List Char) : Option (List Statement) := do
  let tokens ← Token.scan? (if text.getLast? == some '\n' then text else text ++ ['\n'])
  let depth := levels * text.length + 8
  let self := Parser.solve depth
  let found ← Parser.whole? (many (linesTo self (text.length + 1) Token.indentLimit)) tokens
  return found.flatten

end Statement

end SignalFlow
