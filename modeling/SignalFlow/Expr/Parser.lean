import SignalFlow.Expr.Token
import SignalFlow.Expr.Escape
import SignalFlow.Text.Lines

/-! # Parsing expressions

A recursive-descent parser over tokens. The grammar's levels are ordinary definitions over the
parsers of the constructs that expressions nest (`Goal`); `Parser.solve` ties the knot with fuel,
one unit for each level of nesting, of which a text of `n` tokens has no more than `levels * n`.

A node (`Placed`) keeps the place of its text. Parentheses around an expression do not belong to it,
but they do belong to the expressions it is part of.
-/

namespace SignalFlow

/-- The tokens still to be read and the place where the last one read ended. -/
structure Cursor where
  rest : List Token
  stop : Nat

/-- A parser either fails or reads some tokens. -/
abbrev Parser := StateT Cursor Option

/-- An expression and the place of its text. -/
structure Placed where
  expr : Expr
  first : Nat
  stop : Nat

/-- The constructs that expressions nest. -/
inductive Goal where
  | expression | named | starNamed | starExpressions | disjunction | inversion | bitOr | factor

/-- The parsers of nested constructs. -/
structure Nested where
  node : Goal → Parser Placed
  /-- Whether a text between the braces of a format is an expression. -/
  field : List Char → Bool

namespace Parser

variable {α : Type}

/-- The next token, without reading it. -/
def peek? : Parser (Option Token) := do
  return (← get).rest.head?

/-- The place where the next token starts. -/
def here : Parser Nat := do
  match ← peek? with
  | some token => return token.first
  | none => failure

/-- The place where the last token read ended. -/
def passed : Parser Nat := do
  return (← get).stop

/-- Reads the next token if a test accepts it. -/
def token (accept : Lexeme → Option α) : Parser α := do
  match (← get).rest with
  | next :: rest =>
      match accept next.lexeme with
      | some found =>
          set (⟨rest, next.stop⟩ : Cursor)
          return found
      | none => failure
  | [] => failure

/-- Reads the given operator. -/
def operator (text : String) : Parser Unit :=
  token fun
    | .operator found => if found == text then some () else none
    | _ => none

/-- Reads the given keyword. -/
def keyword (text : String) : Parser Unit :=
  token fun
    | .keyword found => if found == text then some () else none
    | _ => none

/-- Reads a name. -/
def name : Parser String :=
  token fun
    | .name found => some found
    | _ => none

/-- Whether a parser succeeds; if it fails nothing is read. -/
def optional? (p : Parser Unit) : Parser Bool :=
  (p *> pure true) <|> pure false

/-- Whether the next token is the given operator. -/
def sees (text : String) : Parser Bool := do
  match ← peek? with
  | some ⟨.operator found, _, _, _⟩ => return found == text
  | _ => return false

/-- Whether the next token is the given keyword. -/
def seesKeyword (text : String) : Parser Bool := do
  match ← peek? with
  | some ⟨.keyword found, _, _, _⟩ => return found == text
  | _ => return false

/-- Whether a name and the given operator come next. -/
def seesNameAnd (text : String) : Parser Bool := do
  match (← get).rest with
  | ⟨.name _, _, _, _⟩ :: ⟨.operator found, _, _, _⟩ :: _ => return found == text
  | _ => return false

/-- Repeats a parser as long as it succeeds, at most a number of times. -/
def manyUpTo (p : Parser α) : Nat → Parser (List α)
  | 0 => pure []
  | count + 1 => (do
      let first ← p
      let rest ← manyUpTo p count
      return first :: rest) <|> pure []

/-- Repeats a parser that reads at least one token as long as it succeeds. -/
def many (p : Parser α) : Parser (List α) := do
  manyUpTo p (← get).rest.length

/-- A node from a starting place to the last token read. -/
def node (first : Nat) (expr : Expr) : Parser Placed := do
  return ⟨expr, first, ← passed⟩

/-- Operands joined by operators of one level, grouped from the left. -/
def chain (operators : List (String × BinaryOp)) (operand : Parser Placed) : Parser Placed := do
  let first ← here
  let left ← operand
  let parts ← many (do
    let op ← token fun
      | .operator found => (operators.find? (·.1 == found)).map (·.2)
      | _ => none
    let right ← operand
    return (op, right.expr, ← passed))
  return parts.foldl (fun left (op, right, stop) => ⟨.binary op left.expr right, first, stop⟩) left

/-- The levels of binary operators, loosest first. -/
def binaryLevels : List (List (String × BinaryOp)) :=
  [[("|", .bitOr)], [("^", .bitXor)], [("&", .bitAnd)],
   [("<<", .shiftLeft), (">>", .shiftRight)], [("+", .add), ("-", .sub)],
   [("*", .mul), ("/", .div), ("//", .floorDiv), ("%", .mod), ("@", .matMult)]]

/-- All levels of binary operators over an operand. -/
def binary (operand : Parser Placed) : List (List (String × BinaryOp)) → Parser Placed
  | [] => operand
  | level :: tighter => chain level (binary operand tighter)

/-- One item, or several with commas between them, or after the last, as a tuple. -/
def tupleOf (item : Parser Placed) : Parser Placed := do
  let first ← here
  let head ← item
  let tail ← many (operator "," *> item)
  let comma ← optional? (operator ",")
  if tail.isEmpty && !comma then return head
  else node first (.sequence "Tuple" ((head :: tail).map (·.expr)))

/-- One or more items with commas between them, or after the last. -/
def items (item : Parser Placed) : Parser (List Placed) := do
  let head ← item
  let tail ← many (operator "," *> item)
  let _ ← optional? (operator ",")
  return head :: tail

section Levels

variable (self : Nested)

/-- `yield` with its values. -/
def yields : Parser Placed := do
  let first ← here
  keyword "yield"
  if ← optional? (keyword "from") then
    let _ ← self.node .expression
    node first (.construct "YieldFrom")
  else
    let _ ← (self.node .starExpressions *> pure ()) <|> pure ()
    node first (.construct "Yield")

/-- The targets of a loop. -/
def targets : Parser Placed := do
  let found ← tupleOf (do
    let first ← here
    if ← optional? (operator "*") then
      let target ← self.node .factor
      node first (.starred target.expr)
    else self.node .factor)
  if found.expr.isTarget then return found else failure

/-- The clauses of a comprehension. -/
def clauses : Parser Unit := do
  let clause : Parser Unit := do
    let _ ← optional? (keyword "async")
    keyword "for"
    let _ ← targets self
    keyword "in"
    let _ ← self.node .disjunction
    let _ ← many (keyword "if" *> self.node .disjunction)
  clause
  let _ ← many clause

/-- Whether the clauses of a comprehension come next. -/
def seesClauses : Parser Bool := do
  return (← seesKeyword "for") || (← seesKeyword "async")

/-- What stands in parentheses: nothing, a generator, a tuple, or one expression, which stands for
itself. -/
def parenthesized : Parser Placed := do
  let first ← here
  operator "("
  if ← optional? (operator ")") then node first (.sequence "Tuple" [])
  else if ← seesKeyword "yield" then
    let inner ← yields self
    operator ")"
    return inner
  else
    let head ← self.node .starNamed
    let starred := match head.expr with
      | .starred _ => true
      | _ => false
    if !starred && (← seesClauses) then
      clauses self
      operator ")"
      node first (.construct "GeneratorExp")
    else if ← optional? (operator ",") then
      let tail ← (items (self.node .starNamed)) <|> pure []
      operator ")"
      node first (.sequence "Tuple" ((head :: tail).map (·.expr)))
    else
      operator ")"
      if starred then failure else return head

/-- What stands in square brackets. -/
def bracketed : Parser Placed := do
  let first ← here
  operator "["
  if ← optional? (operator "]") then node first (.sequence "List" [])
  else
    let head ← self.node .starNamed
    let starred := match head.expr with
      | .starred _ => true
      | _ => false
    if !starred && (← seesClauses) then
      clauses self
      operator "]"
      node first (.construct "ListComp")
    else
      let tail ← many (operator "," *> self.node .starNamed)
      let _ ← optional? (operator ",")
      operator "]"
      node first (.sequence "List" ((head :: tail).map (·.expr)))

/-- One entry of a mapping. -/
def entry : Parser Unit := do
  if ← optional? (operator "**") then
    let _ ← self.node .bitOr
  else
    let _ ← self.node .expression
    operator ":"
    let _ ← self.node .expression

/-- What stands in braces: a mapping or a set, or a comprehension of either. -/
def braced : Parser Placed := do
  let first ← here
  operator "\x7b"
  let finish (label : String) : Parser Placed := do
    operator "\x7d"
    node first (.construct label)
  if ← sees "\x7d" then finish "Dict"
  else if ← optional? (operator "**") then
    let _ ← self.node .bitOr
    let _ ← many (operator "," *> entry self)
    let _ ← optional? (operator ",")
    finish "Dict"
  else
    let assigned ← seesNameAnd ":="
    let head ← self.node .starNamed
    let starred := match head.expr with
      | .starred _ => true
      | _ => false
    if !starred && !assigned && (← sees ":") then
      operator ":"
      let _ ← self.node .expression
      if ← seesClauses then
        clauses self
        finish "DictComp"
      else
        let _ ← many (operator "," *> entry self)
        let _ ← optional? (operator ",")
        finish "Dict"
    else if !starred && (← seesClauses) then
      clauses self
      finish "SetComp"
    else
      let _ ← many (operator "," *> self.node .starNamed)
      let _ ← optional? (operator ",")
      finish "Set"

/-- The text between two places of a format field up to its end: brackets and quotes are paired,
and a comparison does not end it. -/
def fieldText : Nat → List Char → Option (Char × Nat) → List Char → Option (List Char × List Char)
  | 0, _, _, _ => none
  | _ + 1, _, _, [] => none
  | fuel + 1, open_, quote, c :: rest =>
      let keep (count : Nat) (open_ : List Char) (quote : Option (Char × Nat)) :=
        (fieldText fuel open_ quote (rest.drop (count - 1))).map fun (text, left) =>
          ((c :: rest).take count ++ text, left)
      if c == '\\' then none
      else
        match quote with
        | some (q, count) =>
            if c == q && count == 1 then keep 1 open_ none
            else if c == q && [q, q].isPrefixOf rest then keep 3 open_ none
            else keep 1 open_ quote
        | none =>
            if c == '\'' || c == '"' then
              if [c, c].isPrefixOf rest then keep 3 open_ (some (c, 3))
              else keep 1 open_ (some (c, 1))
            else
              match Token.closing? c with
              | some closer => keep 1 (closer :: open_) none
              | none =>
                  if c == '#' then none
                  else if open_.isEmpty && (c == '!' || c == ':' || c == '\x7d' || c == '=' ||
                      c == '<' || c == '>') then
                    if rest.head? == some '=' && (c == '!' || c == '=' || c == '<' || c == '>') then
                      keep 2 open_ none
                    else if c == '<' || c == '>' then keep 1 open_ none
                    else some ([], c :: rest)
                  else if c == ')' || c == ']' || c == '\x7d' then
                    match open_ with
                    | closer :: open_ => if closer == c then keep 1 open_ none else none
                    | [] => none
                  else keep 1 open_ none

/-- Whether the texts and fields of a format are well formed up to its end, or up to the brace that
closes the field whose layout it is. Returns what follows. -/
def format : Nat → Nat → List Char → Option (List Char)
  | 0, _, _ => none
  | _ + 1, _, [] => some []
  | fuel + 1, depth, c :: rest =>
      if c == '\x7b' then
        if depth == 0 && rest.head? == some '\x7b' then format fuel depth (rest.drop 1)
        else if 2 ≤ depth then none
        else do
          let (text, left) ← fieldText (rest.length + 1) [] none rest
          if text.all Text.isBlank || !self.field text then none
          else
            let left := match left with
              | '=' :: more => more.dropWhile Number.isAsciiBlank
              | _ => left
            let left ← match left with
              | '!' :: kind :: more =>
                  if kind == 's' || kind == 'r' || kind == 'a' then some more else none
              | '!' :: [] => none
              | _ => some left
            match left with
            | '\x7d' :: more => format fuel depth more
            | ':' :: spec =>
                match ← format fuel (depth + 1) spec with
                | '\x7d' :: more => format fuel depth more
                | _ => none
            | _ => none
      else if c == '\x7d' then
        if depth == 0 then
          if rest.head? == some '\x7d' then format fuel depth (rest.drop 1) else none
        else some (c :: rest)
      else format fuel depth rest

/-- One quoted text: a literal, or `none` for a format. -/
def quotedPart (letters body : List Char) : Parser (Option Literal) := do
  let letters := letters.map Char.toLower
  let raw := letters.contains 'r'
  if letters.contains 'b' then
    if raw then
      if body.all (·.toNat < 128) then return some (.bytes (body.map (·.toNat))) else failure
    else match Escape.bytes? body with
      | some bytes => return some (.bytes bytes)
      | none => failure
  else if !raw && (Escape.text? body).isNone then failure
  else if letters.contains 'f' then
    match format self (2 * body.length + 2) 0 body with
    | some [] => return none
    | _ => failure
  else
    let text := if raw then body else (Escape.text? body).getD body
    return some (.text (String.ofList text))

/-- Joins quoted texts that follow each other; bytes join only bytes. -/
def joinQuoted : List (Option Literal) → Option Expr
  | [] => none
  | parts =>
      let texts := parts.filterMap fun
        | some (.text s) => some s
        | _ => none
      let bytes := parts.filterMap fun
        | some (.bytes bs) => some bs
        | _ => none
      if bytes.length == parts.length then some (.literal (.bytes bytes.flatten))
      else if !bytes.isEmpty then none
      else if texts.length == parts.length then some (.literal (.text (String.join texts)))
      else some (.construct "JoinedStr")

/-- Names, literals and what stands in brackets. -/
def atom : Parser Placed := do
  let first ← here
  match ← peek? with
  | some ⟨.operator "(", _, _, _⟩ => parenthesized self
  | some ⟨.operator "[", _, _, _⟩ => bracketed self
  | some ⟨.operator "\x7b", _, _, _⟩ => braced self
  | some ⟨.operator "...", _, _, _⟩ =>
      operator "..."
      node first (.literal .ellipsis)
  | some ⟨.quoted .., _, _, _⟩ =>
      let parts ← many (do
        let (letters, body) ← token fun
          | .quoted letters body => some (letters, body)
          | _ => none
        quotedPart self letters body)
      match ← peek?, joinQuoted parts with
      | some ⟨.quoted .., _, _, _⟩, _ => failure
      | _, some expr => node first expr
      | _, none => failure
  | _ =>
      let expr ← token fun
        | .name id => some (.name id)
        | .number value => some (.literal value)
        | .keyword "True" => some (.literal (.truth true))
        | .keyword "False" => some (.literal (.truth false))
        | .keyword "None" => some (.literal .none)
        | _ => none
      node first expr

/-- Which arguments may still follow in a call. -/
inductive ArgumentStage where
  | any | named | mapped
deriving DecidableEq

/-- One argument of a call: its value if it has no name, and what may follow it. -/
def argument (stage : ArgumentStage) : Parser (Option Expr × ArgumentStage) := do
  let first ← here
  if ← optional? (operator "**") then
    let _ ← self.node .expression
    return (none, .mapped)
  else if ← optional? (operator "*") then
    if stage == .mapped then failure
    let value ← self.node .expression
    let starred ← node first (.starred value.expr)
    return (some starred.expr, stage)
  else if ← seesNameAnd "=" then
    let _ ← name
    operator "="
    let _ ← self.node .expression
    return (none, if stage == .mapped then .mapped else .named)
  else
    if stage != .any then failure
    let value ← self.node .named
    return (some value.expr, .any)

/-- Further arguments of a call after the first. -/
def moreArguments : Nat → ArgumentStage → Parser (List (Option Expr))
  | 0, _ => pure []
  | fuel + 1, stage => (do
      operator ","
      let (value, stage) ← argument self stage
      let rest ← moreArguments fuel stage
      return value :: rest) <|> pure []

/-- The arguments of a call in parentheses: those without a name, and whether any has one. A
generator may stand alone among them where `alone` says so. -/
def arguments (alone : Bool) : Parser (List Expr × Bool) := do
  operator "("
  if ← optional? (operator ")") then return ([], false)
  else
    let (head, stage) ← argument self .any
    let plain := match head with
      | some (.starred _) => false
      | some _ => true
      | none => false
    if alone && plain && (← seesClauses) then
      clauses self
      operator ")"
      return ([.construct "GeneratorExp"], false)
    else
      let tail ← moreArguments self (← get).rest.length stage
      let _ ← optional? (operator ",")
      operator ")"
      let values := (head :: tail).filterMap id
      return (values, values.length != (head :: tail).length)

/-- One item between the square brackets of a subscript. -/
def slice : Parser Unit := do
  let bound : Parser Unit := (self.node .expression *> pure ()) <|> pure ()
  let rest : Parser Unit := do
    bound
    if ← optional? (operator ":") then bound
  if ← optional? (operator ":") then rest
  else if ← optional? (operator "*") then
    let _ ← self.node .expression
  else
    let assigned ← seesNameAnd ":="
    let _ ← self.node .named
    if !assigned && (← sees ":") then operator ":" *> rest

/-- What may follow a primary expression, as a change of it. -/
def trailer : Parser (Expr → Expr) := do
  if ← optional? (operator ".") then
    let field ← name
    return fun target => .attribute target field
  else if ← sees "(" then
    let (values, named) ← arguments self true
    return fun function => .call function values named
  else
    operator "["
    slice self
    let _ ← many (operator "," *> slice self)
    let _ ← optional? (operator ",")
    operator "]"
    return fun _ => .construct "Subscript"

/-- An atom with its attributes, calls and subscripts. -/
def primary : Parser Placed := do
  let first ← here
  let base ← atom self
  let trailers ← many (do
    let change ← trailer self
    return (change, ← passed))
  return trailers.foldl (fun base (change, stop) => ⟨change base.expr, first, stop⟩) base

/-- A primary expression, possibly awaited, possibly raised to a power. -/
def power : Parser Placed := do
  let first ← here
  let base ←
    if ← optional? (keyword "await") then
      let _ ← primary self
      node first (.construct "Await")
    else primary self
  if ← optional? (operator "**") then
    let exponent ← self.node .factor
    node first (.binary .pow base.expr exponent.expr)
  else return base

/-- Signs before a power. -/
def factor : Parser Placed := do
  let first ← here
  let sign ← (some <$> token fun
    | .operator "+" => some UnaryOp.plus
    | .operator "-" => some UnaryOp.minus
    | .operator "~" => some UnaryOp.invert
    | _ => none) <|> pure none
  match sign with
  | some op =>
      let operand ← self.node .factor
      node first (.unary op operand.expr)
  | none => power self

/-- Binary operators. -/
def bitOr : Parser Placed :=
  binary (factor self) binaryLevels

/-- A comparison operator. -/
def comparisonOp : Parser Unit :=
  (token fun
    | .operator found =>
        if ["==", "!=", "<=", ">=", "<", ">"].contains found then some () else none
    | _ => none) <|>
  (keyword "not" *> keyword "in") <|> keyword "in" <|>
  (keyword "is" *> (optional? (keyword "not") *> pure ()))

/-- Operands with comparisons between them. -/
def comparison : Parser Placed := do
  let first ← here
  let left ← bitOr self
  let more ← many (comparisonOp *> bitOr self)
  if more.isEmpty then return left else node first (.construct "Compare")

/-- A comparison, possibly negated. -/
def inversion : Parser Placed := do
  let first ← here
  if ← optional? (keyword "not") then
    let operand ← self.node .inversion
    node first (.unary .not operand.expr)
  else comparison self

/-- Conditions with a keyword between them. -/
def conditions (word : String) (condition : Parser Placed) : Parser Placed := do
  let first ← here
  let left ← condition
  let more ← many (keyword word *> condition)
  if more.isEmpty then return left else node first (.construct "BoolOp")

/-- Conditions joined by `or`, which binds less than `and`. -/
def disjunction : Parser Placed :=
  conditions "or" (conditions "and" (inversion self))

/-- What a list of parameters may still hold. -/
structure ParameterStage where
  /-- A parameter has been given. -/
  some? : Bool := false
  /-- The mark of positional parameters has been passed. -/
  slash : Bool := false
  /-- A parameter had a default value. -/
  default? : Bool := false
  /-- The mark of named parameters has been passed. -/
  star : Bool := false
  /-- The mark stood alone and a named parameter must follow. -/
  bare : Bool := false
  /-- The parameter for all other names has been given. -/
  mapped : Bool := false

/-- One parameter of a function, with its annotation if it may have one. -/
def parameter (annotated : Bool) (stage : ParameterStage) : Parser ParameterStage := do
  let annotation (starred : Bool) : Parser Unit := do
    if annotated then
      if ← optional? (operator ":") then
        if starred && (← sees "*") then
          operator "*"
          let _ ← self.node .bitOr
        else
          let _ ← self.node .expression
  if stage.mapped then failure
  else if ← optional? (operator "**") then
    if stage.bare then failure
    let _ ← name
    annotation false
    return { stage with mapped := true }
  else if ← optional? (operator "*") then
    if stage.star then failure
    if (← sees ",") then return { stage with star := true, bare := true }
    else
      let _ ← name
      annotation true
      return { stage with star := true }
  else if ← optional? (operator "/") then
    if stage.slash || stage.star || !stage.some? then failure
    return { stage with slash := true }
  else
    let _ ← name
    annotation false
    if ← optional? (operator "=") then
      let _ ← self.node .expression
      return { stage with some? := true, default? := true, bare := false }
    else
      if stage.default? && !stage.star then failure
      return { stage with some? := true, bare := false }

/-- Parameters after the first. -/
def moreParameters (annotated : Bool) : Nat → ParameterStage → Parser ParameterStage
  | 0, stage => pure stage
  | fuel + 1, stage => (do
      operator ","
      let stage ← parameter self annotated stage
      moreParameters annotated fuel stage) <|> pure stage

/-- The parameters of a function, if any. -/
def parameters (annotated : Bool) : Parser Unit := (do
    let stage ← parameter self annotated {}
    let stage ← moreParameters self annotated (← get).rest.length stage
    let _ ← optional? (operator ",")
    if stage.bare then failure) <|> pure ()

/-- A function without a name. -/
def lambda : Parser Placed := do
  let first ← here
  keyword "lambda"
  parameters self false
  operator ":"
  let _ ← self.node .expression
  node first (.construct "Lambda")

/-- A condition, a choice by a condition, or a function without a name. -/
def expression : Parser Placed := do
  if ← seesKeyword "lambda" then lambda self
  else
    let first ← here
    let value ← disjunction self
    if ← optional? (keyword "if") then
      let _ ← disjunction self
      keyword "else"
      let _ ← self.node .expression
      node first (.construct "IfExp")
    else return value

/-- An expression, possibly assigned to a name. -/
def named : Parser Placed := do
  if ← seesNameAnd ":=" then
    let first ← here
    let _ ← name
    operator ":="
    let _ ← self.node .expression
    node first (.construct "NamedExpr")
  else expression self

/-- A value, or a star and the operand that stands for its items. -/
def starOr (value : Parser Placed) : Parser Placed := do
  if ← sees "*" then
    let first ← here
    operator "*"
    let operand ← bitOr self
    node first (.starred operand.expr)
  else value

/-- One or more expressions with commas between them. -/
def starExpressions : Parser Placed :=
  tupleOf (starOr self (expression self))

/-- The parser of each nested construct. -/
def goal : Goal → Parser Placed
  | .expression => expression self
  | .named => named self
  | .starNamed => starOr self (named self)
  | .starExpressions => starExpressions self
  | .disjunction => disjunction self
  | .inversion => inversion self
  | .bitOr => bitOr self
  | .factor => factor self

end Levels

/-- Runs a parser over all the tokens. -/
def whole? (p : Parser α) (tokens : List Token) : Option α :=
  match p.run ⟨tokens, 0⟩ with
  | some (found, ⟨[], _⟩) => some found
  | _ => none

/-- Levels of nesting that one token can open. -/
def levels : Nat := 4

/-- The parsers of nested constructs up to a depth of nesting. -/
def solve : Nat → Nested
  | 0 => ⟨fun _ => failure, fun _ => false⟩
  | depth + 1 => ⟨fun g => goal (solve depth) g, fun text =>
      match Token.scan? ('(' :: text ++ [')']) with
      | some tokens => (whole? (goal (solve depth) .starExpressions) tokens).isSome
      | none => false⟩

end Parser

/-- The expression that a text holds. -/
def Expr.parse? (text : String) : Option Expr := do
  let tokens ← Token.scan? (Text.unifyBreakList text.toList)
  let depth := Parser.levels * text.length + 8
  let found ← Parser.whole? (do
    let found ← Parser.tupleOf (Parser.expression (Parser.solve depth))
    let _ ← Parser.many (Parser.token fun
      | .lineEnd => some ()
      | _ => none)
    return found) tokens
  return found.expr

end SignalFlow
