import SignalFlow.Expr.Parser

/-! # Patterns

The patterns by which a `match` statement of a workspace file tells its cases apart. Nothing in them
counts for the variables of the file, so they are only recognized. `Pattern.patternTo` recognizes
patterns nested up to a depth.
-/

namespace SignalFlow.Pattern

open SignalFlow.Parser

/-- The parsers of patterns inside patterns. -/
structure Parts where
  /-- A pattern. -/
  whole : Parser Unit
  /-- A literal text. -/
  text : Parser Unit

/-- Reads some items with commas between them; tells whether one comma follows the last. -/
def separated (item : Parser Unit) : Parser Bool := do
  item
  let _ ← many (operator "," *> item)
  optional? (operator ",")

/-- Whether what follows keeps a name from being a pattern of its own. -/
def seesQualifier : Parser Bool := do
  return (← sees ".") || (← sees "(") || (← sees "=")

/-- A name that a value is bound to. -/
def capture : Parser Unit := do
  let bound ← name
  if bound == "_" || (← seesQualifier) then failure

/-- A pattern that fits all values. -/
def wildcard : Parser Unit :=
  token fun
    | .name found => if found == "_" then some () else none
    | _ => none

/-- A name with at least some names after points. -/
def dotted (atLeast : Nat) : Parser Unit := do
  let _ ← name
  let fields ← many (operator "." *> name)
  if fields.length < atLeast then failure

/-- A number, real or imaginary. -/
def number (imaginary : Bool) : Parser Unit :=
  token fun
    | .number (.imaginary _) => if imaginary then some () else none
    | .number _ => if imaginary then none else some ()
    | _ => none

/-- A number with an optional minus, or a complex number as a sum. -/
def signedNumber : Parser Unit := do
  let _ ← optional? (operator "-")
  if ← optional? (number true) then pure ()
  else
    number false
    let _ ← optional? ((operator "+" <|> operator "-") *> number true)
  if (← sees "+") || (← sees "-") then failure

/-- A literal. -/
def literal (parts : Parts) : Parser Unit :=
  signedNumber <|> parts.text <|> keyword "None" <|> keyword "True" <|> keyword "False"

/-- A name for the items of a sequence that no other pattern takes. -/
def starred : Parser Unit :=
  operator "*" *> (capture <|> wildcard)

/-- An item of a sequence. -/
def item (parts : Parts) : Parser Unit := starred <|> parts.whole

/-- A sequence without brackets: one item with a comma, or several. -/
def openSequence (parts : Parts) : Parser Unit := do
  item parts
  operator ","
  let _ ← optional? (do let _ ← separated (item parts))

/-- What stands in parentheses: a pattern or a sequence. -/
def parenthesized (parts : Parts) : Parser Unit := do
  operator "("
  if ← optional? (openSequence parts *> operator ")") then pure ()
  else if ← optional? (operator ")") then pure ()
  else parts.whole *> operator ")"

/-- A sequence in square brackets. -/
def bracketed (parts : Parts) : Parser Unit := do
  operator "["
  let _ ← optional? (do let _ ← separated (item parts))
  operator "]"

/-- An entry of a mapping. -/
def entry (parts : Parts) : Parser Unit :=
  (literal parts <|> dotted 1) *> operator ":" *> parts.whole

/-- A mapping; a name for its other entries comes last. -/
def mapping (parts : Parts) : Parser Unit := do
  operator "\x7b"
  let others : Parser Unit := do
    operator "**" *> capture
    let _ ← optional? (operator ",")
  if ← optional? (operator "\x7d") then pure ()
  else if ← optional? (others *> operator "\x7d") then pure ()
  else
    entry parts
    let _ ← many (operator "," *> entry parts)
    if ← optional? (operator ",") then
      let _ ← optional? others
    operator "\x7d"

/-- The patterns of a class: those without a name come first. -/
def fields (parts : Parts) : Parser Unit := do
  operator "("
  if ← optional? (operator ")") then pure ()
  else
    let named : Parser Unit := do
      let _ ← name
      operator "="
      parts.whole
    let positional : Parser Unit := do
      if ← seesNameAnd "=" then failure
      parts.whole
    if ← seesNameAnd "=" then
      let _ ← separated named
    else
      positional
      let _ ← many (operator "," *> positional)
      let _ ← many (operator "," *> named)
      let _ ← optional? (operator ",")
    operator ")"

/-- A pattern that is no alternative of others. -/
def closed (parts : Parts) : Parser Unit :=
  literal parts <|> capture <|>
    (wildcard *> do if ← seesQualifier then failure) <|>
    (dotted 1 *> do if ← seesQualifier then failure) <|>
    (dotted 0 *> fields parts) <|>
    parenthesized parts <|> bracketed parts <|> mapping parts

/-- A pattern: alternatives, possibly bound to a name. -/
def pattern (parts : Parts) : Parser Unit := do
  closed parts
  let _ ← many (operator "|" *> closed parts)
  if ← optional? (keyword "as") then capture

/-- A pattern, up to a depth of nesting. -/
def patternTo (text : Parser Unit) : Nat → Parser Unit
  | 0 => failure
  | depth + 1 => pattern ⟨patternTo text depth, text⟩

/-- The patterns of a case: a sequence without brackets, or one pattern. -/
def patterns (text : Parser Unit) (depth : Nat) : Parser Unit :=
  openSequence ⟨patternTo text depth, text⟩ <|> patternTo text depth

end SignalFlow.Pattern
