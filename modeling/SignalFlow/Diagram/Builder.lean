import SignalFlow.Diagram.Basic

/-! # Building diagrams

A diagram can be built step by step (`Builder`). Its blocks may have any plain value as id; an id
that is missing or empty is allocated by the diagram.
-/

namespace SignalFlow

/-- Whether two plain values are the same; numbers are compared by what they stand for. -/
def Value.same : Value → Value → Bool
  | .null, .null => true
  | .text a, .text b => a == b
  | .float a, .float b => a == b
  | a, b =>
      match number? a, number? b with
      | some x, some y => decide (x = y)
      | _, _ => false
where
  /-- The exact value of a number. -/
  number? : Value → Option Rat
    | .bool b => some (Rat.ofInt b.toInt)
    | .int n => some (Rat.ofInt n)
    | .float x => Binary64.toRat? x
    | _ => none

instance : BEq Value := ⟨Value.same⟩

/-- A diagram under construction. -/
abbrev Builder := Diagram Value

namespace Builder

/-- A new diagram with some run settings. -/
def new (runtime dt : Value) : Builder := Diagram.empty [] runtime dt

/-- The names that a parameter may not have. -/
def reservedNames : List String := ["self", "block_type", "block_id"]

/-- An id that is not taken. -/
def newId (builder : Builder) (letter : String) (reserved : List Value) : Value × Builder :=
  Diagram.freshId builder .text letter reserved

/-- Adds a block and tells its id. -/
def addBlock [Host] (builder : Builder) (type id : Value) (params : List (String × Value)) :
    Except Fault (Value × Builder) := do
  if params.any (reservedNames.contains ·.1) then throw .wrongKind
  let (key, builder) := if id.isPresent then (id, builder) else builder.newId "b" []
  return (key, ← Diagram.addBlock builder Value.toText ⟨key, ← type.toText, params⟩)

/-- Connects two blocks. -/
def connect (builder : Builder) (source target sourcePort targetPort : Value) :
    Except Fault Builder := do
  return Diagram.connect builder ⟨source, target, ← sourcePort.toInt, ← targetPort.toInt⟩

/-- Connects each of some blocks to the first port of the next one. -/
def chain (builder : Builder) (ids : List Value) : Builder :=
  (ids.zip ids.tail).foldl (fun builder (source, target) =>
    Diagram.connect builder ⟨source, target, 0, 0⟩) builder

/-- Sets a variable. -/
def setVariable (builder : Builder) (name : String) (value : Value) : Builder :=
  { builder with vars := Entries.set builder.vars name value }

end Builder

end SignalFlow
