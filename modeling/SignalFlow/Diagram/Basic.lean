import SignalFlow.Block.Kind
import SignalFlow.Value.Whole

/-! # Block diagrams

A diagram (`Diagram`) is a list of blocks, point-to-point connections between them, variables and
run settings, as they were written: parameters and settings are resolved only when the diagram is
compiled. Blocks are told apart by ids of a type of the user's choice; the diagrams of files have
texts.

A diagram hands out ids of its own (`Diagram.freshId`): a letter with the next number that is not
taken.
-/

namespace SignalFlow

/-- A block: its id, its type as written and its parameters. -/
structure Block (ι : Type) where
  id : ι
  type : String
  params : List (String × Value)

/-- The kind of a block. -/
def Block.kind {ι : Type} (block : Block ι) : Kind := Kind.ofType block.type

/-- A wire from the output of a block to an input port of another. -/
structure Connection (ι : Type) where
  source : ι
  target : ι
  sourcePort : Int
  targetPort : Int
deriving DecidableEq

/-- A block diagram. -/
structure Diagram (ι : Type) where
  blocks : List (Block ι)
  connections : List (Connection ι)
  vars : List (String × Value)
  /-- The duration of a run, if it is given. -/
  runtime : Value
  /-- The step, if it is given. -/
  dt : Value
  /-- The number of the next id. -/
  nextId : Nat

namespace Diagram

variable {ι : Type}

/-- A diagram without blocks. -/
def empty (vars : List (String × Value)) (runtime dt : Value) : Diagram ι :=
  ⟨[], [], vars, runtime, dt, 1⟩

/-- The ids of the blocks, in order. -/
def ids (diagram : Diagram ι) : List ι := diagram.blocks.map (·.id)

/-- The first number from `next` on whose id is not taken, among `room` numbers; if all of them are
taken, the one after them. -/
def freeNumber (taken : Nat → Bool) : Nat → Nat → Nat
  | 0, next => next
  | room + 1, next => if taken next then freeNumber taken room (next + 1) else next

variable [BEq ι]

/-- The block of an id. -/
def block? (diagram : Diagram ι) (id : ι) : Option (Block ι) :=
  diagram.blocks.find? (·.id == id)

/-- An id that no block has and that is not reserved. Of more numbers than there are such ids one is
free. -/
def freshId (diagram : Diagram ι) (ofText : String → ι) (letter : String) (reserved : List ι) :
    ι × Diagram ι :=
  let id (number : Nat) : ι := ofText (letter ++ Decimal.digitsOf number)
  let taken (number : Nat) : Bool :=
    reserved.contains (id number) || (diagram.block? (id number)).isSome
  let number := freeNumber taken (reserved.length + diagram.blocks.length) diagram.nextId
  (id number, { diagram with nextId := number + 1 })

/-- Adds a block, whose id must be new. -/
def addBlock (diagram : Diagram ι) (idText : ι → Except Fault String) (block : Block ι) :
    Except Fault (Diagram ι) :=
  if (diagram.block? block.id).isSome then do throw (.duplicateBlock (← idText block.id))
  else .ok { diagram with blocks := diagram.blocks ++ [block] }

/-- Adds a connection. -/
def connect (diagram : Diagram ι) (connection : Connection ι) : Diagram ι :=
  { diagram with connections := diagram.connections ++ [connection] }

/-! ## The written form -/

/-- A connection as it is written. -/
def connectionValue (idValue : ι → Value) (connection : Connection ι) : Value :=
  .mapping [("from", idValue connection.source), ("to", idValue connection.target),
    ("fromIndex", .int connection.sourcePort), ("toIndex", .int connection.targetPort)]

/-- A block as it is written. -/
def blockValue (idValue : ι → Value) (block : Block ι) : Value :=
  .mapping [("id", idValue block.id), ("type", .text block.type), ("params", .mapping block.params)]

/-- A setting, if it is given. -/
def setting (name : String) : Value → List (String × Value)
  | .null => []
  | value => [(name, value)]

/-- A diagram as it is written. -/
def toValue (diagram : Diagram ι) (idValue : ι → Value) : Value :=
  .mapping ([("blocks", .list (diagram.blocks.map (blockValue idValue))),
    ("connections", .list (diagram.connections.map (connectionValue idValue))),
    ("variables", .mapping diagram.vars)] ++
    setting "runtime" diagram.runtime ++ setting "dt" diagram.dt)

/-- A short description of a diagram. -/
def summary (diagram : Diagram ι) : String :=
  s!"Diagram({diagram.blocks.length} blocks, {diagram.connections.length} connections)"

end Diagram

end SignalFlow
