import SignalFlow.Block.Behaviour
import SignalFlow.Block.Resolve

/-! # Compiled diagrams

A compiled diagram (`Compiled`) is what a run and the code generators work from: blocks with
resolved parameters and with the handles of their drivers (`Node`), and the orders in which they
are evaluated. The handle of a block is its place in the list of blocks.
-/

namespace SignalFlow

/-- A block of a compiled diagram. -/
structure Node (α : Type) where
  handle : Nat
  id : String
  /-- The type of the block as written. -/
  type : String
  kind : Kind
  payload : Payload α
  phase : Phase
  /-- The handle of the driver of each port that has one, in ascending order of the ports. -/
  drivers : List (Nat × Nat)
  /-- The ports, ascending. -/
  ports : List Nat
  /-- The name of the signal that a label block carries. -/
  label : Option String
  /-- Whether the block reads an input of the whole diagram. -/
  external : Bool

namespace Node

variable {α : Type}

/-- The driver of a port. -/
def driver? (node : Node α) (port : Nat) : Option Nat :=
  (node.drivers.find? (·.1 == port)).map (·.2)

/-- The handles of the drivers. -/
def driverHandles (node : Node α) : List Nat := node.drivers.map (·.2)

/-- Whether the block starts the algebraic loop settled at zero. -/
def seedsLoop (node : Node α) : Bool :=
  node.phase == .algebraic && node.kind.seedsLoop

/-- The values at the ports of a block: the outputs of its drivers, and the fallback of its kind at
a port without one. -/
def inputs [Scalar α] (node : Node α) (outputs : Array α) : Inputs α :=
  node.ports.map fun port =>
    match node.driver? port with
    | some driver => ((port : Int), outputs.getD driver 0.0)
    | none => ((port : Int), Payload.fallback node.kind)

/-- The name of the trace of a scope or file sink: the label of the scope, or the id. -/
def traceLabel (node : Node α) : String :=
  match node.payload with
  | .scope labels => if labels.isEmpty then node.id else labels
  | _ => node.id

end Node

/-- A diagram ready to run. -/
structure Compiled (α : Type) where
  nodes : Array (Node α)
  /-- The step. -/
  dt : Setting α
  /-- The duration of a run. -/
  runtime : Setting α
  constants : Constants
  /-- Sources and memories. -/
  outputOrder : List Nat
  /-- Blocks that are resolved together, the seeds of the loop first. -/
  algebraicOrder : List Nat
  /-- Blocks that are read last. -/
  sinkOrder : List Nat
  /-- The inputs of the whole diagram. -/
  inputNames : List String
  /-- The outputs of the whole diagram, each with the handle of the block that publishes it. -/
  outputHandles : List (String × Nat)

namespace Compiled

variable {α : Type}

/-- The outputs of the whole diagram. -/
def outputNames (compiled : Compiled α) : List String := compiled.outputHandles.map (·.1)

/-- The blocks whose input is recorded, in order. -/
def traceNodes (compiled : Compiled α) : List (Node α) :=
  compiled.nodes.toList.filter (·.kind.isTraced)

end Compiled

end SignalFlow
