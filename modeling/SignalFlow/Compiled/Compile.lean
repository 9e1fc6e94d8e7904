import SignalFlow.Compiled.Basic
import SignalFlow.Compiled.Order
import SignalFlow.Compiled.Wiring

/-! # Compiling diagrams

`Compiled.ofDiagram` resolves the parameters of a diagram, wires its blocks and fixes the order of
their evaluation. Nothing in a diagram keeps it from being compiled, save numbers beyond the range
of a double.

A label source reads what drives the last label sink of the same name, as if wired to it; without
such a sink it reads an input of the whole diagram.
-/

namespace SignalFlow.Compiled

variable {α : Type}

/-- The name of the signal that a label block carries: the name given, or its id. What is written
for the name is a parameter of the block, and has been written when this name is asked for. -/
def labelName (block : Block String) : String :=
  let given := match Entries.get? block.params "name" with
    | none | some .null => ""
    | some value => Text.trim value.written
  sanitize (if given.isEmpty then Text.trim block.id else given)

/-- A setting of a diagram: the number it resolves to if that is positive, else the default. -/
def settingOf [Host] [Scalar α] (constants : Constants) (given : Value) (default : Setting α) :
    Except Fault (Setting α) := do
  let x ← constants.resolve given
  return if x ≤ 0.0 then default else .ofFloat x

/-- The block at a handle, wired but not yet bound to a label. -/
def node [Host] [Scalar α] (constants : Constants) (dt : Setting α) (wires : List Wire)
    (block : Block String) (handle : Nat) : Noted Fault (Node α) := do
  let kind := block.kind
  if kind == .unsupported then note (.unsupportedType block.id block.type)
  let payload ← Payload.resolve kind block.params constants dt
  let ports := Wiring.ports wires kind handle
  return {
    handle
    id := block.id
    type := block.type
    kind
    payload
    phase := payload.phase
    drivers := ports.filterMap fun port => (Wiring.driver? wires handle port).map (port, ·)
    ports
    label := if kind == .labelSource || kind == .labelSink then some (labelName block) else none
    external := false }

/-- The last label sink of a name. -/
def sink? (nodes : List (Node α)) (label : Option String) : Option (Node α) :=
  (nodes.filter fun node => node.kind == .labelSink && node.label == label).getLast?

/-- Binds a label source to the label sink of its name, or to an input of the diagram. -/
def bind (nodes : List (Node α)) (node : Node α) : Node α :=
  if node.kind == .labelSource then
    match sink? nodes node.label with
    | some sink =>
        { node with
          drivers := ((sink.driver? 0).map (0, ·)).toList
          ports := [0] }
    | none => { node with external := true, phase := .source }
  else node

/-- The labels of some blocks, each once, in order of first appearance. -/
def labels (nodes : List (Node α)) : List String :=
  (nodes.filterMap (·.label)).eraseDups

/-- The handles of the blocks that a test accepts. -/
def handles (nodes : List (Node α)) (test : Node α → Bool) : List Nat :=
  (nodes.filter test).map (·.handle)

/-- The handles of the drivers of a block. -/
def driversOf (nodes : Array (Node α)) (handle : Nat) : List Nat :=
  match nodes[handle]? with
  | some node => node.driverHandles
  | none => []

/-- The diagram of some bound blocks. -/
def ofNodes (nodes : List (Node α)) (dt runtime : Setting α) (constants : Constants) :
    Compiled α :=
  let array := nodes.toArray
  let sinks := nodes.filter (·.kind == .labelSink)
  { nodes := array
    dt
    runtime
    constants
    outputOrder := handles nodes fun node => node.phase == .source || node.phase == .memory
    algebraicOrder := handles nodes (·.seedsLoop) ++
      stableOrder (driversOf array)
        (handles nodes fun node => node.phase == .algebraic && !node.seedsLoop)
    sinkOrder := handles nodes (·.phase == .sink)
    inputNames := labels (nodes.filter (·.external))
    outputHandles := (labels sinks).filterMap fun name =>
      (sink? nodes (some name)).map fun sink => (name, sink.handle) }

/-- Compiles each block of a list, the first one at the handle given. -/
def nodesFrom [Host] [Scalar α] (constants : Constants) (dt : Setting α) (wires : List Wire) :
    Nat → List (Block String) → Noted Fault (List (Node α))
  | _, [] => return []
  | handle, block :: rest => do
      let first ← node constants dt wires block handle
      return first :: (← nodesFrom constants dt wires (handle + 1) rest)

/-- Compiles a diagram; the defaults stand for a step and a duration that are missing or not
positive. -/
def ofDiagram [Host] [Scalar α] (diagram : Diagram String) (defaultDt defaultRuntime : Setting α) :
    Noted Fault (Compiled α) := do
  let constants ← .ofExcept (Constants.ofVariables diagram.vars)
  let dt ← .ofExcept (settingOf constants diagram.dt defaultDt)
  let runtime ← .ofExcept (settingOf constants diagram.runtime defaultRuntime)
  (Wiring.notices diagram.ids diagram.connections).forM note
  let nodes ← nodesFrom constants dt (Wiring.wires diagram.ids diagram.connections) 0
    diagram.blocks
  return ofNodes (nodes.map (bind nodes)) dt runtime constants

/-- The step of a diagram that gives none. -/
def standardDt [Scalar α] : Setting α := .ofFloat 0.01

/-- The duration of a run of a diagram that gives none. -/
def standardRuntime [Scalar α] : Setting α := .ofFloat 10.0

end SignalFlow.Compiled
