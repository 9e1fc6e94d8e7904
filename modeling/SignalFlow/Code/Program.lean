import SignalFlow.Code.Rules

/-! # Generated programs

A generated program (`Program`) runs a compiled diagram without the engine. Its tick (`Tick`) does
what a tick of the engine does: sources and memories first, then passes over the algebraic blocks
until none changes, then the sinks, and last all updates.
-/

namespace SignalFlow.Code

/-- The statements of a tick, phase by phase. -/
structure Tick (α : Type) where
  /-- The outputs of sources and memories. -/
  outputs : List (Statement α)
  /-- Where the algebraic loop starts. -/
  seeds : List (Statement α)
  /-- A pass over the algebraic blocks. -/
  pass : List (Statement α)
  /-- The outputs of sinks, and the outputs of the whole program. -/
  sinks : List (Statement α)
  updates : List (Statement α)

/-- A program in the form that all languages share. -/
structure Program (α : Type) where
  blockCount : Nat
  /-- The step, as it was given. -/
  dt : Value
  /-- The duration of a run, as it was given. -/
  duration : Value
  /-- The limit of passes. -/
  limit : Int
  inputNames : List String
  outputNames : List String
  /-- The variables of the diagram. -/
  vars : List (String × Float)
  realized : List (Realized α)
  fields : List (Declaration α)
  /-- The largest order of a realized transfer function, zero if there is none. -/
  largestOrder : Nat
  tick : Tick α

namespace Program

variable {α : Type}

/-- The comment that names a block. -/
def describe (node : Node α) : Statement α := .comment s!"{node.id} ({node.type})"

/-- Reads the output of a block. -/
def readOutput (node : Node α) (code : BlockCode α) : List (Statement α) :=
  describe node :: code.output ++
    [.store (.output node.handle) code.value, .settle node.handle]

/-- Starts a block of the algebraic loop settled at zero, if it is one that does. -/
def seed [Scalar α] (node : Node α) : List (Statement α) :=
  if node.seedsLoop then
    [.store (.output node.handle) (.number 0.0), .settle node.handle]
  else []

/-- Evaluates an algebraic block in a pass, once all its drivers are settled. -/
def visit (node : Node α) (code : BlockCode α) : List (Statement α) :=
  let body := code.output ++ [.define .candidate code.value,
    .when (.stale node.handle) [.store (.output node.handle) (.localValue .candidate),
      .settle node.handle, .progress]]
  let drivers := (node.driverHandles.mergeSort (· ≤ ·)).eraseDups
  [describe node, if drivers.isEmpty then .block body else .when (.settled drivers) body]

/-- The update of a block. -/
def updateBlock (node : Node α) (code : BlockCode α) : List (Statement α) :=
  if code.update.isEmpty then [] else [describe node, .block code.update]

/-- The tick of a compiled diagram, from the code of its blocks. -/
def tickOf [Scalar α] (compiled : Compiled α) (blocks : List (Node α × BlockCode α)) : Tick α :=
  let at? (handle : Nat) : Option (Node α × BlockCode α) := blocks[handle]?
  { outputs := (compiled.outputOrder.filterMap at?).flatMap fun (node, code) =>
      readOutput node code
    seeds := (compiled.algebraicOrder.filterMap at?).flatMap fun (node, _) => seed node
    pass := (compiled.algebraicOrder.filterMap at?).flatMap fun (node, code) => visit node code
    sinks := ((compiled.sinkOrder.filterMap at?).flatMap fun (node, code) =>
      readOutput node code) ++
        compiled.outputHandles.map fun (name, handle) => .publish name handle
    updates := blocks.flatMap fun (node, code) => updateBlock node code }

/-- The variables that a program declares: all constants but the common ones and the names that
stand behind a backslash. -/
def declaredVariables (constants : Constants) : List (String × Float) :=
  constants.filter fun (name, _) => !(name == "pi" || name == "e" || name.startsWith "\\")

/-- The identifier of a variable. -/
def variableName (name : String) : String := "var_" ++ sanitize name

/-- The program of a compiled diagram, with a duration of its own if one is given. -/
def ofCompiled [Host] [Scalar α] (compiled : Compiled α) (duration : Option Float) (limit : Int) :
    Except Fault (Program α) := do
  let codes ← compiled.nodes.toList.mapM blockCode
  return {
    blockCount := compiled.nodes.size
    dt := compiled.dt.given
    duration := match duration with
      | some duration => .float duration
      | none => compiled.runtime.given
    limit := limit
    inputNames := compiled.inputNames
    outputNames := compiled.outputNames
    vars := declaredVariables compiled.constants
    realized := codes.flatMap (·.realized)
    fields := codes.flatMap (·.fields)
    largestOrder := (codes.map (·.order)).foldl Nat.max 0
    tick := tickOf compiled (compiled.nodes.toList.zip codes) }

end Program

end SignalFlow.Code
