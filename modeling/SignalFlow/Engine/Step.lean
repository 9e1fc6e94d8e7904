import SignalFlow.Engine.Resolver

/-! # One tick

A tick (`Compiled.step`) computes the outputs of sources and memories, resolves the algebraic
blocks, reads the sinks, and only then updates every block's persistent state and advances the time
by the step.
-/

namespace SignalFlow

/-- What a tick shows. -/
structure TickResult (α : Type) where
  time : α
  outputs : List (String × α)
  traces : List (String × α)
  resolution : Resolution

/-- The names of the traces of some blocks, each different from those before it unless an id
repeats it. -/
def traceKeys {α : Type} (nodes : List (Node α)) : List (Nat × String) :=
  nodes.foldl (fun keys node =>
    let label := node.traceLabel
    let key := if keys.any (·.2 == label) then label ++ "_" ++ node.id else label
    keys ++ [(node.handle, key)]) []

namespace Compiled

variable {α : Type} [Scalar α]

/-- The name of each trace by handle. -/
def traceKeys (compiled : Compiled α) : List (Nat × String) :=
  SignalFlow.traceKeys compiled.traceNodes

/-- The value of an input of the whole diagram, zero if it has none. -/
def externalInput (given : List (String × α)) (node : Node α) : Inputs α :=
  if node.external then
    [(0, (node.label.bind (Entries.get? given ·)).getD 0.0)]
  else []

/-- The outputs of sources and memories. -/
def outputPhase (compiled : Compiled α) (given : List (String × α)) : Tick α Unit :=
  compiled.forNodes compiled.outputOrder fun node => do
    let value ← compiled.evaluate node (externalInput given node)
    modify (·.settle node.handle value)

/-- The outputs of sinks. -/
def sinkPhase (compiled : Compiled α) : Tick α Unit :=
  compiled.forNodes compiled.sinkOrder fun node => do
    let value ← compiled.evaluate node (node.inputs (← get).outputs)
    modify (·.settle node.handle value)

/-- The updates of all blocks. -/
def updatePhase (compiled : Compiled α) : Tick α Unit :=
  compiled.nodes.toList.forM fun node => do
    let state ← get
    let dt ← liftExcept (compiled.stepFor node.payload.updateUsesStep)
    modify (·.remember node.handle
      (node.payload.update state.time dt (node.inputs state.outputs) (state.memory node.handle)))

/-- The sources and memories, then the algebraic blocks. -/
def settlePhase (compiled : Compiled α) (limit : Nat) (given : List (String × α)) :
    Tick α Resolution := do
  modify RunState.clear
  compiled.outputPhase given
  compiled.resolve limit

/-- The outputs and traces of a tick whose outputs have settled. -/
def results (compiled : Compiled α) (state : RunState α) (resolution : Resolution) :
    TickResult α :=
  ⟨state.time, compiled.outputHandles.map fun (name, handle) => (name, state.outputOf handle),
    Entries.ofPairs (compiled.traceKeys.map fun (handle, key) => (key, state.outputOf handle)),
    resolution⟩

/-- What follows once the algebraic blocks have been resolved. -/
def finishPhase (compiled : Compiled α) (resolution : Resolution) : Tick α (TickResult α) := do
  compiled.sinkPhase
  let result := compiled.results (← get) resolution
  compiled.updatePhase
  let dt ← liftExcept compiled.dt.number
  modify fun state => { state with time := state.time + dt, tick := state.tick + 1 }
  return result

/-- One tick with a limit of passes and the inputs given. -/
def step (compiled : Compiled α) (limit : Nat) (given : List (String × α)) :
    Tick α (TickResult α) := do
  compiled.finishPhase (← compiled.settlePhase limit given)

end Compiled

end SignalFlow
