import SignalFlow.Compiled.Basic

/-! # The state of a run

Everything that changes while a diagram runs (`RunState`): the outputs of the current tick with
marks for those that are settled, the persistent states of the blocks, and the time.
-/

namespace SignalFlow

/-- What changes while a diagram runs; outputs and states are indexed by handle. -/
structure RunState (α : Type) where
  outputs : Array α
  settled : Array Bool
  memories : Array (Memory α)
  time : α
  tick : Nat

/-- A part of a tick: it changes the state, also where it breaks off. -/
abbrev Tick (α : Type) := ExceptT Fault (StateM (RunState α))

namespace RunState

variable {α : Type} [Scalar α]

/-- The state before the first tick. -/
def create [Host] (compiled : Compiled α) : Except Fault (RunState α) := do
  let memories ← compiled.nodes.mapM (·.payload.start)
  return ⟨Array.replicate compiled.nodes.size 0.0, Array.replicate compiled.nodes.size false,
    memories, 0.0, 0⟩

/-- Without outputs. -/
def clear (state : RunState α) : RunState α :=
  { state with
    outputs := state.outputs.map fun _ => 0.0
    settled := state.settled.map fun _ => false }

/-- The persistent state of a block. -/
def memory (state : RunState α) (handle : Nat) : Memory α :=
  state.memories.getD handle .empty

/-- With a settled output. -/
def settle (state : RunState α) (handle : Nat) (value : α) : RunState α :=
  { state with
    outputs := state.outputs.setIfInBounds handle value
    settled := state.settled.setIfInBounds handle true }

/-- With a persistent state. -/
def remember (state : RunState α) (handle : Nat) (memory : Memory α) : RunState α :=
  { state with memories := state.memories.setIfInBounds handle memory }

/-- Whether the output of a block is settled. -/
def isSettled (state : RunState α) (handle : Nat) : Bool :=
  state.settled.getD handle false

/-- The output of a block. -/
def outputOf (state : RunState α) (handle : Nat) : α :=
  state.outputs.getD handle 0.0

end RunState

namespace Compiled

variable {α : Type} [Scalar α]

/-- The step for a block that may depend on it; where it is no number such a block breaks off. -/
def stepFor (compiled : Compiled α) (isUsed : Bool) : Except Fault α :=
  match compiled.dt.number with
  | .ok dt => .ok dt
  | .error cause => if isUsed then .error cause else .ok 0.0

/-- The output of a block in a state, which may advance its persistent state. -/
def evaluate (compiled : Compiled α) (node : Node α) (inputs : Inputs α) : Tick α α := do
  let state ← get
  let dt ← liftExcept (compiled.stepFor node.payload.outputUsesStep)
  let (value, memory) ← liftExcept
    (node.payload.output state.time dt inputs (state.memory node.handle))
  modify (·.remember node.handle memory)
  return value

/-- Runs a part of a tick for each block of a list of handles. -/
def forNodes (compiled : Compiled α) (handles : List Nat) (visit : Node α → Tick α Unit) :
    Tick α Unit :=
  handles.forM fun handle =>
    match compiled.nodes[handle]? with
    | some node => visit node
    | none => pure ()

end Compiled

end SignalFlow
