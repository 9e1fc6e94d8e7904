import SignalFlow.Engine.State
import SignalFlow.Value.Whole

/-! # Resolving algebraic loops

Blocks that depend on each other without delay are resolved together (`Compiled.resolve`). Each pass
visits them in order and evaluates those whose drivers have settled; a pass counts as progress if
a block settles for the first time or changes its value. A pass without progress is a fixed point.
The number of passes is limited, and whatever values stand at the limit are kept.
-/

namespace SignalFlow

/-- How a resolution ended. -/
structure Resolution where
  passes : Nat
  converged : Bool
deriving DecidableEq

namespace Compiled

variable {α : Type} [Scalar α]

/-- Settles the blocks that mirror label sinks at zero. -/
def seedLoop (compiled : Compiled α) : Tick α Unit :=
  compiled.forNodes compiled.algebraicOrder fun node => do
    if node.seedsLoop then modify (·.settle node.handle 0.0)

/-- Visits a block in a pass, and tells whether that was progress. -/
def visit (compiled : Compiled α) (node : Node α) : Tick α Bool := do
  let state ← get
  if node.driverHandles.all state.isSettled then
    let value ← compiled.evaluate node (node.inputs state.outputs)
    if !state.isSettled node.handle || state.outputOf node.handle != value then
      modify (·.settle node.handle value)
      return true
  return false

/-- Visits blocks in their order, and tells whether any visit was progress. -/
def passOver (compiled : Compiled α) : List Nat → Tick α Bool
  | [] => return false
  | handle :: rest => do
      let first ← match compiled.nodes[handle]? with
        | some node => compiled.visit node
        | none => pure false
      let later ← compiled.passOver rest
      return first || later

/-- One pass over the algebraic blocks. -/
def pass (compiled : Compiled α) : Tick α Bool :=
  compiled.passOver compiled.algebraicOrder

/-- Runs passes up to the first one without progress, at most `room` after the `passes` before. -/
def settleFrom (compiled : Compiled α) (passes : Nat) : Nat → Tick α Resolution
  | 0 => return ⟨passes, false⟩
  | room + 1 => do
      if ← compiled.pass then compiled.settleFrom (passes + 1) room
      else return ⟨passes + 1, true⟩

/-- Resolves the algebraic blocks of a tick with a limit of passes. -/
def resolve (compiled : Compiled α) (limit : Nat) : Tick α Resolution := do
  compiled.seedLoop
  if compiled.algebraicOrder.isEmpty then return ⟨0, true⟩
  compiled.settleFrom 0 limit

end Compiled

/-- The limit of passes that a setting stands for, at least one. -/
def passLimit (setting : Value) : Except Fault Nat := do
  match setting with
  | .bool false => throw .noPasses
  | .int n => if n < 1 then throw .noPasses
  | .float x => if x < 1.0 then throw .noPasses
  | .bool true => pure ()
  | _ => throw .wrongKind
  return (← setting.toInt).toNat

end SignalFlow
