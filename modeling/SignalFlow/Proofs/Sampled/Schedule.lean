import SignalFlow.Proofs.Superposition

/-! # Blocks in a schedule

A block on its own goes through the ticks of a schedule. Its state and its output are given tick by
tick (`Payload.stateAt`, `Payload.outputAt`), for ticks that lie in time as they like. Two blocks
that go through the same schedule in lockstep put out the same
(`Payload.exists_outputAt_of_lockstep`).
-/

namespace SignalFlow

variable {α : Type} [Scalar α]

/-- What a block on its own goes through: the times of the ticks, what it reads in them, and the
step that they are said to be apart. -/
structure Schedule (α : Type) where
  step : α
  time : Nat → α
  inputs : Nat → Inputs α

namespace Schedule

/-- What a block reads at port 0 in a tick. -/
def input (schedule : Schedule α) (tick : Nat) : α :=
  Inputs.value (schedule.inputs tick) 0

/-- A signal at port 0, in steps from an origin on. -/
def driving (origin dt : α) (signal : Nat → α) : Schedule α :=
  ⟨dt, Payload.tickTime origin dt, fun tick => [(0, signal tick)]⟩

end Schedule

namespace Payload

/-- The state of a block before a tick: in every earlier tick its output was read, and then it was
updated. -/
def stateAt [Host] (payload : Payload α) (schedule : Schedule α) : Nat → Except Fault (Memory α)
  | 0 => payload.start
  | tick + 1 => do
      let memory ← payload.stateAt schedule tick
      let time := schedule.time tick
      let (_, memory) ← payload.output time schedule.step (schedule.inputs tick) memory
      return payload.update time schedule.step (schedule.inputs tick) memory

/-- The output of a block in a tick. -/
def outputAt [Host] (payload : Payload α) (schedule : Schedule α) (tick : Nat) :
    Except Fault α := do
  let memory ← payload.stateAt schedule tick
  let (value, _) ←
    payload.output (schedule.time tick) schedule.step (schedule.inputs tick) memory
  return value

section Ticks

variable {payload : Payload α} {schedule : Schedule α} {tick : Nat} {memory next : Memory α}
  {value : α}

section Read

variable [Host] (reached : payload.stateAt schedule tick = .ok memory)
  (read : payload.output (schedule.time tick) schedule.step (schedule.inputs tick) memory =
    .ok (value, next))
include reached read

theorem stateAt_succ : payload.stateAt schedule (tick + 1) =
    .ok (payload.update (schedule.time tick) schedule.step (schedule.inputs tick) next) := by
  simp [stateAt, reached, read, bind, Except.bind, pure, Except.pure]

theorem outputAt_eq : payload.outputAt schedule tick = .ok value := by
  simp [outputAt, reached, read, bind, Except.bind, pure, Except.pure]

end Read

/-- **Two blocks in lockstep put out the same**: their states agree at first, states that agree are
read alike, and agree again after the update. -/
theorem exists_outputAt_of_lockstep [Host] {other : Payload α} {otherMemory : Memory α}
    (Agrees : Memory α → Memory α → Prop)
    (started : payload.start = .ok memory) (otherStarted : other.start = .ok otherMemory)
    (initial : Agrees memory otherMemory)
    (reads : ∀ (tick : Nat) {memory otherMemory : Memory α}, Agrees memory otherMemory →
      ∃ value,
        payload.output (schedule.time tick) schedule.step (schedule.inputs tick) memory =
          .ok (value, memory) ∧
        other.output (schedule.time tick) schedule.step (schedule.inputs tick) otherMemory =
          .ok (value, otherMemory))
    (keeps : ∀ (tick : Nat) {memory otherMemory : Memory α}, Agrees memory otherMemory →
      Agrees (payload.update (schedule.time tick) schedule.step (schedule.inputs tick) memory)
        (other.update (schedule.time tick) schedule.step (schedule.inputs tick) otherMemory))
    (tick : Nat) :
    ∃ value, payload.outputAt schedule tick = .ok value ∧
      other.outputAt schedule tick = .ok value := by
  have agree : ∃ memory otherMemory, payload.stateAt schedule tick = .ok memory ∧
      other.stateAt schedule tick = .ok otherMemory ∧ Agrees memory otherMemory := by
    induction tick with
    | zero => exact ⟨memory, otherMemory, started, otherStarted, initial⟩
    | succ tick ih =>
        obtain ⟨memory, otherMemory, reached, otherReached, agrees⟩ := ih
        obtain ⟨value, read, otherRead⟩ := reads tick agrees
        exact ⟨_, _, stateAt_succ reached read, stateAt_succ otherReached otherRead,
          keeps tick agrees⟩
  obtain ⟨memory, otherMemory, reached, otherReached, agrees⟩ := agree
  obtain ⟨value, read, otherRead⟩ := reads tick agrees
  exact ⟨value, outputAt_eq reached read, outputAt_eq otherReached otherRead⟩

end Ticks

end Payload

end SignalFlow
