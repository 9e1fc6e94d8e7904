import SignalFlow.Proofs.Observer.Ticks
import SignalFlow.Proofs.Resolved
import Mathlib.Tactic.NormNum

/-! # What the phase of a block promises

The phase of a block says how the engine may ask it for its output. A source or a memory reads no
inputs, so it may be asked before they are known; an algebraic block or a sink keeps its persistent
state, so it may be asked as often as the resolution of a loop takes (`Payload.output_of_phase`).

Only transfer functions choose their phase by their parameters. One whose model has no direct part
is a memory although it computes with its input, times zero. That this does not show takes exact
arithmetic: with doubles the product is no number for an infinite input, and it may turn a negative
zero into a positive one.
-/

namespace SignalFlow

variable {α : Type} [Scalar α]

namespace Payload

/-- A transfer function is a memory if its model has a state and no direct part. -/
theorem phase_tf_eq_memory_iff {num den : List α} {model : StateSpace α} :
    (tf num den (some model)).phase = .memory ↔
      (model.order == 0) = false ∧ (model.d != 0.0) = false := by
  rw [phase, StateSpace.hasFeedthrough]
  cases model.order == 0 <;> cases model.d != 0.0 <;> simp

/-- Sources and memories read no inputs. -/
theorem output_congr [LawfulBEq α] (exact : ∀ total value : α, total + 0.0 * value = total)
    {payload : Payload α} (early : payload.phase = .source ∨ payload.phase = .memory)
    (time dt : α) (inputs other : Inputs α) (memory : Memory α) :
    payload.output time dt inputs memory = payload.output time dt other memory := by
  cases payload with
  | tf num den model =>
      cases model with
      | none => cases memory <;> rfl
      | some model =>
          have isMemory : (tf num den (some model)).phase = .memory := by
            rcases early with source | isMemory
            · rw [phase] at source
              split at source <;> cases source
            · exact isMemory
          obtain ⟨hasState, noDirect⟩ := phase_tf_eq_memory_iff.mp isMemory
          have direct : model.d = 0.0 := by simpa using noDirect
          have output_eq (x : List α) (u : α) : model.output x u = Vector.dot model.c x := by
            rw [StateSpace.output, hasState, direct]
            exact exact _ _
          cases memory with
          | tf x =>
              change Except.ok (model.output x _, Memory.tf x) = .ok (model.output x _, .tf x)
              rw [output_eq, output_eq]
          | _ => rfl
  | gain | sum | mult | saturation | switch | labelSource | labelSink | scope | fileSink =>
      rcases early with source | isMemory
      · cases source
      · cases isMemory
  | _ => cases memory <;> rfl

/-- **The phase of a block keeps what it promises**: with exact arithmetic the inputs of a source or
a memory have no influence on its output, and an algebraic block or a sink has an output for all
inputs, which leaves its persistent state as it is. -/
theorem output_of_phase [LawfulBEq α] (exact : ∀ total value : α, total + 0.0 * value = total)
    (payload : Payload α) (time dt : α) (memory : Memory α) :
    (payload.phase = .source ∨ payload.phase = .memory → ∀ inputs other,
      payload.output time dt inputs memory = payload.output time dt other memory) ∧
    (payload.phase = .algebraic ∨ payload.phase = .sink → ∀ inputs, ∃ value,
      payload.output time dt inputs memory = .ok (value, memory)) := by
  refine ⟨?_, ?_⟩
  · intro early inputs other
    exact output_congr exact early time dt inputs other memory
  · rintro (algebraic | sink) inputs
    · exact ⟨_, output_of_algebraic algebraic time dt inputs memory⟩
    · exact ⟨_, output_of_sink sink time dt inputs memory⟩

/-- A lag `1 / (s + 1)`, whose output is its state, and a lead `(s + 2) / (s + 1)`, which has a
direct part. -/
theorem output_of_phase_lag_lead :
    let lag : Payload Rat := tf [1] [1, 1] (StateSpace.realize? [1] [1, 1])
    let lead : Payload Rat := tf [1, 2] [1, 1] (StateSpace.realize? [1, 2] [1, 1])
    (∀ total value : Rat, total + 0.0 * value = total) ∧
    lag.phase = .memory ∧ (lag.output 0 1 [] (.tf [3])).toOption.map (·.1) = some 3 ∧
    (∀ inputs other, lag.output 0 1 inputs (.tf [3]) = lag.output 0 1 other (.tf [3])) ∧
    lead.phase = .algebraic ∧
    (lead.output 0 1 [(0, 5)] (.tf [3])).toOption.map (·.1) = some 8 ∧
    ∀ inputs, ∃ value, lead.output 0 1 inputs (.tf [3]) = .ok (value, .tf [3]) := by
  intro lag lead
  have exact (total value : Rat) : total + 0.0 * value = total := by norm_num
  have isMemory : lag.phase = .memory := by decide +kernel
  have isAlgebraic : lead.phase = .algebraic := by decide +kernel
  refine ⟨exact, isMemory, by decide +kernel, ?_, isAlgebraic, by decide +kernel, ?_⟩
  · exact (output_of_phase exact lag 0 1 (.tf [3])).1 (.inr isMemory)
  · exact (output_of_phase exact lead 0 1 (.tf [3])).2 (.inl isAlgebraic)

end Payload

end SignalFlow
