import SignalFlow.Proofs.Sampled.Clock

/-! # Discrete transfer functions

A discrete transfer function keeps two registers, of its latest samples and of its latest outputs, of
lengths that have nothing to do with each other. In the registers stand the newest items of two
signals (`window`): of the samples, and of the outputs that the difference equation makes of them
(`Recurrence.response`). A firing moves both on by one item, so the block computes the difference
equation (`Payload.outputAt_dtf`), with any arithmetic and whenever its clock fires.
-/

namespace SignalFlow

variable {α : Type} [Scalar α]

/-! ## Windows -/

/-- The newest of the first `count` items of a signal, newest first, with zeros for those before the
first one. -/
def window (size : Nat) (signal : Nat → α) (count : Nat) : List α :=
  (List.range size).map fun age => delayed (age + 1) signal count

@[simp] theorem length_window (size : Nat) (signal : Nat → α) (count : Nat) :
    (window size signal count).length = size := by
  simp [window]

theorem getElem_window {size age : Nat} {signal : Nat → α} {count : Nat}
    (inside : age < (window size signal count).length) :
    (window size signal count)[age] = delayed (age + 1) signal count := by
  simp [window]

theorem window_zero (size : Nat) (signal : Nat → α) :
    window size signal 0 = Vector.zero size := by
  apply List.ext_getElem
  · rw [length_window, Vector.length_zero]
  · intro age inside otherInside
    rw [getElem_window, delayed_of_lt (Nat.succ_pos age)]
    simp [Vector.zero]

/-- Shifting the next item of a signal in moves its window on. -/
theorem shiftIn_window (size : Nat) (signal : Nat → α) (count : Nat) :
    Payload.shiftIn (signal count) (window size signal count) = window size signal (count + 1) := by
  apply List.ext_getElem
  · rw [length_shiftIn, length_window, length_window]
  · intro age inside otherInside
    simp only [Payload.shiftIn, List.getElem_dropLast]
    rw [getElem_window]
    cases age with
    | zero => rw [delayed_add, List.getElem_cons_zero]
    | succ age =>
        rw [List.getElem_cons_succ, getElem_window]
        simp [delayed]

/-! ## The difference equation -/

/-- What a recurrence makes of a signal: each item from the newest items of the signal, itself
included, and from its own newest items before it. -/
def Recurrence.response (model : Recurrence α) (signal : Nat → α) (index : Nat) : α :=
  model.evaluate (window model.num.length signal (index + 1))
    ((List.range (model.den.length - 1)).map fun age =>
      if index < age + 1 then 0.0 else model.response signal (index - (age + 1)))
termination_by index

theorem Recurrence.response_eq (model : Recurrence α) (signal : Nat → α) (index : Nat) :
    model.response signal index =
      model.evaluate (window model.num.length signal (index + 1))
        (window (model.den.length - 1) (model.response signal) index) := by
  rw [response]
  rfl

/-- The state of a discrete transfer function after a number of samples. -/
def Recurrence.memory (model : Recurrence α) (signal : Nat → α) (count : Nat) (next : α) :
    Memory α :=
  .dtf (window model.num.length signal count)
    (window (model.den.length - 1) (model.response signal) count)
    (delayed 1 (model.response signal) count) next

namespace Payload

/-- A firing of its clock moves both registers of a discrete transfer function on by one item. -/
theorem update_dtf {num den : List α} {ts time dt next : α} {inputs : Inputs α}
    (model : Recurrence α) (signal : Nat → α) (count : Nat)
    (fires : clockFires time next = true) (taken : signal count = Inputs.value inputs 0) :
    (dtf num den ts model).update time dt inputs (model.memory signal count next) =
      model.memory signal (count + 1) (next + ts) := by
  have evaluated : model.response signal count =
      model.evaluate (shiftIn (signal count) (window model.num.length signal count))
        (window (model.den.length - 1) (model.response signal) count) := by
    rw [shiftIn_window]
    exact model.response_eq signal count
  rw [Recurrence.memory, Recurrence.memory, delayed_add, ← shiftIn_window _ (model.response signal),
    ← shiftIn_window _ signal, evaluated, taken]
  exact if_pos fires

/-- **A discrete transfer function computes the difference equation of its normalized
coefficients**: the firing of its clock that has the number `k` makes the output `y k` of the latest
samples, the one just taken included, and of the latest outputs before it. This is what the block
puts out from the next tick on, until the clock has fired again. -/
theorem outputAt_dtf [Host] (num den : List α) (ts : α) (schedule : Schedule α) :
    let model := Recurrence.realize num den
    let block := dtf num den ts model
    let u := block.sample schedule
    ∃ y : Nat → α,
      (∀ k, y k = model.evaluate (window model.num.length u (k + 1))
        (window (model.den.length - 1) y k)) ∧
      ∀ tick, let fired := block.firings schedule tick
        (∃ next, block.stateAt schedule tick = .ok (.dtf (window model.num.length u fired)
          (window (model.den.length - 1) y fired) (delayed 1 y fired) next)) ∧
        block.outputAt schedule tick = .ok (delayed 1 y fired) ∧
        (block.firesAt schedule tick = true →
          block.outputAt schedule (tick + 1) = .ok (y fired)) := by
  intro model block u
  let y := model.response u
  have clocked : block.period? = some ts := rfl
  have holds := exists_stateAt_of_clocked clocked rfl schedule
    (fun fired state => ∃ next, state = model.memory u fired next) ?_ ?_
  · have output (tick : Nat) :
        block.outputAt schedule tick = .ok (delayed 1 y (block.firings schedule tick)) := by
      obtain ⟨state, reached, next, rfl⟩ := holds tick
      exact outputAt_eq reached rfl
    refine ⟨y, model.response_eq u, fun tick => ⟨?_, output tick, fun fires => ?_⟩⟩
    · obtain ⟨state, reached, next, rfl⟩ := holds tick
      exact ⟨next, reached⟩
    · rw [output, firings_succ_of_fires fires, delayed_add]
  · refine ⟨0.0, ?_⟩
    rw [Recurrence.memory, window_zero, window_zero, delayed_of_lt Nat.one_pos]
  · rintro tick state ⟨next, rfl⟩ fires taken
    exact ⟨next + ts, update_dtf model u _ fires taken⟩

end Payload

end SignalFlow
