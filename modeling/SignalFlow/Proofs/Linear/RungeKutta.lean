import SignalFlow.Host.Usual
import SignalFlow.Proofs.BlockTotality
import SignalFlow.Proofs.Linear.Realization
import Mathlib.Algebra.BigOperators.Intervals
import Mathlib.Data.Nat.Factorial.Basic
import Mathlib.Tactic.Module

/-! # The step of a model

With the input held, a linear model is integrated by the classic fourth-order method as by the Taylor
polynomial of that order: every stage is the slope at the start plus multiples of what the matrix
makes of it, and the weights of the stages add these up to `h ^ j / j!` (`HasShape.advance_eq`). The
integrator `1 / s` has the matrix zero, so all its stages are alike and its step is the one that an
integrator block takes.
-/

open Matrix
open scoped Nat

namespace SignalFlow

/-! ## Vectors of a given size -/

namespace Vector

variable {size : Nat} (x y : Fin size → Rat)

theorem add_ofFn : add (List.ofFn x) (List.ofFn y) = List.ofFn (x + y) := by
  apply List.ext_getElem <;> simp [add]

theorem scale_ofFn (factor : Rat) : scale factor (List.ofFn x) = List.ofFn (factor • x) := by
  apply List.ext_getElem <;> simp [scale]

end Vector

namespace StateSpace

/-! ## Stages -/

section Slope

variable (model : StateSpace Rat) (x : Fin model.order → Rat) (u : Rat)

/-- What the matrix of a model, taken several times, makes of the rate of change of a state. -/
def slope (times : Nat) : Fin model.order → Rat :=
  model.stateMatrix Rat ^ times *ᵥ (model.stateMatrix Rat *ᵥ x + u • model.inputColumn Rat)

theorem stateMatrix_mulVec_slope (times : Nat) :
    model.stateMatrix Rat *ᵥ model.slope x u times = model.slope x u (times + 1) := by
  rw [slope, slope, mulVec_mulVec, ← pow_succ']

/-- Each slope is a term of the Taylor polynomial, up to its factor. -/
theorem slope_eq (times : Nat) : model.slope x u times =
    model.stateMatrix Rat ^ (times + 1) *ᵥ x +
      u • (model.stateMatrix Rat ^ times *ᵥ model.inputColumn Rat) := by
  rw [slope, mulVec_add, mulVec_smul, mulVec_mulVec, ← pow_succ]

end Slope

namespace HasShape

variable {model : StateSpace Rat} (shape : model.HasShape) (x : Fin model.order → Rat) (u h : Rat)
include shape

theorem derivative_ofFn : model.derivative (List.ofFn x) u = List.ofFn (model.slope x u 0) := by
  rw [shape.derivative_eq, slope, pow_zero, one_mulVec]

/-- The rate of change away from a state is that of the state and what the matrix makes of the
distance. -/
theorem derivative_add_scale (factor : Rat) (step : Fin model.order → Rat) :
    model.derivative (Vector.add (List.ofFn x) (Vector.scale factor (List.ofFn step))) u =
      List.ofFn (model.slope x u 0 + factor • (model.stateMatrix Rat *ᵥ step)) := by
  rw [Vector.scale_ofFn, Vector.add_ofFn, shape.derivative_eq, mulVec_add, mulVec_smul, slope,
    pow_zero, one_mulVec, add_right_comm]

/-- The stages of a step add up to the slopes with the factors of a Taylor polynomial. -/
theorem advance_eq_slopes : model.advance (List.ofFn x) u h =
    List.ofFn (x + (h • model.slope x u 0 + (h ^ 2 / 2) • model.slope x u 1 +
      (h ^ 3 / 6) • model.slope x u 2 + (h ^ 4 / 24) • model.slope x u 3)) := by
  unfold advance
  split
  · next gain =>
      have none : IsEmpty (Fin model.order) := by
        rw [beq_iff_eq.mp gain]
        infer_instance
      exact congrArg List.ofFn (Subsingleton.elim _ _)
  · let s := model.slope x u
    have half : (0.5 : Rat) * h = h / 2 := by ring
    have k₁ : model.derivative (List.ofFn x) u = List.ofFn (s 0) := shape.derivative_ofFn x u
    have k₂ : model.derivative (Vector.add (List.ofFn x)
        (Vector.scale (h / 2) (List.ofFn (s 0)))) u =
        List.ofFn (s 0 + (h / 2) • s 1) := by
      rw [shape.derivative_add_scale, stateMatrix_mulVec_slope]
    have k₃ : model.derivative (Vector.add (List.ofFn x)
        (Vector.scale (h / 2) (List.ofFn (s 0 + (h / 2) • s 1)))) u =
        List.ofFn (s 0 + (h / 2) • (s 1 + (h / 2) • s 2)) := by
      rw [shape.derivative_add_scale, mulVec_add, mulVec_smul, stateMatrix_mulVec_slope,
        stateMatrix_mulVec_slope]
    have k₄ : model.derivative (Vector.add (List.ofFn x)
        (Vector.scale h (List.ofFn (s 0 + (h / 2) • (s 1 + (h / 2) • s 2))))) u =
        List.ofFn (s 0 + h • (s 1 + (h / 2) • (s 2 + (h / 2) • s 3))) := by
      rw [shape.derivative_add_scale, mulVec_add, mulVec_smul, mulVec_add, mulVec_smul,
        stateMatrix_mulVec_slope, stateMatrix_mulVec_slope, stateMatrix_mulVec_slope]
    have two : (2.0 : Rat) = 2 := by norm_num
    have six : (6.0 : Rat) = 6 := by norm_num
    simp only [half, two, six, k₁, k₂, k₃, k₄]
    rw [Vector.scale_ofFn, Vector.scale_ofFn, Vector.add_ofFn, Vector.add_ofFn, Vector.add_ofFn,
      Vector.scale_ofFn, Vector.add_ofFn]
    congr 1
    module

end HasShape

/-- The terms of the Taylor polynomial of order four after the first one are the slopes with their
factors. -/
theorem sum_taylor_eq_slopes (model : StateSpace Rat) (x : Fin model.order → Rat) (u h : Rat) :
    ∑ j ∈ Finset.Icc 1 4, (h ^ j / (j ! : Rat)) • (model.stateMatrix Rat ^ j *ᵥ x +
      u • (model.stateMatrix Rat ^ (j - 1) *ᵥ model.inputColumn Rat)) =
    h • model.slope x u 0 + (h ^ 2 / 2) • model.slope x u 1 + (h ^ 3 / 6) • model.slope x u 2 +
      (h ^ 4 / 24) • model.slope x u 3 := by
  have terms : Finset.Icc 1 4 = {1, 2, 3, 4} := rfl
  have one : 1 ! = 1 := rfl
  have two : 2 ! = 2 := rfl
  have six : 3 ! = 6 := rfl
  have twentyFour : 4 ! = 24 := rfl
  rw [terms, Finset.sum_insert (by decide), Finset.sum_insert (by decide),
    Finset.sum_insert (by decide), Finset.sum_singleton, one, two, six, twentyFour, slope_eq,
    slope_eq, slope_eq, slope_eq, pow_one, Nat.cast_one, div_one, add_assoc, add_assoc]
  rfl

/-! ## The integrator -/

/-- The model of `1 / s`. -/
def integrator : StateSpace Rat := ⟨[[0]], [1], [1], 0⟩

theorem realize?_integrator : realize? ([1] : List Rat) [1, 0] = some integrator := by
  have fields : (realize? ([1] : List Rat) [1, 0]).map (fun model =>
      (model.a, model.b, model.c, model.d)) = some ([[0]], [1], [1], 0) := by
    decide +kernel
  obtain ⟨⟨a, b, c, d⟩, realized, same⟩ := Option.map_eq_some_iff.mp fields
  simp only [Prod.mk.injEq] at same
  obtain ⟨rfl, rfl, rfl, rfl⟩ := same
  exact realized

theorem advance_integrator (x u h : Rat) : integrator.advance [x] u h = [x + u * h] := by
  have derivative_eq (y : Rat) : integrator.derivative [y] u = [u] := by
    norm_num [integrator, derivative, Vector.add, Vector.dot]
  have positive : (integrator.order == 0) = false := rfl
  simp only [advance, positive, derivative_eq, Vector.add, Vector.scale, List.map_cons,
    List.map_nil, List.zipWith_cons_cons, List.zipWith_nil_left, Bool.false_eq_true, ↓reduceIte]
  norm_num
  ring

theorem output_integrator (x u : Rat) : integrator.output [x] u = x := by
  norm_num [integrator, output, order, Vector.dot]

end StateSpace

namespace Payload

/-- What a block puts out on its own in some ticks. -/
def outputs [Host] {α : Type} [Scalar α] (payload : Payload α) (dt : α)
    (ticks : List (α × Inputs α)) :
    Except Fault (List α) := do
  let memory ← payload.start
  let (outputs, _) ← payload.ticksFrom dt ticks memory
  return outputs

theorem outputs_of_ticksFrom [Host] {α : Type} [Scalar α] {payload : Payload α} {dt : α}
    {ticks : List (α × Inputs α)} {memory last : Memory α} {ys : List α}
    (started : payload.start = .ok memory)
    (ran : payload.ticksFrom dt ticks memory = .ok (ys, last)) :
    payload.outputs dt ticks = .ok ys := by
  simp [outputs, started, ran, bind, Except.bind, pure, Except.pure]

theorem ticksFrom_cons {α : Type} [Scalar α] {payload : Payload α} {time dt y : α}
    {inputs : Inputs α} {rest : List (α × Inputs α)} {memory next last : Memory α} {ys : List α}
    (reads : payload.output time dt inputs memory = .ok (y, next))
    (later : payload.ticksFrom dt rest (payload.update time dt inputs next) = .ok (ys, last)) :
    payload.ticksFrom dt ((time, inputs) :: rest) memory = .ok (y :: ys, last) := by
  unfold ticksFrom at later
  simp [ticksFrom, ticksWith, reads, later, bind, Except.bind, pure, Except.pure]

/-- A transfer function `1 / s` and an integrator that remember the same put out the same. -/
theorem ticksFrom_integrator (num den : List Rat) (initial dt : Rat)
    (ticks : List (Rat × Inputs Rat)) (x : Rat) : ∃ outputs last,
      (tf num den (some StateSpace.integrator)).ticksFrom dt ticks (.tf [x]) =
        .ok (outputs, .tf [last]) ∧
      (integrator initial).ticksFrom dt ticks (.integrator x) = .ok (outputs, .integrator last) := by
  induction ticks generalizing x with
  | nil => exact ⟨[], x, rfl, rfl⟩
  | cons tick rest ih =>
      obtain ⟨time, inputs⟩ := tick
      obtain ⟨outputs, last, first, second⟩ := ih (x + Inputs.value inputs 0 * dt)
      have reads : (tf num den (some StateSpace.integrator)).output time dt inputs (.tf [x]) =
          .ok (x, .tf [x]) :=
        congrArg (fun y => Except.ok (y, Memory.tf [x])) (StateSpace.output_integrator x _)
      rw [← StateSpace.advance_integrator] at first
      exact ⟨x :: outputs, last, ticksFrom_cons reads first, ticksFrom_cons rfl second⟩

/-- Whatever the constants of a diagram, these are the payloads of a transfer function `1 / s` and of
an integrator that starts at zero. -/
theorem resolved_integrators [Host] (constants : Constants) (step : Setting Rat) (id : String) :
    resolved constants step ⟨id, "tf", [("num", .list [.int 1]), ("den", .list [.int 1, .int 0])]⟩ =
      .ok (tf [1] [1, 0] (some StateSpace.integrator)) ∧
    resolved constants step ⟨id, "integrator", [("initial", .int 0)]⟩ = .ok (integrator 0) := by
  have one : (Scalar.ofFloat 1.0 : Rat) = 1 := by decide +kernel
  have zero : (Scalar.ofFloat 0.0 : Rat) = 0 := by decide +kernel
  have size : StateSpace.matrixSize ([1, 0] : List Rat) = 1 := by decide +kernel
  have model : modelOf ([1] : List Rat) [1, 0] = .ok (some StateSpace.integrator) := by
    rw [← StateSpace.realize?_integrator]
    exact modelOf_eq_ok (size ▸ Host.arrayLength_pos)
  rw [← one, ← zero] at model ⊢
  exact ⟨congrArg (fun model => (outcome (do
    return tf _ _ (← Noted.ofExcept model) : Noted Fault (Payload Rat)) []).1) model, rfl⟩

end Payload

/-- **A step of the classic method is a Taylor step of order four**, for models of every order.
Integrating `1 / s` adds the input times the step, as an integrator block does, so on any sequence
of inputs the transfer function `1 / s` and an integrator that starts at zero put out the same. -/
theorem StateSpace.HasShape.advance_eq_taylor [Host] {model : StateSpace Rat}
    (shape : model.HasShape) :
    (∀ (x : Fin model.order → Rat) (u h : Rat), model.advance (List.ofFn x) u h =
      List.ofFn (x + ∑ j ∈ Finset.Icc 1 4, (h ^ j / (j ! : Rat)) •
        (model.stateMatrix Rat ^ j *ᵥ x +
          u • (model.stateMatrix Rat ^ (j - 1) *ᵥ model.inputColumn Rat)))) ∧
    (∃ integrator, realize? [1] [1, 0] = some integrator ∧
      ∀ x u h : Rat, integrator.advance [x] u h = [x + u * h]) ∧
    ∀ (constants : Constants) (step : Setting Rat) (id : String) (dt : Rat)
      (ticks : List (Rat × Inputs Rat)), ∃ transfer block outputs,
      Payload.resolved constants step
        ⟨id, "tf", [("num", .list [.int 1]), ("den", .list [.int 1, .int 0])]⟩ = .ok transfer ∧
      Payload.resolved constants step ⟨id, "integrator", [("initial", .int 0)]⟩ = .ok block ∧
      transfer.outputs dt ticks = .ok outputs ∧ block.outputs dt ticks = .ok outputs := by
  refine ⟨fun x u h => ?_, ⟨integrator, realize?_integrator, advance_integrator⟩, ?_⟩
  · rw [shape.advance_eq_slopes, sum_taylor_eq_slopes]
  · intro constants step id dt ticks
    obtain ⟨transfer, block⟩ := Payload.resolved_integrators constants step id
    obtain ⟨outputs, last, first, second⟩ :=
      Payload.ticksFrom_integrator [1] [1, 0] 0 dt ticks 0
    have rest : (Payload.tf [1] [1, 0] (some integrator)).start = .ok (.tf [0]) := by
      norm_num [Payload.start, StateSpace.rest, Vector.zero, order, integrator]
    exact ⟨_, _, outputs, transfer, block, Payload.outputs_of_ticksFrom rest first,
      Payload.outputs_of_ticksFrom rfl second⟩

open Host.Usual

/-- A damped oscillator, displaced and driven; and two integrators over two ticks. -/
theorem StateSpace.advance_eq_taylor_oscillator :
    let oscillator : StateSpace Rat := ⟨[[0, 1], [-2, -3]], [0, 1], [1, 0], 0⟩
    oscillator.HasShape ∧ oscillator.advance [1, 0] 4 (1 / 2) = [223 / 192, 89 / 192] ∧
      (∀ (x : Fin oscillator.order → Rat) (u h : Rat), oscillator.advance (List.ofFn x) u h =
        List.ofFn (x + ∑ j ∈ Finset.Icc 1 4, (h ^ j / (j ! : Rat)) •
          (oscillator.stateMatrix Rat ^ j *ᵥ x +
            u • (oscillator.stateMatrix Rat ^ (j - 1) *ᵥ oscillator.inputColumn Rat)))) ∧
      (∃ integrator, realize? [1] [1, 0] = some integrator ∧
        ∀ x u h : Rat, integrator.advance [x] u h = [x + u * h]) ∧
      ∃ transfer block : Payload Rat,
        Payload.resolved .standard (.ofFloat 0.5)
          ⟨"i", "tf", [("num", .list [.int 1]), ("den", .list [.int 1, .int 0])]⟩ = .ok transfer ∧
        Payload.resolved .standard (.ofFloat 0.5) ⟨"i", "integrator", [("initial", .int 0)]⟩ =
          .ok block ∧
        transfer.outputs (1 / 2) [(0, [(0, 3)]), (1 / 2, [(0, 5)])] = .ok [0, 3 / 2] ∧
        block.outputs (1 / 2) [(0, [(0, 3)]), (1 / 2, [(0, 5)])] = .ok [0, 3 / 2] := by
  intro oscillator
  have shape : oscillator.HasShape := ⟨rfl, by decide, rfl⟩
  obtain ⟨taylor, adds, alike⟩ := shape.advance_eq_taylor
  obtain ⟨transfer, block, outputs, isTransfer, isBlock, first, second⟩ :=
    alike .standard (.ofFloat 0.5) "i" (1 / 2) [(0, [(0, 3)]), (1 / 2, [(0, 5)])]
  obtain rfl : block = .integrator 0 :=
    Except.ok.inj (isBlock.symm.trans (Payload.resolved_integrators _ _ _).2)
  have sums : (Payload.integrator 0 : Payload Rat).outputs (1 / 2)
      [(0, [(0, 3)]), (1 / 2, [(0, 5)])] = .ok [0, 3 / 2] := by decide +kernel
  obtain rfl := Except.ok.inj (second.symm.trans sums)
  exact ⟨shape, by decide +kernel, taylor, adds, transfer, _, isTransfer, isBlock, first, second⟩

end SignalFlow
