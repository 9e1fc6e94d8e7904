import SignalFlow.Linear.Recurrence
import SignalFlow.Linear.StateSpace
import Mathlib.Data.List.TakeWhile

/-! # The sizes of realized models

The matrices of a model fit together if they have the sizes that its order demands
(`StateSpace.HasShape`). Whatever the arithmetic, a realized model does
(`StateSpace.hasShape_of_realize?`), integrating it keeps the size of the state, and a realized
recurrence has coefficients on both sides.
-/

namespace SignalFlow

variable {α : Type} [Scalar α]

namespace Vector

@[simp] theorem length_add (x y : List α) : (add x y).length = min x.length y.length := by
  simp [add]

@[simp] theorem length_scale (factor : α) (x : List α) : (scale factor x).length = x.length := by
  simp [scale]

@[simp] theorem length_zero (size : Nat) : (zero size : List α).length = size := by
  simp [zero]

end Vector

namespace Polynomial

/-- Trimming leaves nothing exactly if all coefficients count as zero. -/
theorem trim_clean_eq_nil_iff (coefficients : List α) :
    trim (clean coefficients) = [] ↔ isZero coefficients = true := by
  rw [trim, isZero, List.dropWhile_eq_nil_iff, List.all_eq_true]

theorem normalize_ne_nil (coefficients : List α) : normalize coefficients ≠ [] := by
  unfold normalize
  split
  · exact List.cons_ne_nil _ _
  · assumption

theorem length_normalize_pos (coefficients : List α) : 0 < (normalize coefficients).length :=
  List.length_pos_iff.mpr (normalize_ne_nil coefficients)

end Polynomial

namespace StateSpace

/-- The matrices of a model have the sizes that its order demands. -/
structure HasShape (model : StateSpace α) : Prop where
  length_a : model.a.length = model.order
  length_row : ∀ row ∈ model.a, row.length = model.order
  length_c : model.c.length = model.order

@[simp] theorem length_unit (size place : Nat) : (unit size place : List α).length = size := by
  simp [unit]

@[simp] theorem length_fit (size : Nat) (numerator : List α) :
    (fit size numerator).length = size := by
  rw [fit, List.length_append, List.length_replicate, List.length_drop]
  omega

@[simp] theorem order_canonical (a b : List α) : (canonical a b).order = a.length := by
  simp [canonical, order]

theorem hasShape_canonical {a b : List α} (length_eq : b.length = a.length + 1) :
    (canonical a b).HasShape := by
  refine ⟨?_, ?_, ?_⟩
  · rw [order_canonical, canonical, List.length_map, List.length_range]
  · intro row member
    obtain ⟨place, -, rfl⟩ := List.mem_map.mp member
    rw [order_canonical]
    split
    · exact length_unit _ _
    · rw [List.length_map, List.length_reverse]
  · rw [order_canonical, canonical, List.length_reverse, List.length_zipWith, List.length_tail,
      length_eq]
    omega

/-- A realized model is a gain or in canonical form, by the degree of its denominator. -/
theorem realize?_eq_some {num den : List α} {model : StateSpace α}
    (realized : realize? num den = some model) :
    Polynomial.isZero den = false ∧ ∃ leading rest,
      Polynomial.normalize den = leading :: rest ∧
      ((rest = [] ∧ model = ⟨[], [], [], (Polynomial.normalize num).headD 0.0 / leading⟩) ∨
        (rest ≠ [] ∧ model = canonical (rest.map (· / leading))
          ((fit (rest.length + 1) (Polynomial.normalize num)).map (· / leading)))) := by
  unfold realize? at realized
  split at realized
  · cases realized
  · next notZero =>
      refine ⟨by simpa using notZero, ?_⟩
      split at realized
      · cases realized
      · next leading found =>
          cases realized
          exact ⟨leading, [], found, .inl ⟨rfl, rfl⟩⟩
      · next leading rest notSingle found =>
          cases realized
          refine ⟨leading, rest, found, .inr ⟨?_, rfl⟩⟩
          rintro rfl
          exact notSingle rfl

/-- The matrix that there has to be memory for is that of the model. -/
theorem matrixSize_of_realize? {num den : List α} {model : StateSpace α}
    (realized : realize? num den = some model) : matrixSize den = model.order * model.order := by
  obtain ⟨-, leading, rest, found, ⟨rfl, rfl⟩ | ⟨-, rfl⟩⟩ := realize?_eq_some realized
  · rw [matrixSize, found]
    rfl
  · rw [matrixSize, found, order_canonical, List.length_map, List.length_cons, Nat.add_sub_cancel]

/-- **A realized model has matrices that fit together.** -/
theorem hasShape_of_realize? {num den : List α} {model : StateSpace α}
    (realized : realize? num den = some model) : model.HasShape := by
  obtain ⟨-, leading, rest, -, ⟨-, rfl⟩ | ⟨-, rfl⟩⟩ := realize?_eq_some realized
  · exact ⟨rfl, by simp, rfl⟩
  · exact hasShape_canonical (by simp)

/-! ## Integrating a model -/

namespace HasShape

variable {model : StateSpace α} (shape : model.HasShape)
include shape

theorem length_derivative (x : List α) (u : α) : (model.derivative x u).length = model.order := by
  have length_b : model.b.length = model.order := rfl
  simp [derivative, shape.length_a, length_b]

theorem length_advance {x : List α} (length_eq : x.length = model.order) (u h : α) :
    (model.advance x u h).length = model.order := by
  unfold advance
  split
  · exact length_eq
  · simp [length_eq, shape.length_derivative]

end HasShape

end StateSpace

/-- A realized recurrence has coefficients on both sides. -/
theorem Recurrence.length_realize_pos (num den : List α) :
    0 < (realize num den).num.length ∧ 0 < (realize num den).den.length := by
  refine ⟨?_, ?_⟩
  · rw [realize, List.length_map, numerator]
    split
    · exact Nat.one_pos
    · next notZero =>
        rw [List.length_pos_iff]
        intro empty
        rw [Polynomial.isZero, empty] at notZero
        exact notZero rfl
  · rw [realize, List.length_map, denominator]
    split
    · exact Nat.one_pos
    · exact Polynomial.length_normalize_pos den

end SignalFlow
