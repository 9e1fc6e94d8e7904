import SignalFlow.Proofs.Linear.Shape
import Mathlib.Data.List.GetD
import Mathlib.Data.Matrix.Mul
import Mathlib.Algebra.BigOperators.Fin
import Mathlib.Algebra.CharZero.Defs
import Mathlib.Data.Rat.Cast.CharZero
import Mathlib.Tactic.FieldSimp
import Mathlib.Tactic.LinearCombination
import Mathlib.Tactic.NormNum

/-! # The transfer function of a realized model

A model driven by `exp (s t)` answers, once settled, with `exp (s t)` times its transfer function at
`s`: the state `x` solves `s x = A x + B`, and the factor is `C x + D`. For a proper transfer
function computed with exactly, the realized model has just this transfer function
(`StateSpace.realize?_isExact`). The point `s` may be taken from any field that contains the
rational numbers, so the complex numbers are covered.

In canonical form the first `n - 1` equations say that the state consists of the powers of `s`, up to
a factor, and the last one says that the factor is the inverse of the denominator.
-/

open Matrix

namespace SignalFlow

theorem Scalar.abs_rat (a : Rat) : Scalar.abs a = |a| := by
  unfold Scalar.abs
  split
  · next negative =>
      norm_num at negative
      rw [abs_of_neg negative]
  · next notNegative =>
      norm_num at notNegative
      rw [abs_of_nonneg notNegative]

/-! ## Polynomials in exact arithmetic -/

namespace Polynomial

/-- The value of a polynomial at a point of a field. -/
def value {K : Type*} [Field K] (s : K) : List Rat → K
  | [] => 0
  | coefficient :: rest => coefficient * s ^ rest.length + value s rest

theorem isNegligible_iff {coefficient : Rat} :
    isNegligible coefficient = true ↔ |coefficient| < 1e-12 := by
  rw [isNegligible, decide_eq_true_iff, Scalar.abs_rat]
  rfl

@[simp] theorem clean_rat (coefficients : List Rat) : clean coefficients = coefficients := by
  simp [clean, Scalar.isFinite]

theorem isZero_eq_false_iff {coefficients : List Rat} :
    isZero coefficients = false ↔ ∃ c ∈ coefficients, 1e-12 ≤ |c| := by
  rw [isZero, clean_rat, List.all_eq_false]
  simp only [isNegligible_iff, not_lt]

/-- A polynomial that is not zero has a leading coefficient that does not vanish. -/
theorem exists_normalize_eq_cons {coefficients : List Rat} (notZero : isZero coefficients = false) :
    ∃ leading rest, normalize coefficients = leading :: rest ∧ leading ≠ 0 := by
  cases trimmed : trim (clean coefficients) with
  | nil =>
      rw [trim_clean_eq_nil_iff, notZero] at trimmed
      cases trimmed
  | cons leading rest =>
      refine ⟨leading, rest, by rw [normalize, trimmed], ?_⟩
      have notNegligible : isNegligible leading = false := by
        have first := List.head?_dropWhile_not isNegligible (clean coefficients)
        rw [← trim.eq_1, trimmed] at first
        exact first
      rintro rfl
      norm_num [← Bool.not_eq_true, isNegligible_iff] at notNegligible

section Value

variable {K : Type*} [Field K] (s : K)

theorem value_map_div [CharZero K] (coefficients : List Rat) (divisor : Rat) :
    value s (coefficients.map (· / divisor)) = value s coefficients / divisor := by
  induction coefficients with
  | nil => simp [value]
  | cons coefficient rest ih =>
      rw [List.map_cons, value, value, ih, List.length_map, Rat.cast_div]
      ring

theorem value_replicate_append (count : Nat) (coefficients : List Rat) :
    value s (List.replicate count 0 ++ coefficients) = value s coefficients := by
  induction count with
  | zero => rfl
  | succ count ih =>
      rw [List.replicate_succ, List.cons_append, value, ih, Rat.cast_zero, zero_mul, zero_add]

/-- The value of a polynomial from its coefficients in ascending order. -/
theorem value_eq_sum (coefficients : List Rat) :
    value s coefficients =
      ∑ j ∈ Finset.range coefficients.length, (coefficients.reverse.getD j 0 : K) * s ^ j := by
  induction coefficients with
  | nil => simp [value]
  | cons coefficient rest ih =>
      rw [List.length_cons, Finset.sum_range_succ, value, ih, add_comm]
      congr 1
      · refine Finset.sum_congr rfl fun j inside => ?_
        have inside : j < rest.reverse.length := by simpa using inside
        rw [List.reverse_cons, List.getD_append _ _ _ _ inside]
      · simp

end Value

end Polynomial

namespace StateSpace

open SignalFlow.Polynomial (value)

/-! ## The equations of a model -/

section Equations

variable (K : Type*) [Field K] (model : StateSpace Rat)

/-- The matrix `A` of a model. -/
def stateMatrix : Matrix (Fin model.order) (Fin model.order) K :=
  .of fun i j => (((model.a.getD i []).getD j 0 : Rat) : K)

/-- The column `B` of a model. -/
def inputColumn : Fin model.order → K := fun i => ((model.b.getD i 0 : Rat) : K)

/-- The row `C` of a model. -/
def outputRow : Fin model.order → K := fun j => ((model.c.getD j 0 : Rat) : K)

end Equations

theorem dot_ofFn {size : Nat} {row : List Rat} (length_eq : row.length = size)
    (x : Fin size → Rat) : Vector.dot row (List.ofFn x) = ∑ j : Fin size, row.getD j 0 * x j := by
  have products : List.zipWith (· * ·) row (List.ofFn x) =
      List.ofFn fun j : Fin size => row.getD j 0 * x j := by
    apply List.ext_getElem
    · simp [length_eq]
    · intro place inside otherInside
      have rowInside : place < row.length := by simp_all
      simp [rowInside]
  have zero : (0.0 : Rat) = 0 := by norm_num
  rw [Vector.dot, products, ← List.sum_ofFn, List.sum_eq_foldl, ← zero]

namespace HasShape

variable {model : StateSpace Rat} (shape : model.HasShape)
include shape

/-- The rate of change of a state is that of the equations. -/
theorem derivative_eq (x : Fin model.order → Rat) (u : Rat) :
    model.derivative (List.ofFn x) u =
      List.ofFn (model.stateMatrix Rat *ᵥ x + u • model.inputColumn Rat) := by
  apply List.ext_getElem
  · rw [shape.length_derivative, List.length_ofFn]
  · intro place inside otherInside
    rw [shape.length_derivative] at inside
    have rowInside : place < model.a.length := shape.length_a ▸ inside
    have row := shape.length_row _ (List.getElem_mem rowInside)
    have columnInside : place < model.b.length := inside
    simp only [derivative, Vector.add, List.getElem_zipWith, List.getElem_map, dot_ofFn row,
      List.getElem_ofFn, Pi.add_apply, Pi.smul_apply, mulVec, dotProduct, stateMatrix, inputColumn,
      of_apply, smul_eq_mul, Rat.cast_id, List.getD_eq_getElem _ _ rowInside,
      List.getD_eq_getElem _ _ columnInside]
    rw [mul_comm u]

/-- The output in a state is that of the equations. -/
theorem output_eq (x : Fin model.order → Rat) (u : Rat) :
    model.output (List.ofFn x) u = model.outputRow Rat ⬝ᵥ x + u * model.d := by
  have row : Vector.dot model.c (List.ofFn x) = model.outputRow Rat ⬝ᵥ x := by
    simp only [dot_ofFn shape.length_c, dotProduct, outputRow, Rat.cast_id]
  unfold output
  split
  · next gain =>
      have none : IsEmpty (Fin model.order) := by
        rw [beq_iff_eq.mp gain]
        infer_instance
      rw [dotProduct, Finset.sum_of_isEmpty, zero_add]
      exact mul_comm _ _
  · rw [row, mul_comm u]

end HasShape

/-! ## The canonical form -/

section Canonical

variable {K : Type*} [Field K] (a b : List Rat)

theorem stateMatrix_canonical (i j : Fin (canonical a b).order) :
    (canonical a b).stateMatrix K i j =
      if (i : Nat) + 1 < a.length then if (j : Nat) = i + 1 then 1 else 0
      else -((a.reverse.getD j 0 : Rat) : K) := by
  have size := order_canonical a b
  have inside : (i : Nat) < a.length := size ▸ i.isLt
  have otherInside : (j : Nat) < a.length := size ▸ j.isLt
  have one : (1.0 : Rat) = 1 := by norm_num
  have zero : (0.0 : Rat) = 0 := by norm_num
  have row : (canonical a b).a.getD i [] =
      if (i : Nat) + 1 < a.length then unit a.length (i + 1) else a.reverse.map (- ·) := by
    simp [canonical, inside]
  rw [stateMatrix, of_apply, row]
  split
  · simp only [unit, List.getD_eq_getElem?_getD, List.getElem?_map, List.getElem?_range otherInside,
      Option.map_some, Option.getD_some, beq_iff_eq, one, zero]
    split <;> simp
  · simp [List.getD_eq_getElem?_getD, otherInside]

theorem inputColumn_canonical (i : Fin (canonical a b).order) :
    (canonical a b).inputColumn K i = if (i : Nat) + 1 = a.length then 1 else 0 := by
  have size := order_canonical a b
  have inside : (i : Nat) < a.length := size ▸ i.isLt
  have last : (i : Nat) = a.length - 1 ↔ (i : Nat) + 1 = a.length := by omega
  have one : (1.0 : Rat) = 1 := by norm_num
  have zero : (0.0 : Rat) = 0 := by norm_num
  simp only [inputColumn, canonical, unit, List.getD_eq_getElem?_getD, List.getElem?_map,
    List.getElem?_range inside, Option.map_some, Option.getD_some, beq_iff_eq, one, zero, last]
  split <;> simp

variable {a b}

/-- The equations before the last one shift the state. -/
theorem equation_canonical_of_lt (y : Fin (canonical a b).order → K)
    (i : Fin (canonical a b).order) (inside : (i : Nat) + 1 < (canonical a b).order) :
    ((canonical a b).stateMatrix K *ᵥ y + (canonical a b).inputColumn K) i = y ⟨i + 1, inside⟩ := by
  have size := order_canonical a b
  have notLast : (i : Nat) + 1 < a.length := size ▸ inside
  simp only [Pi.add_apply, mulVec, dotProduct, stateMatrix_canonical, inputColumn_canonical,
    notLast, if_true, notLast.ne, if_false, add_zero, ite_mul, one_mul, zero_mul]
  rw [Finset.sum_eq_single ⟨i + 1, inside⟩]
  · rw [if_pos rfl]
  · intro j _ different
    rw [if_neg fun same => different (Fin.ext same)]
  · intro absent
    exact absurd (Finset.mem_univ _) absent

/-- The last equation closes the shift by the coefficients of the denominator. -/
theorem equation_canonical_last (y : Fin (canonical a b).order → K)
    (i : Fin (canonical a b).order) (last : (i : Nat) + 1 = (canonical a b).order) :
    ((canonical a b).stateMatrix K *ᵥ y + (canonical a b).inputColumn K) i =
      1 - ∑ j : Fin (canonical a b).order, ((a.reverse.getD j 0 : Rat) : K) * y j := by
  have size := order_canonical a b
  have isLast : (i : Nat) + 1 = a.length := last.trans size
  simp only [Pi.add_apply, mulVec, dotProduct, stateMatrix_canonical, inputColumn_canonical,
    isLast, lt_irrefl, if_true, if_false, neg_mul, Finset.sum_neg_distrib]
  rw [← sub_eq_neg_add]

/-- The powers of a point, up to a factor. -/
def powers (size : Nat) (s factor : K) : Fin size → K := fun i => s ^ (i : Nat) * factor

theorem sum_reverse_mul_powers {size : Nat} {coefficients : List Rat}
    (length_eq : coefficients.length = size) (s factor : K) :
    ∑ j : Fin size, ((coefficients.reverse.getD j 0 : Rat) : K) * powers size s factor j =
      value s coefficients * factor := by
  subst length_eq
  rw [Polynomial.value_eq_sum, Finset.sum_range, Finset.sum_mul]
  exact Finset.sum_congr rfl fun j _ => (mul_assoc _ _ _).symm

/-- A state that is shifted consists of the powers of the point. -/
theorem eq_powers_of_shift {size : Nat} (positive : 0 < size) {s : K} {y : Fin size → K}
    (shift : ∀ (i : Fin size) (inside : (i : Nat) + 1 < size), s * y i = y ⟨i + 1, inside⟩) :
    y = powers size s (y ⟨0, positive⟩) := by
  have entry (i : Nat) (inside : i < size) : y ⟨i, inside⟩ = s ^ i * y ⟨0, positive⟩ := by
    induction i with
    | zero => rw [pow_zero, one_mul]
    | succ i ih => rw [← shift ⟨i, by omega⟩ inside, ih, pow_succ', mul_assoc]
  funext i
  exact entry i i.isLt

/-- The last equation determines the factor of the powers. -/
theorem closing_iff {s factor : K} {i : Fin (canonical a b).order}
    (last : (i : Nat) + 1 = (canonical a b).order) :
    s * powers (canonical a b).order s factor i = 1 - value s a * factor ↔
      value s (1 :: a) * factor = 1 := by
  have size : a.length = i + 1 := (last.trans (order_canonical a b)).symm
  have denominator : value s (1 :: a) = s * s ^ (i : Nat) + value s a := by
    rw [value, Rat.cast_one, one_mul, size, pow_succ']
  rw [powers, denominator]
  constructor
  · intro closes
    linear_combination closes
  · intro inverse
    linear_combination inverse

/-- **The equations of a canonical form have one solution where its denominator does not vanish**:
the powers of the point, divided by the denominator. -/
theorem equations_canonical_iff {s : K} (denominator : value s (1 :: a) ≠ 0)
    (y : Fin (canonical a b).order → K) :
    s • y = (canonical a b).stateMatrix K *ᵥ y + (canonical a b).inputColumn K ↔
      y = powers _ s (value s (1 :: a))⁻¹ := by
  have size := order_canonical a b
  constructor
  · intro solves
    have equation (i : Fin (canonical a b).order) := congrFun solves i
    by_cases positive : 0 < (canonical a b).order
    · have shifted : y = powers _ s (y ⟨0, positive⟩) := by
        refine eq_powers_of_shift positive fun i inside => ?_
        rw [← equation_canonical_of_lt y i inside]
        exact equation i
      let final : Fin (canonical a b).order := ⟨(canonical a b).order - 1, by omega⟩
      have last : (final : Nat) + 1 = (canonical a b).order := Nat.sub_add_cancel positive
      have closing := equation final
      rw [equation_canonical_last y final last, shifted, sum_reverse_mul_powers size.symm,
        Pi.smul_apply, smul_eq_mul, closing_iff last] at closing
      rw [shifted, eq_inv_of_mul_eq_one_right closing]
    · funext i
      exact absurd i.pos positive
  · rintro rfl
    funext i
    by_cases inside : (i : Nat) + 1 < (canonical a b).order
    · rw [equation_canonical_of_lt _ i inside, Pi.smul_apply, smul_eq_mul, powers, powers,
        pow_succ', mul_assoc]
    · have last : (i : Nat) + 1 = (canonical a b).order := by omega
      rw [equation_canonical_last _ i last, sum_reverse_mul_powers size.symm, Pi.smul_apply,
        smul_eq_mul, closing_iff last]
      exact mul_inv_cancel₀ denominator

theorem value_zipWith_sub_mul [CharZero K] (s : K) (direct : Rat) {numerator denominator : List Rat}
    (length_eq : numerator.length = denominator.length) :
    value s (List.zipWith (fun n d => n - d * direct) numerator denominator) =
      value s numerator - value s denominator * direct := by
  induction numerator generalizing denominator with
  | nil =>
      obtain rfl := List.length_eq_zero_iff.mp length_eq.symm
      simp [value]
  | cons n numerator ih =>
      obtain ⟨d, denominator, rfl⟩ := List.exists_cons_of_length_eq_add_one length_eq.symm
      rw [List.length_cons, List.length_cons, Nat.add_right_cancel_iff] at length_eq
      rw [List.zipWith_cons_cons, value, value, value, ih length_eq, List.length_zipWith, length_eq,
        min_self, Rat.cast_sub, Rat.cast_mul]
      ring

/-- The output of a canonical form for the powers of a point is the value of its numerator. -/
theorem output_canonical [CharZero K] {direct : Rat} (length_eq : b.length = a.length) {s : K}
    (denominator : value s (1 :: a) ≠ 0) :
    (canonical a (direct :: b)).outputRow K ⬝ᵥ powers _ s (value s (1 :: a))⁻¹ +
        ((canonical a (direct :: b)).d : K) =
      value s (direct :: b) / value s (1 :: a) := by
  have size := order_canonical a (direct :: b)
  have row : (canonical a (direct :: b)).c =
      (List.zipWith (fun n d => n - d * direct) b a).reverse := rfl
  have sum : (canonical a (direct :: b)).outputRow K ⬝ᵥ powers _ s (value s (1 :: a))⁻¹ =
      (value s b - value s a * direct) * (value s (1 :: a))⁻¹ := by
    rw [← value_zipWith_sub_mul s direct length_eq]
    simp only [dotProduct, outputRow, row]
    exact sum_reverse_mul_powers (by simp [length_eq]) s _
  have through : ((canonical a (direct :: b)).d : K) = direct := rfl
  rw [sum, through, eq_div_iff denominator, add_mul, mul_assoc, inv_mul_cancel₀ denominator]
  simp only [value, length_eq, Rat.cast_one]
  ring

end Canonical

/-! ## Realized models -/

theorem exists_fit_eq_cons (size : Nat) (numerator : List Rat) :
    ∃ direct rest, fit (size + 1) numerator = direct :: rest ∧ rest.length = size := by
  obtain ⟨direct, rest, same⟩ := List.exists_cons_of_length_eq_add_one
    (length_fit (size + 1) numerator)
  have length := length_fit (size + 1) numerator
  rw [same, List.length_cons, Nat.add_right_cancel_iff] at length
  exact ⟨direct, rest, same, length⟩

theorem value_fit {K : Type*} [Field K] (s : K) {size : Nat} {numerator : List Rat}
    (proper : numerator.length ≤ size) : value s (fit size numerator) = value s numerator := by
  have zero : (0.0 : Rat) = 0 := by norm_num
  rw [fit, Nat.sub_eq_zero_of_le proper, List.drop_zero, zero, Polynomial.value_replicate_append]

/-- The realized model of a proper transfer function is in canonical form, also that of order
zero. -/
theorem realize?_of_proper {num den rest : List Rat} {leading : Rat}
    (notZero : Polynomial.isZero den = false) (normalized : Polynomial.normalize den = leading :: rest)
    (proper : (Polynomial.normalize num).length ≤ rest.length + 1) :
    realize? num den = some (canonical (rest.map (· / leading))
      ((fit (rest.length + 1) (Polynomial.normalize num)).map (· / leading))) := by
  unfold realize?
  rw [notZero, normalized]
  cases rest with
  | cons second rest => rfl
  | nil =>
      -- A numerator of degree zero has nothing but its leading coefficient.
      have positive := Polynomial.length_normalize_pos num
      obtain ⟨only, same⟩ := List.length_eq_one_iff.mp (Nat.le_antisymm proper positive)
      rw [same]
      rfl

/-- A model has a transfer function: its equations are what the model computes with, and wherever
the denominator does not vanish they have one solution, for which the output is the quotient. -/
structure HasTransfer (model : StateSpace Rat) (num den : List Rat) : Prop where
  order_eq : model.order = den.length - 1
  derivative_eq (x : Fin model.order → Rat) (u : Rat) : model.derivative (List.ofFn x) u =
    List.ofFn (model.stateMatrix Rat *ᵥ x + u • model.inputColumn Rat)
  output_eq (x : Fin model.order → Rat) (u : Rat) :
    model.output (List.ofFn x) u = model.outputRow Rat ⬝ᵥ x + u * model.d
  transfer {K : Type} [Field K] [CharZero K] {s : K} : value s den ≠ 0 →
    ∃ x, (∀ y, s • y = model.stateMatrix K *ᵥ y + model.inputColumn K ↔ y = x) ∧
      model.outputRow K ⬝ᵥ x + (model.d : K) = value s num / value s den

/-- **Realization is exact for proper transfer functions**: the model of such a function, cut to its
coefficients that count, has that transfer function. -/
theorem realize?_isExact {num den : List Rat} (significant : ∃ c ∈ den, 1e-12 ≤ |c|)
    (proper : (Polynomial.normalize num).length ≤ (Polynomial.normalize den).length) :
    ∃ model, realize? num den = some model ∧
      model.HasTransfer (Polynomial.normalize num) (Polynomial.normalize den) := by
  have notZero := Polynomial.isZero_eq_false_iff.mpr significant
  obtain ⟨leading, rest, normalized, nonzero⟩ := Polynomial.exists_normalize_eq_cons notZero
  rw [normalized] at proper ⊢
  rw [List.length_cons] at proper
  have realized := realize?_of_proper notZero normalized proper
  have shape := hasShape_of_realize? realized
  refine ⟨_, realized, ?_, shape.derivative_eq, shape.output_eq, ?_⟩
  · simp
  · intro K _ _ s denominator
    obtain ⟨direct, fitted, same, length_eq⟩ :=
      exists_fit_eq_cons rest.length (Polynomial.normalize num)
    have monic : 1 :: rest.map (· / leading) = (leading :: rest).map (· / leading) := by
      rw [List.map_cons, div_self nonzero]
    have divided : value s (1 :: rest.map (· / leading)) = value s (leading :: rest) / leading := by
      rw [monic, Polynomial.value_map_div]
    have numerator : value s (direct / leading :: fitted.map (· / leading)) =
        value s (Polynomial.normalize num) / leading := by
      rw [← List.map_cons (f := (· / leading)), Polynomial.value_map_div, ← same, value_fit s proper]
    have castNonzero : (leading : K) ≠ 0 := Rat.cast_ne_zero.mpr nonzero
    have closed : value s (1 :: rest.map (· / leading)) ≠ 0 := by
      rw [divided]
      exact div_ne_zero denominator castNonzero
    rw [same, List.map_cons]
    refine ⟨_, equations_canonical_iff closed, ?_⟩
    rw [output_canonical (by simp [length_eq]) closed, numerator, divided,
      div_div_div_cancel_right₀ castNonzero]

/-- The realization of `(6 s² + 5) / (2 s² + 3 s + 4)`, written with a leading coefficient that does
not count. -/
theorem realize?_isExact_secondOrder :
    (∃ c ∈ ([1e-13, 2, 3, 4] : List Rat), 1e-12 ≤ |c|) ∧
      (Polynomial.normalize ([6, 0, 5] : List Rat)).length ≤
        (Polynomial.normalize ([1e-13, 2, 3, 4] : List Rat)).length ∧
      ∃ model, realize? [6, 0, 5] [1e-13, 2, 3, 4] = some model ∧
        model.HasTransfer [6, 0, 5] [2, 3, 4] := by
  have numerator : Polynomial.normalize ([6, 0, 5] : List Rat) = [6, 0, 5] := by decide +kernel
  have denominator : Polynomial.normalize ([1e-13, 2, 3, 4] : List Rat) = [2, 3, 4] := by
    decide +kernel
  have significant : ∃ c ∈ ([1e-13, 2, 3, 4] : List Rat), 1e-12 ≤ |c| :=
    ⟨2, by simp, by norm_num⟩
  have proper : (Polynomial.normalize ([6, 0, 5] : List Rat)).length ≤
      (Polynomial.normalize ([1e-13, 2, 3, 4] : List Rat)).length := by
    rw [numerator, denominator]
    decide
  have exact := realize?_isExact significant proper
  rw [numerator, denominator] at exact
  exact ⟨significant, proper, exact⟩

end StateSpace

end SignalFlow
