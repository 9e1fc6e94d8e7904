import SignalFlow.Proofs.Doubles.Rounding
import SignalFlow.Proofs.InfiniteDoubles
import SignalFlow.Scalar

/-! # Finite doubles

A double that is finite has a sign, a mantissa and an exponent (`Binary64.isFinite_iff_parts`), so it
is near to a whole number, and no other one is. Choosing between finite doubles gives a finite one.
Neither zero exceeds or reaches a positive double.
-/

namespace SignalFlow

namespace Binary64

open Float.Model

theorem isFinite_eq (x : Float) : x.isFinite = (!x.isInf && !x.isNaN) := by
  change x.toModel.unpack.isFinite = (!x.toModel.unpack.isInf && !x.toModel.unpack.isNaN)
  cases x.toModel.unpack <;> rfl

theorem isFinite_iff_parts (x : Float) : x.isFinite = true ↔
    ∃ negative mantissa exponent, parts x = .finite negative mantissa exponent := by
  rcases unpack_cases x with
    ⟨isParts, isModel⟩ | ⟨negative, sign, isParts, isModel⟩ | ⟨isParts, notInf, notNaN⟩
  · have notFinite : x.isFinite = false := congrArg Float.Model.UnpackedFloat.isFinite isModel
    simp [notFinite, isParts]
  · have notFinite : x.isFinite = false := congrArg Float.Model.UnpackedFloat.isFinite isModel
    simp [notFinite, isParts]
  · rw [isFinite_eq, notInf, notNaN]
    exact iff_of_true rfl isParts

/-! ## Zero and the positive doubles -/

theorem lt_iff (x y : Float) :
    x < y ↔ UnpackedFloat.compare x.toModel.unpack y.toModel.unpack = some .lt := by
  change decide (x.toModel < y.toModel) = true ↔ _
  rw [decide_eq_true_iff]
  exact beq_iff_eq

theorem le_iff (x y : Float) :
    x ≤ y ↔ (UnpackedFloat.compare x.toModel.unpack y.toModel.unpack).any (·.isLE) = true := by
  change decide (x.toModel ≤ y.toModel) = true ↔ _
  rw [decide_eq_true_iff]
  exact Iff.rfl

theorem beq_iff (x y : Float) :
    (x == y) = true ↔ UnpackedFloat.compare x.toModel.unpack y.toModel.unpack = some .eq := by
  change (UnpackedFloat.compare x.toModel.unpack y.toModel.unpack == some .eq) = true ↔ _
  exact beq_iff_eq

theorem unpack_zero : (0.0 : Float).toModel.unpack = .zero .positive := by
  have bits : (0.0 : Float).toBits = 0 := by decide +kernel
  change UnpackedFloat.unpack Format.binary64 (0.0 : Float).toBits.toBitVec = _
  rw [bits]
  rfl

/-- A double that equals zero is one of the two zeros. -/
theorem exists_unpack_of_eq_zero {x : Float} (same : (x == 0.0) = true) :
    ∃ sign, x.toModel.unpack = .zero sign := by
  rw [beq_iff, unpack_zero] at same
  revert same
  generalize x.toModel.unpack = unpacked
  intro same
  cases unpacked with
  | notANumber => cases same
  | infinity sign => cases sign <;> cases same
  | zero sign => exact ⟨sign, rfl⟩
  | finite sign => cases sign <;> cases same

theorem isFinite_of_eq_zero {x : Float} (same : (x == 0.0) = true) : x.isFinite = true := by
  obtain ⟨sign, isZero⟩ := exists_unpack_of_eq_zero same
  exact congrArg UnpackedFloat.isFinite isZero

section Positive

variable {bound x : Float} (positive : 0.0 < bound)
include positive

/-- A positive double exceeds both zeros. -/
theorem compare_zero_of_pos (sign : UnpackedFloat.Sign) :
    UnpackedFloat.compare (.zero sign) bound.toModel.unpack = some .lt ∧
      UnpackedFloat.compare bound.toModel.unpack (.zero sign) = some .gt := by
  rw [lt_iff, unpack_zero] at positive
  revert positive
  generalize bound.toModel.unpack = unpacked
  intro positive
  cases unpacked with
  | notANumber => cases positive
  | infinity boundSign => cases boundSign with
    | positive => exact ⟨rfl, rfl⟩
    | negative => cases positive
  | zero => cases positive
  | finite boundSign => cases boundSign with
    | positive => exact ⟨rfl, rfl⟩
    | negative => cases positive

theorem lt_of_eq_zero (same : (x == 0.0) = true) : x < bound := by
  obtain ⟨sign, isZero⟩ := exists_unpack_of_eq_zero same
  rw [lt_iff, isZero]
  exact (compare_zero_of_pos positive sign).1

theorem not_lt_of_eq_zero (same : (x == 0.0) = true) : ¬ bound < x := by
  obtain ⟨sign, isZero⟩ := exists_unpack_of_eq_zero same
  rw [lt_iff, isZero, (compare_zero_of_pos positive sign).2]
  exact nofun

theorem not_le_zero_of_pos : ¬ bound ≤ 0.0 := by
  rw [le_iff, unpack_zero, (compare_zero_of_pos positive .positive).2]
  exact nofun

theorem ne_zero_of_pos : (bound == 0.0) = false := by
  rw [Bool.eq_false_iff]
  intro same
  exact not_lt_of_eq_zero positive same (lt_of_eq_zero positive same)

end Positive

/-- A double above a positive one is not zero. -/
theorem ne_zero_of_lt {bound x : Float} (positive : 0.0 < bound) (above : bound < x) :
    (x == 0.0) = false :=
  Bool.eq_false_iff.mpr fun same => not_lt_of_eq_zero positive same above

end Binary64

namespace Scalar

/-- Only a finite double is near to a whole number. -/
theorem exists_round_eq_ok_iff (x : Float) :
    (∃ n, Scalar.round x = .ok n) ↔ x.isFinite = true := by
  rw [Binary64.isFinite_iff_parts]
  unfold Scalar.round instScalarFloat Binary64.nearest?
  dsimp only
  cases Binary64.parts x <;> simp

/-- Only an infinite double has no sine. -/
theorem exists_sin_eq_ok_iff (x : Float) : (∃ y, Scalar.sin x = .ok y) ↔ x.isInf = false := by
  change (∃ y, (if x.isInf then Except.error Fault.undefined else .ok x.sin) = .ok y) ↔ _
  cases x.isInf <;> simp

variable {x y : Float} (xFinite : x.isFinite = true) (yFinite : y.isFinite = true)
include xFinite yFinite

theorem isFinite_max : (Scalar.max x y).isFinite = true := by
  unfold Scalar.max
  split <;> assumption

theorem isFinite_orElse : (Scalar.orElse x y).isFinite = true := by
  unfold Scalar.orElse
  split <;> assumption

omit xFinite yFinite

/-- What is kept above a positive double is not zero. -/
theorem max_ne_zero (positive : 0.0 < x) : (Scalar.max x y == 0.0) = false := by
  unfold Scalar.max
  split
  · exact Binary64.ne_zero_of_lt positive ‹_›
  · exact Binary64.ne_zero_of_pos positive

end Scalar

end SignalFlow
