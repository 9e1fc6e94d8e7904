import Mathlib
import SignalFlow.Number.Norm
import SignalFlow.Proofs.Doubles.Finite

/-! # The order of doubles

Every double that is a number counts a whole number of the least positive double, `2 ^ -1074`
(`Binary64.signedUnits`), if the infinite ones count as the first numbers beyond the finite ones.
Doubles are compared by these counts, so those that are numbers are ordered like whole numbers.
-/

namespace SignalFlow.Binary64

open Float.Model Float.Model.UnpackedFloat

/-! ## Units -/

theorem units_eq (mantissa : Nat) (exponent : Int) :
    units mantissa exponent = mantissa * 2 ^ (exponent + 1074).toNat := rfl

theorem units_pos {mantissa : Nat} (positive : 0 < mantissa) (exponent : Int) :
    0 < units mantissa exponent :=
  Nat.mul_pos positive (Nat.two_pow_pos _)

/-- With a larger exponent a magnitude is larger, if its mantissa has all bits. -/
theorem units_lt_of_lt {m₁ m₂ : Nat} {e₁ e₂ : Int} (fits : m₁ < 2 ^ 53) (low : -1074 ≤ e₁)
    (normal : 2 ^ 52 ≤ m₂) (less : e₁ < e₂) : units m₁ e₁ < units m₂ e₂ :=
  calc m₁ * 2 ^ (e₁ + 1074).toNat
      < 2 ^ 53 * 2 ^ (e₁ + 1074).toNat := Nat.mul_lt_mul_of_pos_right fits (by positivity)
    _ = 2 ^ (53 + (e₁ + 1074).toNat) := (Nat.pow_add ..).symm
    _ ≤ 2 ^ (52 + (e₂ + 1074).toNat) := Nat.pow_le_pow_right (by decide) (by omega)
    _ = 2 ^ 52 * 2 ^ (e₂ + 1074).toNat := Nat.pow_add ..
    _ ≤ m₂ * 2 ^ (e₂ + 1074).toNat := Nat.mul_le_mul_right _ normal

/-- The units of `2 ^ 1024`, the least magnitude that is infinite. -/
def boundary : Nat := units (2 ^ 52) 972

theorem boundary_pos : 0 < boundary := units_pos (by decide) 972

theorem units_lt_boundary {mantissa : Nat} {exponent : Int}
    (canonical : IsCanonical mantissa exponent) : units mantissa exponent < boundary := by
  have high := canonical.high
  exact units_lt_of_lt canonical.fits canonical.low (Nat.le_refl _) (by omega)

/-- The units of a number. -/
def unitsOf : UnpackedFloat → Int
  | .notANumber | .zero _ => 0
  | .infinity sign => sign.apply boundary
  | .finite sign mantissa exponent _ => sign.apply (units mantissa exponent)

/-- The units of a double. -/
def signedUnits (x : Float) : Int := unitsOf x.toModel.unpack

/-- Mantissa and exponent are as a finite double has them. -/
def HasDouble : UnpackedFloat → Prop
  | .finite _ mantissa exponent _ => IsCanonical mantissa exponent
  | _ => True

theorem hasDouble_unpack (x : Float) : HasDouble x.toModel.unpack := by
  cases unpacked : x.toModel.unpack with
  | finite => exact isCanonical_of_unpack unpacked
  | _ => trivial

theorem isNaN_eq_false_iff {x : Float} : x.isNaN = false ↔ x.toModel.unpack ≠ .notANumber := by
  change x.toModel.unpack.isNaN = false ↔ _
  rw [← Bool.not_eq_true, isNaN_iff]

/-! ## Comparing -/

/-- Magnitudes are ordered by their exponents, and by their mantissas if these are the same. -/
theorem compare_units {m₁ m₂ : Nat} {e₁ e₂ : Int} (first : IsCanonical m₁ e₁)
    (second : IsCanonical m₂ e₂) :
    (compare e₁ e₂).then (compare m₁ m₂) =
      compare (units m₁ e₁ : Int) (units m₂ e₂ : Int) := by
  have larger {m₁ m₂ : Nat} {e₁ e₂ : Int} (first : IsCanonical m₁ e₁) (second : IsCanonical m₂ e₂)
      (less : e₁ < e₂) : units m₁ e₁ < units m₂ e₂ := by
    have low := first.low
    exact units_lt_of_lt first.fits low (second.normal.resolve_right (by omega)) less
  rcases Int.lt_trichotomy e₁ e₂ with less | rfl | greater
  · rw [Int.compare_eq_lt.mpr less]
    have := larger first second less
    exact (Int.compare_eq_lt.mpr (by omega)).symm
  · rw [Int.compare_eq_eq.mpr rfl]
    have scale : 0 < 2 ^ (e₁ + 1074).toNat := by positivity
    change compare m₁ m₂ = _
    rcases Nat.lt_trichotomy m₁ m₂ with less | rfl | greater
    · have := Nat.mul_lt_mul_of_pos_right less scale
      rw [Nat.compare_eq_lt.mpr less]
      exact (Int.compare_eq_lt.mpr (Int.ofNat_lt.mpr this)).symm
    · rw [Nat.compare_eq_eq.mpr rfl]
      exact (Int.compare_eq_eq.mpr rfl).symm
    · have := Nat.mul_lt_mul_of_pos_right greater scale
      rw [Nat.compare_eq_gt.mpr greater]
      exact (Int.compare_eq_gt.mpr (Int.ofNat_lt.mpr this)).symm
  · rw [Int.compare_eq_gt.mpr greater]
    have := larger second first greater
    exact (Int.compare_eq_gt.mpr (by omega)).symm

/-- A finite number lies between the infinite ones. -/
theorem unitsOf_inside {number : UnpackedFloat} (has : HasDouble number)
    (finite : number.isFinite = true) :
    -(boundary : Int) < unitsOf number ∧ unitsOf number < boundary := by
  have := boundary_pos
  cases number with
  | notANumber => cases finite
  | infinity sign => cases finite
  | zero => simp only [unitsOf]; omega
  | finite sign mantissa exponent positive =>
      have := units_lt_boundary has
      cases sign <;> simp only [unitsOf, Sign.apply] <;> omega

/-- No double lies beyond the infinite ones. -/
theorem signedUnits_bounds (x : Float) :
    -(boundary : Int) ≤ signedUnits x ∧ signedUnits x ≤ boundary := by
  have inside := unitsOf_inside (hasDouble_unpack x)
  rw [signedUnits]
  have := boundary_pos
  cases unpacked : x.toModel.unpack with
  | notANumber | zero => simp only [unitsOf]; omega
  | infinity sign => cases sign <;> simp only [unitsOf, Sign.apply] <;> omega
  | finite =>
      rw [unpacked] at inside
      have := inside rfl
      omega

/-- Finite numbers are compared by their units. -/
theorem compare_finite {s₁ s₂ : Sign} {m₁ m₂ : Nat} {e₁ e₂ : Int} {p₁ : 0 < m₁} {p₂ : 0 < m₂}
    (first : IsCanonical m₁ e₁) (second : IsCanonical m₂ e₂) :
    UnpackedFloat.compare (.finite s₁ m₁ e₁ p₁) (.finite s₂ m₂ e₂ p₂) =
      some (compare (s₁.apply (units m₁ e₁)) (s₂.apply (units m₂ e₂))) := by
  have firstPos := units_pos p₁ e₁
  have secondPos := units_pos p₂ e₂
  cases s₁ with
  | negative =>
      cases s₂ with
      | negative =>
          change some ((compare e₁ e₂).then (compare m₁ m₂)).swap = some (compare (-_) (-_))
          rw [compare_units first second, Int.compare_swap]
          simp only [Int.compare_eq_ite_lt, Int.neg_lt_neg_iff]
      | positive =>
          refine congrArg some (Int.compare_eq_lt.mpr ?_).symm
          simp only [Sign.apply]
          omega
  | positive =>
      cases s₂ with
      | negative =>
          refine congrArg some (Int.compare_eq_gt.mpr ?_).symm
          simp only [Sign.apply]
          omega
      | positive => exact congrArg some (compare_units first second)

/-- **Doubles that are numbers are compared by their units.** -/
theorem compare_eq {first second : UnpackedFloat} (hasFirst : HasDouble first)
    (hasSecond : HasDouble second) (isFirst : first ≠ .notANumber)
    (isSecond : second ≠ .notANumber) :
    UnpackedFloat.compare first second = some (compare (unitsOf first) (unitsOf second)) := by
  have beyond := boundary_pos
  have less {x y : Int} (below : x < y) : some Ordering.lt = some (compare x y) :=
    congrArg some (Int.compare_eq_lt.mpr below).symm
  have more {x y : Int} (above : y < x) : some Ordering.gt = some (compare x y) :=
    congrArg some (Int.compare_eq_gt.mpr above).symm
  have same (x : Int) : some Ordering.eq = some (compare x x) :=
    congrArg some (Int.compare_eq_eq.mpr rfl).symm
  cases first with
  | notANumber => exact absurd rfl isFirst
  | infinity s₁ =>
      cases second with
      | notANumber => exact absurd rfl isSecond
      | infinity s₂ =>
          cases s₁ <;> cases s₂
          · exact same _
          · exact less (by simp only [unitsOf, Sign.apply]; omega)
          · exact more (by simp only [unitsOf, Sign.apply]; omega)
          · exact same _
      | zero | finite =>
          have inside := unitsOf_inside hasSecond rfl
          cases s₁
          · exact less inside.1
          · exact more inside.2
  | zero =>
      cases second with
      | notANumber => exact absurd rfl isSecond
      | infinity s₂ =>
          cases s₂
          · exact more (unitsOf_inside hasFirst rfl).1
          · exact less (unitsOf_inside hasFirst rfl).2
      | zero => exact same 0
      | finite s₂ m₂ e₂ p₂ =>
          have := units_pos p₂ e₂
          cases s₂
          · exact more (by simp only [unitsOf, Sign.apply]; omega)
          · exact less (by simp only [unitsOf, Sign.apply]; omega)
  | finite s₁ m₁ e₁ p₁ =>
      cases second with
      | notANumber => exact absurd rfl isSecond
      | infinity s₂ =>
          cases s₂
          · exact more (unitsOf_inside hasFirst rfl).1
          · exact less (unitsOf_inside hasFirst rfl).2
      | zero =>
          have := units_pos p₁ e₁
          cases s₁
          · exact less (by simp only [unitsOf, Sign.apply]; omega)
          · exact more (by simp only [unitsOf, Sign.apply]; omega)
      | finite s₂ m₂ e₂ p₂ => exact compare_finite hasFirst hasSecond

section Order

variable {x y : Float} (xIsNumber : x.isNaN = false) (yIsNumber : y.isNaN = false)
include xIsNumber yIsNumber

theorem compare_unpack : UnpackedFloat.compare x.toModel.unpack y.toModel.unpack =
    some (compare (signedUnits x) (signedUnits y)) :=
  compare_eq (hasDouble_unpack x) (hasDouble_unpack y) (isNaN_eq_false_iff.mp xIsNumber)
    (isNaN_eq_false_iff.mp yIsNumber)

theorem lt_iff_signedUnits : x < y ↔ signedUnits x < signedUnits y := by
  rw [lt_iff, compare_unpack xIsNumber yIsNumber, Option.some.injEq, Int.compare_eq_lt]

theorem le_iff_signedUnits : x ≤ y ↔ signedUnits x ≤ signedUnits y := by
  rw [le_iff, compare_unpack xIsNumber yIsNumber]
  change (compare (signedUnits x) (signedUnits y)).isLE = true ↔ _
  rw [Int.isLE_compare]

/-- Of two numbers the second one is as large as the first one unless it lies below it. -/
theorem not_lt_iff : ¬ x < y ↔ y ≤ x := by
  rw [lt_iff_signedUnits xIsNumber yIsNumber, le_iff_signedUnits yIsNumber xIsNumber, Int.not_lt]

theorem not_le_iff : ¬ x ≤ y ↔ y < x := by
  rw [le_iff_signedUnits xIsNumber yIsNumber, lt_iff_signedUnits yIsNumber xIsNumber, Int.not_le]

end Order

/-! Only numbers are in order. -/

theorem compare_notANumber {first second : UnpackedFloat}
    (missing : first = .notANumber ∨ second = .notANumber) :
    UnpackedFloat.compare first second = none := by
  rcases missing with rfl | rfl
  · rfl
  · cases first <;> rfl

theorem isNaN_of_le {x y : Float} (le : x ≤ y) : x.isNaN = false ∧ y.isNaN = false := by
  rw [isNaN_eq_false_iff, isNaN_eq_false_iff, ← not_or]
  intro missing
  rw [le_iff, compare_notANumber missing] at le
  cases le

theorem isNaN_of_lt {x y : Float} (lt : x < y) : x.isNaN = false ∧ y.isNaN = false := by
  rw [isNaN_eq_false_iff, isNaN_eq_false_iff, ← not_or]
  intro missing
  rw [lt_iff, compare_notANumber missing] at lt
  cases lt

protected theorem le_refl {x : Float} (isNumber : x.isNaN = false) : x ≤ x :=
  (le_iff_signedUnits isNumber isNumber).mpr (Int.le_refl _)

protected theorem le_trans {x y z : Float} (first : x ≤ y) (second : y ≤ z) : x ≤ z := by
  obtain ⟨xIsNumber, yIsNumber⟩ := isNaN_of_le first
  have zIsNumber := (isNaN_of_le second).2
  rw [le_iff_signedUnits xIsNumber yIsNumber] at first
  rw [le_iff_signedUnits yIsNumber zIsNumber] at second
  rw [le_iff_signedUnits xIsNumber zIsNumber]
  exact Int.le_trans first second

protected theorem le_of_lt {x y : Float} (lt : x < y) : x ≤ y := by
  obtain ⟨xIsNumber, yIsNumber⟩ := isNaN_of_lt lt
  rw [lt_iff_signedUnits xIsNumber yIsNumber] at lt
  rw [le_iff_signedUnits xIsNumber yIsNumber]
  exact Int.le_of_lt lt

protected theorem lt_of_lt_of_le {x y z : Float} (first : x < y) (second : y ≤ z) : x < z := by
  obtain ⟨xIsNumber, yIsNumber⟩ := isNaN_of_lt first
  have zIsNumber := (isNaN_of_le second).2
  rw [lt_iff_signedUnits xIsNumber yIsNumber] at first
  rw [le_iff_signedUnits yIsNumber zIsNumber] at second
  rw [lt_iff_signedUnits xIsNumber zIsNumber]
  exact Int.lt_of_lt_of_le first second

end SignalFlow.Binary64
