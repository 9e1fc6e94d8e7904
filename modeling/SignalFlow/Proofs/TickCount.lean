import Mathlib
import SignalFlow.Engine.Run

/-! # Ticks within a duration

A run takes ticks, each a step after the one before, as long as their times are up to its duration
and a tolerance. With exact arithmetic (`Scalar.IsExact`) a step can be counted off: tick `k` is at
time `k * step`, and so many ticks are taken as the quotient of duration and step says
(`lt_ticksWithin_iff`). The bound that a run puts on its ticks is never reached before
(`Engine.ticksWithin_le_tickBound`).
-/

namespace SignalFlow

/-! ## Exact numbers -/

/-- Numbers that stand for real ones and are computed exactly as far as a run counts its ticks. -/
structure Scalar.IsExact {α : Type} [Scalar α] (value : α → ℝ) : Prop where
  zero : value 0.0 = 0
  tolerance : value 1e-9 = 1e-9
  add (a b : α) : value (a + b) = value a + value b
  div (a b : α) : value (a / b) = value a / value b
  le_iff (a b : α) : a ≤ b ↔ value a ≤ value b
  round (a : α) : ∃ n : ℤ, Scalar.round a = .ok n ∧ |value a - n| ≤ 1 / 2

namespace Binary64

/-- The whole number nearest to a quotient is at most a half away from it. -/
theorem abs_div_sub_roundDiv_le {denominator : ℕ} (positive : 0 < denominator) (numerator : ℕ) :
    |(numerator : ℚ) / denominator - roundDiv numerator denominator| ≤ 1 / 2 := by
  have parts := Nat.div_add_mod numerator denominator
  have bounds : 2 * numerator ≤ denominator * (2 * roundDiv numerator denominator + 1) ∧
      2 * denominator * roundDiv numerator denominator ≤ 2 * numerator + denominator := by
    have below := Nat.mod_lt numerator positive
    unfold roundDiv
    dsimp only
    generalize numerator / denominator = quotient at parts ⊢
    generalize numerator % denominator = rest at parts below ⊢
    subst parts
    split
    · constructor <;> nlinarith
    · split
      · constructor <;> nlinarith
      · rcases Nat.mod_two_eq_zero_or_one quotient with even | odd
        · rw [even]
          constructor <;> nlinarith
        · rw [odd]
          constructor <;> nlinarith
  obtain ⟨upper, lower⟩ := bounds
  have positive' : (0 : ℚ) < denominator := by exact_mod_cast positive
  have upper' : (2 * numerator : ℚ) ≤ denominator * (2 * roundDiv numerator denominator + 1) := by
    exact_mod_cast upper
  have lower' : (2 * denominator * roundDiv numerator denominator : ℚ) ≤
      2 * numerator + denominator := by
    exact_mod_cast lower
  rw [abs_le]
  constructor
  · rw [le_sub_iff_add_le, le_div_iff₀ positive']
    linarith
  · rw [sub_le_iff_le_add, div_le_iff₀ positive']
    linarith

/-- The whole number nearest to a rational one is at most a half away from it. -/
theorem abs_sub_round_le (q : ℚ) :
    |q - signed (q < 0) (roundDiv q.num.natAbs q.den)| ≤ 1 / 2 := by
  have magnitude := abs_div_sub_roundDiv_le q.den_pos q.num.natAbs
  by_cases negative : q < 0
  · have num_eq : ((q.num.natAbs : ℤ) : ℚ) = -q.num := by
      rw [Int.ofNat_natAbs_of_nonpos (Rat.num_neg.mpr negative).le, Int.cast_neg]
    have quotient : (q.num.natAbs : ℚ) / q.den = -q := by
      rw [← Int.cast_natCast q.num.natAbs, num_eq, neg_div, Rat.num_div_den]
    rw [quotient] at magnitude
    rw [signed, if_pos (by simpa using negative), Int.cast_neg, Int.cast_natCast, sub_neg_eq_add,
      ← abs_neg, neg_add, ← sub_eq_add_neg]
    exact magnitude
  · have num_eq : ((q.num.natAbs : ℤ) : ℚ) = q.num := by
      rw [Int.natAbs_of_nonneg (Rat.num_nonneg.mpr (not_lt.mp negative))]
    have quotient : (q.num.natAbs : ℚ) / q.den = q := by
      rw [← Int.cast_natCast q.num.natAbs, num_eq, Rat.num_div_den]
    rw [quotient] at magnitude
    rw [signed, if_neg (by simpa using negative), Int.cast_natCast]
    exact magnitude

end Binary64

/-- Rational numbers are computed exactly. -/
theorem Scalar.isExact_rat : Scalar.IsExact (Rat.cast : Rat → ℝ) where
  zero := by norm_num
  tolerance := by norm_num
  add a b := by exact_mod_cast Rat.cast_add a b
  div a b := by exact_mod_cast Rat.cast_div a b
  le_iff a b := Rat.cast_le.symm
  round a := by
    refine ⟨_, rfl, ?_⟩
    have near : ((|a - Binary64.signed (a < 0) (Binary64.roundDiv a.num.natAbs a.den)| : ℚ) : ℝ) ≤
        ((1 / 2 : ℚ) : ℝ) := Rat.cast_le.mpr (Binary64.abs_sub_round_le a)
    push_cast at near
    exact near

/-! ## Counting ticks -/

/-- How many ticks, each a step after the one before, are up to a duration and the tolerance. -/
noncomputable def ticksWithin (step duration : ℝ) : ℕ :=
  if duration < -1e-9 then 0 else ⌊(duration + 1e-9) / step⌋₊ + 1

/-- Exactly the ticks up to the duration and the tolerance are counted. -/
theorem lt_ticksWithin_iff {step duration : ℝ} (positive : 0 < step) {tick : ℕ} :
    tick < ticksWithin step duration ↔ tick * step ≤ duration + 1e-9 := by
  have nonneg : 0 ≤ tick * step := by positivity
  unfold ticksWithin
  by_cases none : duration < -1e-9
  · rw [if_pos none]
    refine iff_of_false (Nat.not_lt_zero tick) ?_
    rw [not_le]
    linarith
  · rw [if_neg none, Nat.lt_succ_iff, Nat.le_floor_iff, le_div_iff₀ positive]
    refine div_nonneg ?_ positive.le
    linarith

/-- In a longer duration there are more ticks. -/
theorem ticksWithin_mono {step duration longer : ℝ} (positive : 0 < step)
    (le : duration ≤ longer) : ticksWithin step duration ≤ ticksWithin step longer := by
  apply le_of_forall_lt
  intro tick before
  rw [lt_ticksWithin_iff positive] at before ⊢
  linarith

namespace Engine

variable {α : Type} [Scalar α] {value : α → ℝ} (exact : Scalar.IsExact value)
include exact

/-- There is room for all ticks of a run. -/
theorem ticksWithin_le_tickBound {compiled : Compiled α} {dt : α}
    (number : compiled.dt.number = .ok dt) (duration : α) :
    ticksWithin (value dt) (value duration) ≤ tickBound compiled duration := by
  obtain ⟨rounded, rounds, near⟩ := exact.round ((duration + tolerance) / dt)
  have value_eq : value ((duration + tolerance) / dt) = (value duration + 1e-9) / value dt := by
    rw [exact.div, exact.add, tolerance, exact.tolerance]
  rw [value_eq, abs_le] at near
  have bound_eq : tickBound compiled duration = 2 * rounded.toNat + 2 := by
    simp only [tickBound, number, rounds]
  rw [bound_eq, ticksWithin]
  by_cases none : value duration < -1e-9
  · rw [if_pos none]
    exact Nat.zero_le _
  · rw [if_neg none]
    have ratio_le : (value duration + 1e-9) / value dt < rounded + 1 := by linarith
    have floor_le : ⌊(value duration + 1e-9) / value dt⌋₊ ≤ rounded.toNat := by
      apply Nat.le_of_lt_succ
      rw [Nat.floor_lt' (Nat.succ_ne_zero _)]
      refine ratio_le.trans_le ?_
      have : (rounded : ℝ) ≤ (rounded.toNat : ℤ) := Int.cast_le.mpr (Int.self_le_toNat rounded)
      push_cast at this ⊢
      linarith
    omega

end Engine

end SignalFlow
