import SignalFlow.Host.Usual
import SignalFlow.Proofs.Linear.Realization
import SignalFlow.Proofs.Sampled.Rate
import Mathlib.Algebra.BigOperators.Ring.Finset

/-! # The area of an impulse

An impulse is put out in every tick that is at most half a step away from its time. No tick is closer
to the time than these (`isNearest_iff`), and there is one at least. There is only one, and the
outputs have the area of the impulse, unless its time is half-way between two ticks: then both of them
are as near as can be, the impulse is put out twice and has twice its area (`Payload.impulse_area`).
All this is about exact arithmetic.
-/

namespace SignalFlow

/-! ## Nearest ticks -/

/-- No tick is closer to a time. -/
def IsNearest (dt time : Rat) (tick : Nat) : Prop :=
  ∀ other : Nat, |tick * dt - time| ≤ |other * dt - time|

/-- A time is half-way between a tick and the next one. -/
def IsMidway (dt time : Rat) (tick : Nat) : Prop :=
  time = (tick + 1 / 2) * dt

section Nearest

variable {dt time : Rat} {tick other : Nat} (positive : 0 < dt)
include positive

/-- Every time from zero on has a tick at most half a step away. -/
theorem exists_abs_sub_le (nonneg : 0 ≤ time) : ∃ tick : Nat, |tick * dt - time| ≤ dt / 2 := by
  have quotient : 0 ≤ time / dt + 1 / 2 := by positivity
  have lower := Nat.floor_le quotient
  have upper := Nat.lt_floor_add_one (time / dt + 1 / 2)
  have whole : time / dt * dt = time := div_mul_cancel₀ time positive.ne'
  refine ⟨⌊time / dt + 1 / 2⌋₊, abs_le.mpr ⟨?_, ?_⟩⟩
  · have scaled := mul_le_mul_of_nonneg_right upper.le positive.le
    linarith
  · have scaled := mul_le_mul_of_nonneg_right lower positive.le
    linarith

/-- A tick at most half a step away from a time is as close to it as any other. -/
theorem isNearest_of_abs_sub_le (near : |tick * dt - time| ≤ dt / 2) :
    IsNearest dt time tick := by
  intro other
  obtain ⟨lower, upper⟩ := abs_le.mp near
  rcases lt_trichotomy tick other with before | rfl | after
  · have apart := mul_add_le_of_lt positive before
    exact near.trans (le_abs.mpr (.inl (by linarith)))
  · exact le_rfl
  · have apart := mul_add_le_of_lt positive after
    exact near.trans (le_abs.mpr (.inr (by linarith)))

theorem isNearest_iff (nonneg : 0 ≤ time) :
    IsNearest dt time tick ↔ |tick * dt - time| ≤ dt / 2 := by
  refine ⟨fun nearest => ?_, isNearest_of_abs_sub_le positive⟩
  obtain ⟨other, near⟩ := exists_abs_sub_le positive nonneg
  exact (nearest other).trans near

/-- Of two ticks that are both at most half a step away from a time one follows the other, and the
time is half-way between them. -/
theorem isMidway_of_lt (near : |tick * dt - time| ≤ dt / 2)
    (otherNear : |other * dt - time| ≤ dt / 2) (before : tick < other) :
    IsMidway dt time tick := by
  have apart := mul_add_le_of_lt positive before
  have lower := (abs_le.mp near).1
  have upper := (abs_le.mp otherNear).2
  unfold IsMidway
  linarith

/-- A time half-way between two ticks is half a step away from these two and from no others. -/
theorem abs_sub_le_iff_of_isMidway (midway : IsMidway dt time tick) :
    |other * dt - time| ≤ dt / 2 ↔ other = tick ∨ other = tick + 1 := by
  rw [IsMidway] at midway
  rw [midway, abs_le]
  constructor
  · rintro ⟨lower, upper⟩
    have notBefore : ¬ other < tick := by
      intro before
      have apart := mul_add_le_of_lt positive before
      linarith
    have notAfter : ¬ tick + 1 < other := by
      intro after
      have apart := mul_add_le_of_lt positive after
      push_cast at apart
      linarith
    omega
  · rintro (rfl | rfl)
    · constructor <;> linarith
    · push_cast
      constructor <;> linarith

end Nearest

namespace Payload

/-! ## The outputs of an impulse -/

section Impulse

variable {dt time : Rat} (coarse : 1e-6 ≤ dt)
include coarse

/-- An impulse is put out while its time is at most half a step away. -/
theorem outputAt_impulse [Host] (amp : Rat) (inputs : Nat → Inputs Rat) (tick : Nat) :
    (impulse time amp).outputAt (.regular dt inputs) tick =
      .ok (if |tick * dt - time| ≤ dt / 2 then amp / dt else 0) := by
  have reached : (impulse time amp).stateAt (.regular dt inputs) tick = .ok .empty := by
    induction tick with
    | zero => rfl
    | succ tick ih => exact stateAt_succ ih rfl
  have height : Scalar.max (Schedule.regular dt inputs).step 1e-6 = dt :=
    if_neg (not_lt.mpr coarse)
  have two : (2.0 : Rat) = 2 := by norm_num
  rw [outputAt_eq reached rfl, Scalar.abs_rat, height, two, zero_rat]
  rfl

/-- The outputs in some ticks have as often the area of the impulse as it is put out in them. -/
theorem sum_impulse (amp : Rat) (count : Nat) :
    ∑ tick ∈ Finset.range count, (if |tick * dt - time| ≤ dt / 2 then amp / dt else 0) * dt =
      ((Finset.range count).filter fun tick : Nat => |tick * dt - time| ≤ dt / 2).card * amp := by
  have nonzero : dt ≠ 0 := by
    rintro rfl
    norm_num at coarse
  simp only [ite_mul, zero_mul, div_mul_cancel₀ _ nonzero]
  rw [← Finset.sum_filter, Finset.sum_const, nsmul_eq_mul]

end Impulse

section Area

variable {dt time : Rat} {last : Nat} (positive : 0 < dt) (long : time + dt < last * dt)
include positive long

/-- A run that goes on for more than a step behind a time has all ticks at most half a step away from
it. -/
theorem mem_range_of_abs_sub_le {tick : Nat} (near : |tick * dt - time| ≤ dt / 2) :
    tick ∈ Finset.range (last + 1) := by
  have upper := (abs_le.mp near).2
  have before : (tick : Rat) * dt < last * dt := by linarith
  have counted : tick < last := Nat.cast_lt.mp (lt_of_mul_lt_mul_right before positive.le)
  exact Finset.mem_range.mpr (Nat.lt_succ_of_lt counted)

/-- In such a run an impulse is put out as often as there are ticks at most half a step away from its
time. -/
theorem card_nearest_eq {ticks : Finset Nat}
    (all : ∀ tick : Nat, |tick * dt - time| ≤ dt / 2 ↔ tick ∈ ticks) :
    ((Finset.range (last + 1)).filter fun tick : Nat => |tick * dt - time| ≤ dt / 2).card =
      ticks.card := by
  congr 1
  ext tick
  rw [Finset.mem_filter, all]
  refine and_iff_right_of_imp fun member => ?_
  exact mem_range_of_abs_sub_le positive long ((all tick).mpr member)

end Area

/-- **An impulse is put out in the ticks nearest to its time and in no others.** Unless its time is
half-way between two ticks, there is one such tick, and the outputs of a run that goes on long enough
have the area of the impulse. If it is half-way between two ticks, the impulse is put out in both,
and the outputs have twice its area. -/
theorem impulse_area [Host] (amp : Rat) {dt time : Rat} (coarse : 1e-6 ≤ dt) (nonneg : 0 ≤ time)
    (inputs : Nat → Inputs Rat) :
    ∃ y : Nat → Rat,
      (∀ tick, (impulse time amp).outputAt (.regular dt inputs) tick = .ok (y tick)) ∧
      (∀ tick, IsNearest dt time tick → y tick = amp / dt) ∧
      (∀ tick, ¬ IsNearest dt time tick → y tick = 0) ∧
      ((¬ ∃ tick, IsMidway dt time tick) → (∃! tick, IsNearest dt time tick) ∧
        ∀ last : Nat, time + dt < last * dt →
          ∑ tick ∈ Finset.range (last + 1), y tick * dt = amp) ∧
      ∀ tick, IsMidway dt time tick →
        (∀ other, IsNearest dt time other ↔ other = tick ∨ other = tick + 1) ∧
        ∀ last : Nat, time + dt < last * dt →
          ∑ tick ∈ Finset.range (last + 1), y tick * dt = 2 * amp := by
  have positive : 0 < dt := by linarith
  have nearest_iff (tick : Nat) : IsNearest dt time tick ↔ |tick * dt - time| ≤ dt / 2 :=
    isNearest_iff positive nonneg
  refine ⟨_, outputAt_impulse coarse amp inputs, fun tick nearest => ?_, fun tick other => ?_,
    fun offCentre => ?_, fun tick midway => ?_⟩
  · exact if_pos ((nearest_iff tick).mp nearest)
  · exact if_neg (mt (nearest_iff tick).mpr other)
  · obtain ⟨tick, near⟩ := exists_abs_sub_le positive nonneg
    have only (other : Nat) (otherNear : |other * dt - time| ≤ dt / 2) : other = tick := by
      rcases lt_trichotomy other tick with before | same | after
      · exact absurd ⟨other, isMidway_of_lt positive otherNear near before⟩ offCentre
      · exact same
      · exact absurd ⟨tick, isMidway_of_lt positive near otherNear after⟩ offCentre
    have all (other : Nat) : |other * dt - time| ≤ dt / 2 ↔ other ∈ ({tick} : Finset Nat) := by
      rw [Finset.mem_singleton]
      exact ⟨only other, fun same => same ▸ near⟩
    constructor
    · exact ⟨tick, (nearest_iff tick).mpr near, fun other nearest =>
        only other ((nearest_iff other).mp nearest)⟩
    · intro last long
      rw [sum_impulse coarse, card_nearest_eq positive long all, Finset.card_singleton,
        Nat.cast_one, one_mul]
  · have both (other : Nat) : |other * dt - time| ≤ dt / 2 ↔ other = tick ∨ other = tick + 1 :=
      abs_sub_le_iff_of_isMidway positive midway
    have all (other : Nat) :
        |other * dt - time| ≤ dt / 2 ↔ other ∈ ({tick, tick + 1} : Finset Nat) := by
      rw [both, Finset.mem_insert, Finset.mem_singleton]
    constructor
    · intro other
      rw [nearest_iff, both]
    · intro last long
      rw [sum_impulse coarse, card_nearest_eq positive long all,
        Finset.card_pair (Nat.ne_of_lt (Nat.lt_succ_self tick)), Nat.cast_two]

open Host.Usual

/-- Of ticks a tenth apart the one at `3 / 10` is nearest to `1 / 3`. -/
theorem impulse_area_third :
    (1e-6 : Rat) ≤ 1 / 10 ∧ (0 : Rat) ≤ 1 / 3 ∧ (1 / 3 : Rat) + 1 / 10 < (5 : Nat) * (1 / 10) ∧
      (List.range 6).map (fun tick =>
          ((impulse (1 / 3) 2).outputAt (.regular (1 / 10 : Rat) fun _ => []) tick).toOption) =
        [some 0, some 0, some 0, some 20, some 0, some 0] ∧
      (¬ ∃ tick, IsMidway (1 / 10) (1 / 3) tick) ∧ (∃! tick, IsNearest (1 / 10) (1 / 3) tick) ∧
      ∃ y : Nat → Rat,
        (∀ tick, (impulse (1 / 3) 2).outputAt (.regular (1 / 10) fun _ => []) tick =
          .ok (y tick)) ∧
        ∑ tick ∈ Finset.range (5 + 1), y tick * (1 / 10) = 2 := by
  have coarse : (1e-6 : Rat) ≤ 1 / 10 := by norm_num
  have nonneg : (0 : Rat) ≤ 1 / 3 := by norm_num
  have long : (1 / 3 : Rat) + 1 / 10 < (5 : Nat) * (1 / 10) := by norm_num
  have offCentre : ¬ ∃ tick, IsMidway (1 / 10) (1 / 3) tick := by
    rintro ⟨tick, midway⟩
    -- A third is as many tenths as `10 = 3 (tick + 1 / 2)` says, which no whole number solves.
    have doubled : (6 * tick + 3 : Rat) = 20 := by
      unfold IsMidway at midway
      linarith
    have counted : 6 * tick + 3 = 20 := by exact_mod_cast doubled
    omega
  obtain ⟨y, given, -, -, single, -⟩ := impulse_area 2 coarse nonneg fun _ => []
  obtain ⟨unique, area⟩ := single offCentre
  exact ⟨coarse, nonneg, long, by decide +kernel, offCentre, unique, y, given, area 5 long⟩

/-- An impulse half-way between the first two ticks is put out in both. -/
theorem not_impulse_area_midway :
    let block : Payload Rat := impulse (1 / 2) 1
    let schedule : Schedule Rat := .regular 1 fun _ => []
    (1e-6 : Rat) ≤ 1 ∧ (0 : Rat) ≤ 1 / 2 ∧ (1 / 2 : Rat) + 1 < (2 : Nat) * 1 ∧
      (List.range 3).map (fun tick => (block.outputAt schedule tick).toOption) =
        [some 1, some 1, some 0] ∧
      ¬ ∃ tick < 3, block.outputAt schedule tick = .ok (1 / 1) ∧
        ∀ other < 3, other ≠ tick → block.outputAt schedule other = .ok 0 := by
  intro block schedule
  have coarse : (1e-6 : Rat) ≤ 1 := by norm_num
  have high (tick : Nat) (near : |(tick : Rat) * 1 - 1 / 2| ≤ 1 / 2) :
      block.outputAt schedule tick ≠ .ok 0 := by
    rw [outputAt_impulse coarse, if_pos near, div_one]
    exact fun same => one_ne_zero (Except.ok.inj same)
  refine ⟨coarse, by norm_num, by norm_num, by decide +kernel, ?_⟩
  rintro ⟨tick, -, -, silent⟩
  rcases Nat.eq_zero_or_pos tick with rfl | later
  · exact high 1 (by norm_num [abs_le]) (silent 1 (by decide) (by decide))
  · exact high 0 (by norm_num [abs_le]) (silent 0 (by decide) (Nat.ne_of_lt later))

end Payload

end SignalFlow
