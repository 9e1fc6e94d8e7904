import SignalFlow.Host.Usual
import SignalFlow.Proofs.Sampled.Rate
import Mathlib.Tactic.FieldSimp

/-! # First-order holds

A first-order hold goes on along the line through its latest two samples, from the time of the later
one on (`Payload.outputAt_foh`). It measures the slope of this line by its period and not by the
ticks in which it took the samples. Where the period is a whole number of ticks, the samples are a
period apart, and a signal on a straight line is put out as it is once two samples have been taken
(`Payload.outputAt_foh_affine`).
-/

namespace SignalFlow

section Extrapolation

variable {α : Type} [Scalar α]

/-- The slope that is found at a sample: the change since the one before it, or since zero, over a
period. -/
def sampleSlope (ts : α) (signal : Nat → α) (index : Nat) : α :=
  (signal index - delayed 1 signal index) / ts

/-- The time of the firing that has a number. -/
noncomputable def Payload.firingTime [Host] (payload : Payload α) (schedule : Schedule α)
    (number : Nat) : α :=
  schedule.time (payload.firing schedule number)

/-- **A first-order hold extrapolates from its latest two samples.** -/
theorem Payload.outputAt_foh [Host] (ts : α) (schedule : Schedule α) (tick : Nat) :
    let hold : Payload α := .foh ts
    let u := hold.sample schedule
    let fired := hold.firings schedule tick
    hold.outputAt schedule tick = .ok (delayed 1 u fired + delayed 1 (sampleSlope ts u) fired *
      (schedule.time tick - delayed 1 (hold.firingTime schedule) fired)) := by
  intro hold u fired
  have clocked : hold.period? = some ts := rfl
  have holds := exists_stateAt_of_firing clocked rfl schedule
    (fun fired state => ∃ prev next, state = .foh prev (delayed 1 u fired)
      (delayed 1 (hold.firingTime schedule) fired) (delayed 1 (sampleSlope ts u) fired) next)
    ⟨0.0, 0.0, rfl⟩ ?_ tick
  · obtain ⟨state, reached, prev, next, rfl⟩ := holds
    exact outputAt_eq reached rfl
  · rintro tick state ⟨prev, next, rfl⟩ fires number
    refine ⟨delayed 1 u (hold.firings schedule tick), next + ts, ?_⟩
    have taken : u (hold.firings schedule tick) = schedule.input tick :=
      congrArg schedule.input number
    have here : hold.firingTime schedule (hold.firings schedule tick) = schedule.time tick :=
      congrArg schedule.time number
    simp only [delayed_add, sampleSlope]
    rw [taken, here]
    exact if_pos fires

end Extrapolation

namespace Payload

section Affine

variable {dt a b : Rat} {m : Nat} {inputs : Nat → Inputs Rat}

/-- A period that is long enough is kept. -/
theorem samplePeriod_of_le {given : Rat} (long : 0.001 ≤ given) (step : Setting Rat) :
    samplePeriod given step = .ok given := by
  have nonzero : (given == 0.0) = false := by
    rw [beq_eq_false_iff_ne]
    rintro rfl
    norm_num at long
  have kept : Scalar.max minimalPeriod given = given := by
    unfold Scalar.max
    split
    · rfl
    · next notLonger => exact le_antisymm long (not_lt.mp notLonger)
  rw [samplePeriod, nonzero, kept]
  rfl

/-- The slope found at two samples of a straight line that are a period apart is that of the line. -/
theorem sampleSlope_affine {ts : Rat} (nonzero : ts ≠ 0) {u : Nat → Rat}
    (affine : ∀ k : Nat, u k = a + b * (k * ts)) (k : Nat) : sampleSlope ts u (k + 1) = b := by
  rw [sampleSlope, delayed_add, affine, affine]
  push_cast
  field_simp
  ring

/-- **A first-order hold is exact on straight lines.** -/
theorem outputAt_foh_affine [Host] (coarse : 1e-6 < dt) (positive : 1 ≤ m) (period : 0.001 ≤ m * dt)
    (affine : ∀ tick : Nat, Inputs.value (inputs tick) 0 = a + b * (tick * dt)) :
    let ts : Rat := m * dt
    (∀ step, samplePeriod ts step = .ok ts) ∧
      ∀ tick : Nat, ts < tick * dt →
        (foh ts).outputAt (.regular dt inputs) tick = .ok (a + b * (tick * dt)) := by
  intro ts
  refine ⟨samplePeriod_of_le period, fun tick late => ?_⟩
  let hold : Payload Rat := .foh ts
  let schedule := Schedule.regular dt inputs
  have nonzero : ts ≠ 0 := ne_of_gt (lt_of_lt_of_le (by norm_num) period)
  have firing (k : Nat) : hold.firing schedule k = k * m :=
    firing_eq_mul rfl rfl coarse positive inputs k
  have sampled (k : Nat) : hold.sample schedule k = a + b * (k * ts) := by
    rw [sample, firing]
    change Inputs.value (inputs (k * m)) 0 = a + b * (k * (m * dt))
    rw [affine]
    push_cast
    ring
  have timed (k : Nat) : hold.firingTime schedule k = k * ts := by
    rw [firingTime, firing]
    change ((k * m : Nat) : Rat) * dt = k * (m * dt)
    push_cast
    ring
  -- The firings in the ticks `0` and `m` are over, so the latest two samples are of the signal.
  have enough : 1 < hold.firings schedule tick := by
    have forward : 0 < dt := lt_trans (by norm_num) coarse
    refine lt_firings_of_mul_lt rfl rfl coarse positive inputs ?_
    rw [one_mul]
    exact Nat.cast_lt.mp (lt_of_mul_lt_mul_right late forward.le)
  obtain ⟨k, fired⟩ := Nat.exists_eq_add_of_le' enough
  have output := outputAt_foh ts schedule tick
  dsimp only at output
  rw [fired, delayed_add _ _ (k + 1), delayed_add _ _ (k + 1), delayed_add _ _ (k + 1),
    sampleSlope_affine nonzero sampled, sampled, timed] at output
  rw [output]
  change Except.ok (a + b * ((k + 1 : Nat) * ts) + b * (tick * dt - (k + 1 : Nat) * ts)) =
    .ok (a + b * (tick * dt))
  congr 1
  ring

open Host.Usual

/-- A falling line, sampled in every third tick. -/
theorem outputAt_foh_affine_falling :
    let hold : Payload Rat := .foh ((3 : Nat) * (1 / 10))
    let schedule := Schedule.regular (1 / 10) fun tick => [(0, 5 + -2 * (tick * (1 / 10)))]
    (1e-6 : Rat) < 1 / 10 ∧ 1 ≤ 3 ∧ (0.001 : Rat) ≤ (3 : Nat) * (1 / 10) ∧
      (List.range 6).map (fun tick => (hold.outputAt schedule tick).toOption) =
        [some 0, some (20 / 3), some (25 / 3), some 10, some (21 / 5), some 4] ∧
      ∀ tick : Nat, ((3 : Nat) * (1 / 10) : Rat) < tick * (1 / 10) →
        hold.outputAt schedule tick = .ok (5 + -2 * (tick * (1 / 10))) := by
  intro hold schedule
  have coarse : (1e-6 : Rat) < 1 / 10 := by norm_num
  have period : (0.001 : Rat) ≤ (3 : Nat) * (1 / 10) := by norm_num
  have affine (tick : Nat) :
      Inputs.value (schedule.inputs tick) 0 = 5 + -2 * (tick * (1 / 10)) :=
    Inputs.value_single _
  obtain ⟨-, exact⟩ := outputAt_foh_affine coarse (by decide) period affine
  exact ⟨coarse, by decide, period, by decide +kernel, exact⟩

end Affine

end Payload

end SignalFlow
