import SignalFlow.Host.Usual
import SignalFlow.Proofs.Sampled.Clock
import Mathlib.Algebra.Order.Archimedean.Basic
import Mathlib.Algebra.Order.Floor.Semiring
import Mathlib.Data.Rat.Floor
import Mathlib.Tactic.Linarith

/-! # The rate of a sample clock

A clock is set forward by its period whenever it fires, and looked at in every tick, so the firings
are neither late in the long run nor lost: in ticks at equal distances a clock has fired as often as
its period fits into the time, with a small allowance, but at most once in each tick
(`count_eq_min`). A clock whose period is shorter than a tick fires in every tick and falls behind;
every other clock fires for the `k`-th time in the first tick that has come to `k` periods
(`exists_isLeast_fires`). All this is about exact arithmetic.
-/

namespace SignalFlow

/-! ## Counting firings -/

section Counting

variable {p : Nat → Prop} [DecidablePred p] {dt ts allowance : Rat}

/-- How many periods have passed in a tick. -/
def periodsPassed (dt ts allowance : Rat) (tick : Nat) : Nat :=
  ⌊(tick * dt + allowance) / ts⌋₊

theorem le_periodsPassed_iff (period : 0 < ts) (positive : 0 < dt) (allows : 0 ≤ allowance)
    {count tick : Nat} :
    count ≤ periodsPassed dt ts allowance tick ↔ count * ts ≤ tick * dt + allowance := by
  rw [periodsPassed, Nat.le_floor_iff (by positivity), le_div_iff₀ period]

theorem periodsPassed_le_succ (period : 0 < ts) (positive : 0 < dt) (allows : 0 ≤ allowance)
    (tick : Nat) :
    periodsPassed dt ts allowance tick ≤ periodsPassed dt ts allowance (tick + 1) := by
  rw [le_periodsPassed_iff period positive allows]
  have here := (le_periodsPassed_iff period positive allows).mp
    (Nat.le_refl (periodsPassed dt ts allowance tick))
  push_cast
  linarith

/-- No more than one period passes in a tick that is no longer than a period. -/
theorem periodsPassed_succ_le (period : 0 < ts) (positive : 0 < dt) (allows : 0 ≤ allowance)
    (slow : dt ≤ ts) (tick : Nat) :
    periodsPassed dt ts allowance (tick + 1) ≤ periodsPassed dt ts allowance tick + 1 := by
  have there := (le_periodsPassed_iff period positive allows).mp
    (Nat.le_refl (periodsPassed dt ts allowance (tick + 1)))
  cases passed : periodsPassed dt ts allowance (tick + 1) with
  | zero => exact Nat.zero_le _
  | succ count =>
      refine Nat.succ_le_succ ((le_periodsPassed_iff period positive allows).mpr ?_)
      rw [passed] at there
      push_cast at there
      linarith

/-- At least one period passes in each tick that is no shorter than a period. -/
theorem le_periodsPassed (period : 0 < ts) (positive : 0 < dt) (allows : 0 ≤ allowance)
    (fast : ts ≤ dt) (tick : Nat) : tick ≤ periodsPassed dt ts allowance tick := by
  rw [le_periodsPassed_iff period positive allows]
  have scaled : (tick : Rat) * ts ≤ tick * dt :=
    mul_le_mul_of_nonneg_left fast (Nat.cast_nonneg tick)
  linarith

/-- **A clock fires as often as its period fits into the time, but at most once in a tick.** -/
theorem count_eq_min (period : 0 < ts) (positive : 0 < dt) (allows : 0 ≤ allowance)
    (fires : ∀ tick, p tick ↔ Nat.count p tick * ts ≤ tick * dt + allowance) (tick : Nat) :
    Nat.count p (tick + 1) = min (tick + 1) (periodsPassed dt ts allowance tick + 1) := by
  simp only [← le_periodsPassed_iff period positive allows] at fires
  induction tick with
  | zero =>
      have first : p 0 := (fires 0).mpr (Nat.zero_le _)
      simp [Nat.count_succ, first]
  | succ tick ih =>
      have grows := periodsPassed_le_succ period positive allows tick
      have bounds : periodsPassed dt ts allowance (tick + 1) ≤ periodsPassed dt ts allowance tick + 1 ∨
          tick + 1 ≤ periodsPassed dt ts allowance (tick + 1) ∧
            tick ≤ periodsPassed dt ts allowance tick :=
        (le_total dt ts).imp (periodsPassed_succ_le period positive allows · tick) fun fast =>
          ⟨le_periodsPassed period positive allows fast _,
            le_periodsPassed period positive allows fast _⟩
      have step := fires (tick + 1)
      rw [ih] at step
      by_cases fired : p (tick + 1)
      · have due := step.mp fired
        rw [Nat.count_succ, if_pos fired, ih]
        omega
      · have due := mt step.mpr fired
        rw [Nat.count_succ, if_neg fired, ih]
        omega

/-- Two ticks are at least a step apart. -/
theorem mul_add_le_of_lt (positive : 0 < dt) {tick other : Nat} (before : tick < other) :
    tick * dt + dt ≤ other * dt := by
  have counted : (tick + 1 : Rat) ≤ other := by exact_mod_cast before
  have scaled := mul_le_mul_of_nonneg_right counted positive.le
  linarith

/-- There is a first tick that has come to a time. -/
theorem exists_isLeast_tick (positive : 0 < dt) (time : Rat) :
    ∃ tick, IsLeast {tick : Nat | time ≤ tick * dt} tick := by
  obtain ⟨tick, above⟩ := exists_nat_ge (time / dt)
  have reached : ∃ tick : Nat, time ≤ tick * dt := ⟨tick, (div_le_iff₀ positive).mp above⟩
  exact ⟨Nat.find reached, Nat.find_spec reached, fun tick there => Nat.find_min' reached there⟩

/-- Before the first tick that has come to `k` periods a clock has fired `k` times. -/
theorem count_eq_of_isLeast (positive : 0 < dt) (allows : 0 ≤ allowance) (slow : dt ≤ ts)
    (small : allowance < ts)
    (fires : ∀ tick, p tick ↔ Nat.count p tick * ts ≤ tick * dt + allowance) {k tick : Nat}
    (first : IsLeast {tick : Nat | k * ts - allowance ≤ tick * dt} tick) :
    Nat.count p tick = k := by
  have period : 0 < ts := positive.trans_le slow
  have enough : k * ts - allowance ≤ tick * dt := first.1
  cases tick with
  | zero =>
      -- Only the first firing is due at once, since a period exceeds the allowance.
      rw [Nat.cast_zero, zero_mul] at enough
      have none : k < 1 := by
        by_contra some
        have scaled : ts ≤ k * ts :=
          le_mul_of_one_le_left period.le (Nat.one_le_cast.mpr (Nat.not_lt.mp some))
        linarith
      rw [Nat.count_zero]
      omega
  | succ tick =>
      have before : (tick : Rat) * dt < k * ts - allowance := by
        by_contra there
        exact absurd (first.2 (not_lt.mp there)) (Nat.not_succ_le_self tick)
      push_cast at enough
      have below : periodsPassed dt ts allowance tick < k := by
        rw [← Nat.not_le, le_periodsPassed_iff period positive allows]
        linarith
      have above : k ≤ periodsPassed dt ts allowance tick + 1 := by
        rw [← Nat.sub_le_iff_le_add, le_periodsPassed_iff period positive allows,
          Nat.cast_sub (by omega)]
        push_cast
        linarith
      have late : k ≤ tick + 1 := by
        by_contra early
        have scaled : ((tick + 2 : Nat) : Rat) * ts ≤ k * ts :=
          mul_le_mul_of_nonneg_right (Nat.cast_le.mpr (by omega)) period.le
        have stretched : (tick + 1 : Rat) * dt ≤ (tick + 1) * ts :=
          mul_le_mul_of_nonneg_left slow (by positivity)
        push_cast at scaled
        linarith
      rw [count_eq_min period positive allows fires tick]
      omega

/-- **A clock whose period is no shorter than a tick fires for the `k`-th time, counted from zero, in
the first tick that has come to `k` periods.** -/
theorem exists_isLeast_fires (positive : 0 < dt) (allows : 0 ≤ allowance) (slow : dt ≤ ts)
    (small : allowance < ts)
    (fires : ∀ tick, p tick ↔ Nat.count p tick * ts ≤ tick * dt + allowance) (k : Nat) :
    ∃ tick, IsLeast {tick : Nat | k * ts - allowance ≤ tick * dt} tick ∧ p tick ∧
      Nat.count p tick = k := by
  obtain ⟨tick, first⟩ := exists_isLeast_tick positive (k * ts - allowance)
  have counted := count_eq_of_isLeast positive allows slow small fires first
  refine ⟨tick, first, ?_, counted⟩
  rw [fires, counted]
  exact sub_le_iff_le_add.mp first.1

/-- If a period is a whole number of ticks, the first tick that has come to `k` periods is a multiple
of it. -/
theorem isLeast_mul (positive : 0 < dt) (allows : 0 ≤ allowance) (small : allowance < dt)
    (k m : Nat) : IsLeast {tick : Nat | k * (m * dt) - allowance ≤ tick * dt} (k * m) := by
  constructor
  · rw [Set.mem_ofPred_eq]
    push_cast
    linarith
  · intro tick come
    rw [Set.mem_ofPred_eq] at come
    by_contra early
    have apart := mul_add_le_of_lt positive (not_le.mp early)
    push_cast at apart
    linarith

end Counting

/-! ## Clocks of blocks -/

/-- Ticks from time zero on that are all a step apart. -/
def Schedule.regular (dt : Rat) (inputs : Nat → Inputs Rat) : Schedule Rat :=
  ⟨dt, fun tick => tick * dt, inputs⟩

namespace Payload

/-- The state of a clocked block, with its clock set to a time. -/
inductive IsSet : Payload Rat → Memory Rat → Rat → Prop
  | ddelay {steps : Nat} {ts last next : Rat} {buffer : List Rat} :
      IsSet (.ddelay steps ts) (.ddelay buffer last next) next
  | zoh {ts held next : Rat} : IsSet (.zoh ts) (.zoh held next) next
  | foh {ts prev last lastTime slope next : Rat} :
      IsSet (.foh ts) (.foh prev last lastTime slope next) next
  | dtf {num den inputs outputs : List Rat} {ts last next : Rat} {model : Recurrence Rat} :
      IsSet (.dtf num den ts model) (.dtf inputs outputs last next) next
  | dstateSpace {a b c d ts x out next : Rat} :
      IsSet (.dstateSpace a b c d ts) (.dstateSpace x out next) next

variable {payload : Payload Rat} {ts next time dt : Rat} {inputs : Inputs Rat}
  {memory : Memory Rat}

theorem IsSet.fires_eq (isSet : payload.IsSet memory next) :
    memory.fires time = clockFires time next := by
  cases isSet <;> rfl

/-- A clock that fires is set forward by the period. -/
theorem IsSet.update (isSet : payload.IsSet memory next) (clocked : payload.period? = some ts)
    (fires : memory.fires time = true) :
    payload.IsSet (payload.update time dt inputs memory) (next + ts) := by
  rw [isSet.fires_eq] at fires
  cases isSet <;> cases clocked <;> simp only [Payload.update, fires, if_true] <;> constructor

/-- A clock is set to time zero at first. -/
theorem isSet_start [Host] (clocked : payload.period? = some ts)
    (started : payload.start = .ok memory) :
    payload.IsSet memory 0 := by
  have zero : (0.0 : Rat) = 0 := by norm_num
  cases payload with
  | ddelay steps period =>
      obtain ⟨buffer, -, started⟩ := bind_eq_ok_iff.mp started
      cases started
      rw [zero]
      constructor
  | zoh | foh | dtf | dstateSpace =>
      cases started
      rw [zero]
      constructor
  | _ => cases clocked

/-- The clock of a block fires when as many periods have passed as it has fired. -/
theorem firesAt_iff [Host] (clocked : payload.period? = some ts)
    (started : payload.start = .ok memory)
    (schedule : Schedule Rat) (tick : Nat) :
    payload.firesAt schedule tick = true ↔
      payload.firings schedule tick * ts ≤ schedule.time tick + 1e-6 := by
  obtain ⟨state, reached, isSet⟩ := exists_stateAt_of_clocked clocked started schedule
    (fun fired state => payload.IsSet state (fired * ts))
    (by simpa using isSet_start clocked started)
    (fun {tick state} isSet fires _ => by
      rw [Nat.cast_succ, add_mul, one_mul]
      exact isSet.update clocked fires) tick
  rw [firesAt_eq reached, isSet.fires_eq, clockFires, decide_eq_true_iff]
  rfl

section Multiple

variable [Host] {m : Nat} (clocked : payload.period? = some (m * dt))
  (started : payload.start = .ok memory) (coarse : 1e-6 < dt) (positive : 1 ≤ m)
  (inputs : Nat → Inputs Rat)
include clocked started coarse positive

/-- A clock whose period is `m` ticks fires in tick `k * m`, after `k` firings. -/
theorem firesAt_mul (k : Nat) : payload.firesAt (.regular dt inputs) (k * m) = true ∧
    payload.firings (.regular dt inputs) (k * m) = k := by
  have allows : (0 : Rat) ≤ 1e-6 := by norm_num
  have forward : 0 < dt := allows.trans_lt coarse
  have slow : dt ≤ m * dt := le_mul_of_one_le_left forward.le (Nat.one_le_cast.mpr positive)
  obtain ⟨tick, first, fires, counted⟩ := exists_isLeast_fires forward allows slow
    (coarse.trans_le slow) (firesAt_iff clocked started (.regular dt inputs)) k
  obtain rfl := first.unique (isLeast_mul forward allows coarse k m)
  exact ⟨fires, counted⟩

/-- **A clock whose period is `m` ticks fires for the `k`-th time, counted from zero, in tick
`k * m`.** -/
theorem firing_eq_mul (k : Nat) : payload.firing (.regular dt inputs) k = k * m := by
  obtain ⟨fires, counted⟩ := firesAt_mul clocked started coarse positive inputs k
  have number := firing_firings fires
  rwa [counted] at number

theorem lt_firings_of_mul_lt {k tick : Nat} (late : k * m < tick) :
    k < payload.firings (.regular dt inputs) tick := by
  obtain ⟨fires, counted⟩ := firesAt_mul clocked started coarse positive inputs k
  calc k = payload.firings (.regular dt inputs) (k * m) := counted.symm
    _ < payload.firings (.regular dt inputs) tick := Nat.count_strict_mono fires late

end Multiple

/-- **The sample clock neither drifts nor loses samples.** In ticks at equal distances from time zero
on, a clocked block has fired as often as its period fits into the time, with an allowance of a
millionth, but at most once in a tick. Unless its period is shorter than a tick, it takes sample `k`
in the first tick that has come to `k` periods. What a zero-order hold puts out is what it read when
its clock fired last in an earlier tick. -/
theorem firings_eq_min [Host] (clocked : payload.period? = some ts)
    (started : payload.start = .ok memory) (positive : 0 < dt) (period : 0.001 ≤ ts)
    (inputs : Nat → Inputs Rat) :
    let schedule := Schedule.regular dt inputs
    (∀ tick : Nat, payload.firings schedule (tick + 1) =
      min (tick + 1) (⌊(tick * dt + 1e-6) / ts⌋₊ + 1)) ∧
    (dt ≤ ts → ∀ k : Nat, ∃ tick, IsLeast {tick : Nat | k * ts - 1e-6 ≤ tick * dt} tick ∧
      payload.firesAt schedule tick = true ∧ payload.firings schedule tick = k) ∧
    (payload = .zoh ts → payload.outputAt schedule 0 = .ok 0.0 ∧ ∀ tick, 0 < tick →
      ∃ latest, IsGreatest {earlier | earlier < tick ∧ payload.firesAt schedule earlier = true}
          latest ∧
        payload.outputAt schedule tick = .ok (schedule.input latest)) := by
  intro schedule
  have allows : (0 : Rat) ≤ 1e-6 := by norm_num
  have small : (1e-6 : Rat) < ts := by linarith
  have fires := firesAt_iff clocked started schedule
  have counts (tick : Nat) := count_eq_min (allows.trans_lt small) positive allows fires tick
  refine ⟨counts, fun slow => exists_isLeast_fires positive allows slow small fires, ?_⟩
  rintro rfl
  have output := outputAt_zoh ts schedule
  constructor
  · rw [output]
    rfl
  · intro tick later
    obtain ⟨tick, rfl⟩ := Nat.exists_eq_add_of_lt later
    have fired : ∃ number, (zoh ts).firings schedule (0 + tick + 1) = number + 1 :=
      Nat.exists_eq_add_of_le' (by
        rw [firings, counts]
        omega)
    obtain ⟨number, counted⟩ := fired
    refine ⟨_, isGreatest_firing counted, ?_⟩
    rw [output, counted, delayed_add]
    rfl

open Host.Usual

/-- A hold that samples a ramp in every third tick. -/
theorem firings_eq_min_zoh :
    let hold : Payload Rat := .zoh (3 / 10)
    let schedule := Schedule.regular (1 / 10) fun tick => [(0, tick / 10)]
    hold.period? = some (3 / 10) ∧ hold.start = .ok (.zoh 0.0 0.0) ∧ (0 : Rat) < 1 / 10 ∧
      (0.001 : Rat) ≤ 3 / 10 ∧
      (List.range 8).map (fun tick => (hold.outputAt schedule tick).toOption) =
        [some 0, some 0, some 0, some 0, some (3 / 10), some (3 / 10), some (3 / 10),
          some (6 / 10)] ∧
      (∀ tick : Nat, hold.firings schedule (tick + 1) =
        min (tick + 1) (⌊(tick * (1 / 10) + 1e-6 : Rat) / (3 / 10)⌋₊ + 1)) ∧
      (∀ k : Nat, ∃ tick,
        IsLeast {tick : Nat | k * (3 / 10) - 1e-6 ≤ (tick * (1 / 10) : Rat)} tick ∧
          hold.firesAt schedule tick = true ∧ hold.firings schedule tick = k) ∧
      ∀ tick, 0 < tick → ∃ latest,
        IsGreatest {earlier | earlier < tick ∧ hold.firesAt schedule earlier = true} latest ∧
          hold.outputAt schedule tick = .ok (schedule.input latest) := by
  intro hold schedule
  have clocked : hold.period? = some (3 / 10) := rfl
  have started : hold.start = .ok (.zoh 0.0 0.0) := rfl
  have positive : (0 : Rat) < 1 / 10 := by norm_num
  have period : (0.001 : Rat) ≤ 3 / 10 := by norm_num
  obtain ⟨counts, taken, held⟩ :=
    firings_eq_min clocked started positive period fun tick => [(0, tick / 10)]
  exact ⟨clocked, started, positive, period, by decide +kernel, counts, taken (by norm_num),
    (held rfl).2⟩

end Payload

end SignalFlow
