import SignalFlow.Host.Usual
import SignalFlow.Proofs.Sampled.Clock
import SignalFlow.Proofs.TransportDelay

/-! # Discrete delays

A delay by `steps` samples shifts a list of as many slots. In its slots wait the outputs of the next
firings (`dueSamples`), and what it publishes at a firing is what the shift brings to the front, so
that all in all a sample comes out `steps` firings after it was taken (`Payload.outputAt_ddelay`).
A transport delay goes round a line of `steps + 1` slots instead, and is late by ticks; where the
clock of the discrete delay fires in every tick, the two do the same.
-/

namespace SignalFlow

variable {α : Type} [Scalar α]

/-! ## The shift register -/

/-- The outputs that are due at the next firings, after a number of samples. -/
def dueSamples (steps : Nat) (signal : Nat → α) (count : Nat) : List α :=
  (List.range steps).map fun slot => delayed steps signal (count + slot)

theorem dueSamples_zero (steps : Nat) (signal : Nat → α) :
    dueSamples steps signal 0 = List.replicate steps 0.0 := by
  rw [dueSamples, List.map_eq_replicate_iff.mpr, List.length_range]
  intro slot inside
  rw [Nat.zero_add, delayed_of_lt (List.mem_range.mp inside)]

/-- The first slot holds what is due now. -/
theorem headD_dueSamples {steps : Nat} (positive : 1 ≤ steps) (signal : Nat → α) (count : Nat) :
    (dueSamples steps signal count).headD 0.0 = delayed steps signal count := by
  obtain ⟨steps, rfl⟩ := Nat.exists_eq_add_of_le' positive
  simp [dueSamples, List.range_succ_eq_map]

/-- Appending the next sample behind the slots moves all of them on. -/
theorem tail_dueSamples_append {steps : Nat} (positive : 1 ≤ steps) (signal : Nat → α)
    (count : Nat) : (dueSamples steps signal count).tail ++ [signal count] =
      dueSamples steps signal (count + 1) := by
  obtain ⟨steps, rfl⟩ := Nat.exists_eq_add_of_le' positive
  have moved (slot : Nat) : count + 1 + slot = count + (slot + 1) := by omega
  calc (dueSamples (steps + 1) signal count).tail ++ [signal count]
      = (List.range steps).map (fun slot => delayed (steps + 1) signal (count + (slot + 1))) ++
          [signal count] := by
        simp [dueSamples, List.range_succ_eq_map]
    _ = dueSamples (steps + 1) signal (count + 1) := by
        simp only [dueSamples, List.range_succ, List.map_append, List.map_cons, List.map_nil, moved,
          delayed_add]

namespace Payload

variable {steps : Nat} {memory : Memory α}

/-- A discrete delay puts out its samples late by a number of firings. -/
theorem outputAt_ddelay_eq_delayed [Host] {ts : α} (positive : 1 ≤ steps)
    (started : (ddelay steps ts).start = .ok memory) (schedule : Schedule α) (tick : Nat) :
    (ddelay steps ts).outputAt schedule tick = .ok (delayed steps
      ((ddelay steps ts).sample schedule) ((ddelay steps ts).firings schedule tick)) := by
  let block := ddelay steps ts
  let u := block.sample schedule
  have clocked : block.period? = some ts := rfl
  have holds := exists_stateAt_of_clocked clocked started schedule
    (fun fired state => ∃ next,
      state = .ddelay (dueSamples steps u fired) (delayed steps u fired) next) ?_ ?_ tick
  · obtain ⟨state, reached, next, rfl⟩ := holds
    exact outputAt_eq reached rfl
  · obtain ⟨buffer, made, started⟩ := bind_eq_ok_iff.mp started
    cases started
    rw [eq_replicate_of_emptyBuffer made, dueSamples_zero, delayed_of_lt positive]
    exact ⟨0.0, rfl⟩
  · rintro tick state ⟨next, rfl⟩ fires taken
    generalize block.firings schedule tick = fired at taken fires ⊢
    have taken : u fired = schedule.input tick := taken
    refine ⟨next + ts, ?_⟩
    rw [← headD_dueSamples positive u (fired + 1), ← tail_dueSamples_append positive, taken]
    exact if_pos fires

/-- A transport delay puts out its input late by a number of ticks. -/
theorem outputAt_delay_eq_delayed [Host] {time : α} (positive : 1 ≤ steps)
    (started : (delay time steps).start = .ok memory) (schedule : Schedule α) (tick : Nat) :
    (delay time steps).outputAt schedule tick = .ok (delayed steps schedule.input tick) := by
  have holds : ∃ buffer idx,
      (delay time steps).stateAt schedule tick = .ok (.delay buffer idx) ∧
        HoldsLine steps (delayed steps schedule.input) tick buffer idx := by
    induction tick with
    | zero =>
        obtain ⟨buffer, made, memory_eq⟩ := bind_eq_ok_iff.mp started
        cases memory_eq
        refine ⟨_, _, started, ?_⟩
        rw [eq_replicate_of_emptyBuffer made, List.toArray_replicate]
        exact .start fun _ early => delayed_of_lt early _
    | succ tick ih =>
        obtain ⟨buffer, idx, reached, holds⟩ := ih
        exact ⟨_, _, stateAt_succ reached rfl, holds.write (delayed_add _ _ _)⟩
  obtain ⟨buffer, idx, reached, holds⟩ := holds
  rw [← holds.read positive]
  exact outputAt_eq reached rfl

/-- A clock that has fired in every tick has numbered its firings like the ticks. -/
theorem firings_of_forall [Host] {payload : Payload α} {schedule : Schedule α} {tick : Nat}
    (always : ∀ earlier < tick, payload.firesAt schedule earlier = true) :
    payload.firings schedule tick = tick ∧
      ∀ earlier < tick, payload.sample schedule earlier = schedule.input earlier := by
  refine ⟨Nat.count_iff_forall.mpr always, fun earlier before => ?_⟩
  have same : payload.firing schedule earlier = earlier :=
    Nat.nth_of_forall fun other inside => always other (inside.trans_lt before)
  rw [sample, same]

/-- **A discrete delay by `steps` samples puts out the sample that it took `steps` firings ago**, and
zero before there is one. So if its clock has fired in every tick, it puts out what a transport delay
by `steps` ticks does. -/
theorem outputAt_ddelay [Host] {ts : α} (positive : 1 ≤ steps)
    (started : (ddelay steps ts).start = .ok memory) (schedule : Schedule α) (tick : Nat) :
    let block := ddelay steps ts
    let fired := block.firings schedule tick
    block.outputAt schedule tick =
      .ok (if fired < steps then 0.0 else block.sample schedule (fired - steps)) ∧
    ((∀ earlier < tick, block.firesAt schedule earlier = true) →
      ∀ (time : α) (line : Memory α), (delay time steps).start = .ok line →
        (delay time steps).outputAt schedule tick = block.outputAt schedule tick) := by
  intro block fired
  have output := outputAt_ddelay_eq_delayed positive started schedule tick
  refine ⟨output, fun always time line lineStarted => ?_⟩
  obtain ⟨counted, taken⟩ := firings_of_forall always
  rw [output, counted, outputAt_delay_eq_delayed positive lineStarted schedule, delayed, delayed]
  split
  · rfl
  · rw [taken (tick - steps) (by omega)]

open Host.Usual

/-- A delay by two samples in ticks that lie further and further apart; its clock is still in its
first period in the second tick and fires in all others. In ticks that lie apart by its period it
fires in each of them. -/
theorem outputAt_ddelay_accelerating :
    let block : Payload Rat := .ddelay 2 (1 / 2)
    let schedule : Schedule Rat := ⟨1, fun tick => tick * tick / 4, fun tick => [(0, 10 + tick)]⟩
    let steady : Schedule Rat := ⟨1 / 2, fun tick => tick / 2, fun tick => [(0, 10 + tick)]⟩
    1 ≤ 2 ∧ block.start = .ok (.ddelay [0.0, 0.0] 0.0 0.0) ∧
      (List.range 6).map (block.firesAt schedule) = [true, false, true, true, true, true] ∧
      (List.range 6).map (fun tick => (block.outputAt schedule tick).toOption) =
        [some 0, some 0, some 0, some 10, some 12, some 13] ∧
      block.outputAt schedule 5 = .ok (if block.firings schedule 5 < 2 then 0.0
        else block.sample schedule (block.firings schedule 5 - 2)) ∧
      (∀ earlier < 5, block.firesAt steady earlier = true) ∧
      (delay 1 2).start = .ok (Memory.delay #[0.0, 0.0, 0.0] 0 : Memory Rat) ∧
      (delay 1 2).outputAt steady 5 = block.outputAt steady 5 := by
  intro block schedule steady
  have started : block.start = .ok (.ddelay [0.0, 0.0] 0.0 0.0) := rfl
  have lineStarted : (delay 1 2).start = .ok (Memory.delay #[0.0, 0.0, 0.0] 0 : Memory Rat) := rfl
  have always : ∀ earlier < 5, block.firesAt steady earlier = true := by decide +kernel
  exact ⟨by decide, started, by decide +kernel, by decide +kernel,
    (outputAt_ddelay (by decide) started schedule 5).1, always, lineStarted,
    (outputAt_ddelay (by decide) started steady 5).2 always 1 _ lineStarted⟩

end Payload

end SignalFlow
