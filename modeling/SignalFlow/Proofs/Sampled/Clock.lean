import SignalFlow.Proofs.Sampled.Schedule
import Mathlib.Data.Nat.Nth

/-! # Sample clocks

A clocked block takes a sample of its input in the ticks in which its clock fires, and no other tick
changes it. So its state before a tick is a matter of the samples that it has taken until then,
however they are spread over time: what its first state holds, and each firing carries over from one
sample to the next, holds before every tick (`Payload.exists_stateAt_of_clocked`).
-/

namespace SignalFlow

variable {α : Type} [Scalar α]

/-! ## Clocks -/

/-- The period of a clocked block. -/
def Payload.period? : Payload α → Option α
  | .ddelay _ ts | .zoh ts | .foh ts | .dtf _ _ ts _ | .dstateSpace _ _ _ _ ts => some ts
  | _ => none

/-- The time that the clock of a block is set to. -/
def Memory.nextSample? : Memory α → Option α
  | .ddelay _ _ next | .zoh _ next | .foh _ _ _ _ next | .dtf _ _ _ next
  | .dstateSpace _ _ next => some next
  | _ => none

/-- Whether the clock of a block fires at a time. -/
def Memory.fires (memory : Memory α) (time : α) : Bool :=
  memory.nextSample?.any (clockFires time)

namespace Payload

variable {payload : Payload α} {ts : α}

/-- The output of a clocked block is there in any state, and reading it leaves the state. -/
theorem exists_output_of_clocked (clocked : payload.period? = some ts) (time dt : α)
    (inputs : Inputs α) (memory : Memory α) :
    ∃ value, payload.output time dt inputs memory = .ok (value, memory) := by
  cases payload with
  | ddelay | zoh | foh | dtf | dstateSpace => cases memory <;> exact ⟨_, rfl⟩
  | _ => cases clocked

/-- A clocked block is left as it is while its clock does not fire. -/
theorem update_of_idle (clocked : payload.period? = some ts) {time dt : α} {inputs : Inputs α}
    {memory : Memory α} (idle : memory.fires time = false) :
    payload.update time dt inputs memory = memory := by
  have not_fired {next : α} (same : memory.nextSample? = some next) :
      clockFires time next = false := by
    rwa [Memory.fires, same] at idle
  cases payload with
  | ddelay | zoh | foh | dtf | dstateSpace =>
      cases memory with
      | ddelay | zoh | foh | dtf | dstateSpace => simp [update, not_fired rfl]
      | _ => rfl
  | _ => cases clocked

/-- Whether the clock of a block fires in a tick. -/
def firesAt [Host] (payload : Payload α) (schedule : Schedule α) (tick : Nat) : Bool :=
  (payload.stateAt schedule tick).toOption.any (·.fires (schedule.time tick))

/-- How often the clock of a block has fired before a tick. -/
def firings [Host] (payload : Payload α) (schedule : Schedule α) (tick : Nat) : Nat :=
  Nat.count (payload.firesAt schedule ·) tick

/-- The tick in which the clock of a block fires for the time that has this number, from zero on. -/
noncomputable def firing [Host] (payload : Payload α) (schedule : Schedule α)
    (number : Nat) : Nat :=
  Nat.nth (payload.firesAt schedule ·) number

/-- The sample that a block takes when its clock fires for the time that has this number. -/
noncomputable def sample [Host] (payload : Payload α) (schedule : Schedule α) (number : Nat) : α :=
  schedule.input (payload.firing schedule number)

section Firing

variable {schedule : Schedule α} {tick : Nat} {memory : Memory α}

theorem firesAt_eq [Host] (reached : payload.stateAt schedule tick = .ok memory) :
    payload.firesAt schedule tick = memory.fires (schedule.time tick) := by
  rw [firesAt, reached]
  rfl

theorem firings_succ_of_fires [Host] (fires : payload.firesAt schedule tick = true) :
    payload.firings schedule (tick + 1) = payload.firings schedule tick + 1 :=
  Nat.count_succ_eq_succ_count_iff.mpr fires

theorem firings_succ_of_idle [Host] (idle : payload.firesAt schedule tick = false) :
    payload.firings schedule (tick + 1) = payload.firings schedule tick :=
  Nat.count_succ_eq_count_iff.mpr (by simp [idle])

theorem firing_firings [Host] (fires : payload.firesAt schedule tick = true) :
    payload.firing schedule (payload.firings schedule tick) = tick :=
  Nat.nth_count fires

/-- A firing that has been counted before a tick is the latest one if no later one has been. -/
theorem isGreatest_firing [Host] {number : Nat}
    (counted : payload.firings schedule tick = number + 1) :
    IsGreatest {earlier | earlier < tick ∧ payload.firesAt schedule earlier = true}
      (payload.firing schedule number) := by
  have inside : number < payload.firings schedule tick := by omega
  have enough (finite : (Set.ofPred fun tick => payload.firesAt schedule tick = true).Finite) :
      number < finite.toFinset.card :=
    inside.trans_le (Nat.count_le_card finite tick)
  refine ⟨⟨Nat.nth_lt_of_lt_count inside, Nat.nth_mem number enough⟩, ?_⟩
  rintro earlier ⟨before, fires⟩
  have counts : payload.firings schedule earlier < payload.firings schedule tick :=
    Nat.count_strict_mono fires before
  rw [← firing_firings fires]
  exact Nat.nth_le_nth' (by omega) enough

end Firing

/-- **What each firing carries over to the next one holds before every tick**, for the firings that
have been counted until then. -/
theorem exists_stateAt_of_firing [Host] (clocked : payload.period? = some ts) {memory : Memory α}
    (started : payload.start = .ok memory) (schedule : Schedule α)
    (Holds : Nat → Memory α → Prop) (initial : Holds 0 memory)
    (keeps : ∀ {tick : Nat} {state : Memory α}, Holds (payload.firings schedule tick) state →
      state.fires (schedule.time tick) = true →
      payload.firing schedule (payload.firings schedule tick) = tick →
        Holds (payload.firings schedule tick + 1)
          (payload.update (schedule.time tick) schedule.step (schedule.inputs tick) state))
    (tick : Nat) :
    ∃ state, payload.stateAt schedule tick = .ok state ∧
      Holds (payload.firings schedule tick) state := by
  induction tick with
  | zero => exact ⟨memory, started, initial⟩
  | succ tick ih =>
      obtain ⟨state, reached, holds⟩ := ih
      obtain ⟨value, read⟩ := exists_output_of_clocked clocked (schedule.time tick) schedule.step
        (schedule.inputs tick) state
      refine ⟨_, stateAt_succ reached read, ?_⟩
      cases fires : state.fires (schedule.time tick) with
      | false =>
          rw [firings_succ_of_idle ((firesAt_eq reached).trans fires), update_of_idle clocked fires]
          exact holds
      | true =>
          have firesAt := (firesAt_eq reached).trans fires
          rw [firings_succ_of_fires firesAt]
          exact keeps holds fires (firing_firings firesAt)

/-- **What each firing carries over to the next sample holds before every tick**, for the samples
that have been taken until then. -/
theorem exists_stateAt_of_clocked [Host] (clocked : payload.period? = some ts) {memory : Memory α}
    (started : payload.start = .ok memory) (schedule : Schedule α)
    (Holds : Nat → Memory α → Prop) (initial : Holds 0 memory)
    (keeps : ∀ {tick : Nat} {state : Memory α}, Holds (payload.firings schedule tick) state →
      state.fires (schedule.time tick) = true →
      payload.sample schedule (payload.firings schedule tick) = schedule.input tick →
        Holds (payload.firings schedule tick + 1)
          (payload.update (schedule.time tick) schedule.step (schedule.inputs tick) state))
    (tick : Nat) :
    ∃ state, payload.stateAt schedule tick = .ok state ∧
      Holds (payload.firings schedule tick) state :=
  exists_stateAt_of_firing clocked started schedule Holds initial
    (fun holds fires number => keeps holds fires (congrArg schedule.input number)) tick

end Payload

/-! ## Delayed signals -/

/-- A signal that comes a number of steps later, zero until then. -/
def delayed (steps : Nat) (signal : Nat → α) (index : Nat) : α :=
  if index < steps then 0.0 else signal (index - steps)

theorem delayed_of_lt {steps index : Nat} (early : index < steps) (signal : Nat → α) :
    delayed steps signal index = 0.0 :=
  if_pos early

@[simp] theorem delayed_add (steps : Nat) (signal : Nat → α) (index : Nat) :
    delayed steps signal (index + steps) = signal index := by
  rw [delayed, if_neg (by omega), Nat.add_sub_cancel]

/-- **A zero-order hold puts out the sample that it has taken last**, zero before the first one. -/
theorem Payload.outputAt_zoh [Host] (ts : α) (schedule : Schedule α) (tick : Nat) :
    let hold : Payload α := .zoh ts
    hold.outputAt schedule tick =
      .ok (delayed 1 (hold.sample schedule) (hold.firings schedule tick)) := by
  intro hold
  have clocked : hold.period? = some ts := rfl
  have holds := exists_stateAt_of_clocked clocked rfl schedule
    (fun fired state => ∃ next, state = .zoh (delayed 1 (hold.sample schedule) fired) next)
    ⟨0.0, rfl⟩ ?_ tick
  · obtain ⟨state, reached, next, rfl⟩ := holds
    exact outputAt_eq reached rfl
  · rintro tick state ⟨next, rfl⟩ fires taken
    refine ⟨next + ts, ?_⟩
    rw [delayed_add, taken]
    exact if_pos fires

end SignalFlow
