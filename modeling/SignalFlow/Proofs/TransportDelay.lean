import SignalFlow.Host.Usual
import SignalFlow.Proofs.LabelBus
import SignalFlow.Proofs.Persistence
import SignalFlow.Proofs.Runs
import Mathlib.Data.Nat.ModEq

/-! # Transport delays

A delay by `steps` ticks keeps a line of `steps + 1` slots that it goes round: in each tick it reads
one slot and then writes its input `steps` slots ahead, so what it reads is what it took in `steps`
ticks earlier (`HoldsLine`). Around it the diagram may be as it likes: the output is read before
anything else is known, and the input taken once everything is, so a delay may well feed its own
driver (`Compiled.outputOf_delay`).
-/

namespace SignalFlow

variable {α : Type}

/-! ## The line -/

/-- A line holds the outputs of the next `steps` ticks, the one of the current tick at `idx` and those
of later ticks in the slots after it, going round. -/
structure HoldsLine [Scalar α] (steps : Nat) (due : Nat → α) (tick : Nat) (buffer : Array α)
    (idx : Nat) : Prop where
  size : buffer.size = steps + 1
  inside : idx ≤ steps
  slot {ahead : Nat} : ahead < steps →
    buffer.getD ((idx + ahead) % (steps + 1)) 0.0 = due (tick + ahead)

namespace HoldsLine

/-- Going round, two slots fewer than a round apart are different. -/
theorem slot_ne (idx : Nat) {steps first second : Nat} (before : first < second)
    (inside : second ≤ steps) : (idx + first) % (steps + 1) ≠ (idx + second) % (steps + 1) := by
  intro same
  have apart : first ≡ second [MOD steps + 1] := Nat.ModEq.add_left_cancel' idx same
  exact Nat.ne_of_lt before (apart.eq_of_lt_of_lt (by omega) (by omega))

variable [Scalar α] {steps tick idx : Nat} {due : Nat → α} {buffer : Array α}

/-- A line of zeros holds a silence of `steps` ticks. -/
theorem start (silent : ∀ tick < steps, due tick = 0.0) :
    HoldsLine steps due 0 (Array.replicate (steps + 1) 0.0) 0 where
  size := Array.size_replicate
  inside := Nat.zero_le _
  slot := by
    intro ahead earlier
    have inside : ahead < steps + 1 := by omega
    rw [Nat.zero_add, Nat.mod_eq_of_lt inside, silent ahead earlier, Array.getD_eq_getD_getElem?]
    simp [inside]

/-- The slot at the index is the one that is due. -/
theorem read (holds : HoldsLine steps due tick buffer idx) (positive : 1 ≤ steps) :
    buffer.getD idx 0.0 = due tick := by
  have slot := holds.slot positive
  rwa [Nat.add_zero, Nat.mod_eq_of_lt (Nat.lt_succ_of_le holds.inside)] at slot

/-- A value written `steps` slots ahead is due in as many ticks, and the line moves on. -/
theorem write (holds : HoldsLine steps due tick buffer idx) {value : α}
    (taken : due (tick + steps) = value) :
    HoldsLine steps due (tick + 1)
      (buffer.setIfInBounds ((idx + steps) % buffer.size) value) ((idx + 1) % buffer.size) := by
  rw [holds.size]
  refine ⟨?_, Nat.le_of_lt_succ (Nat.mod_lt _ (Nat.succ_pos steps)), ?_⟩
  · rw [Array.size_setIfInBounds, holds.size]
  · intro ahead earlier
    have moved : ((idx + 1) % (steps + 1) + ahead) % (steps + 1) =
        (idx + (ahead + 1)) % (steps + 1) := by
      rw [Nat.mod_add_mod, Nat.add_assoc, Nat.add_comm 1]
    rw [moved, Array.getD_eq_getD_getElem?, Nat.add_assoc, Nat.add_comm 1]
    by_cases last : ahead + 1 = steps
    · have written : (idx + steps) % (steps + 1) < buffer.size := by
        rw [holds.size]
        exact Nat.mod_lt _ (Nat.succ_pos steps)
      rw [last, Array.getElem?_setIfInBounds_self_of_lt written, taken]
      rfl
    · have other := (slot_ne idx (by omega : ahead + 1 < steps) (Nat.le_refl steps)).symm
      rw [Array.getElem?_setIfInBounds_ne other, ← Array.getD_eq_getD_getElem?]
      exact holds.slot (by omega)

end HoldsLine

/-! ## A delay in a diagram -/

namespace Compiled

variable [Scalar α]

/-- The block at a handle is a delay by a number of ticks. -/
structure IsDelay (compiled : Compiled α) (handle : Nat) (node : Node α) (time : α) (steps : Nat) :
    Prop where
  found : compiled.nodes[handle]? = some node
  kind_eq : node.kind = .delay
  payload_eq : node.payload = .delay time steps
  positive : 1 ≤ steps
  phase_eq : node.phase = .memory
  mem_ports : 0 ∈ node.ports

theorem exists_isDelay [Host] {diagram : Diagram String} {defaultDt defaultRuntime : Setting α}
    {before after : List Notice} {compiled : Compiled α}
    (compiles : Completes (ofDiagram diagram defaultDt defaultRuntime) before compiled after)
    {handle : Nat} {node : Node α} (found : compiled.nodes[handle]? = some node)
    (kind : node.kind = .delay) : ∃ time steps, compiled.IsDelay handle node time steps := by
  obtain ⟨block, -, isNode⟩ := exists_isNodeOf compiles found
  obtain ⟨time, steps, payload⟩ : ∃ time steps, node.payload = .delay time steps := by
    have payloadKind := isNode.payload_kind.trans kind
    cases payload : node.payload <;> rw [payload] at payloadKind <;> cases payloadKind
    exact ⟨_, _, rfl⟩
  have sound := isSound_payload compiles found
  have isOther : node.kind ≠ .labelSource := by simp [kind]
  have phase := isNode.payload_phase (isNode.external_eq_false isOther)
  rw [payload] at sound phase
  exact ⟨time, steps, found, kind, payload, sound, phase.symm,
    mem_ports compiles found isOther (by simp [kind, Kind.inputs])⟩

/-- Before a tick a delay holds the outputs that are due from this tick on. -/
def IsPrepared (compiled : Compiled α) (handle steps : Nat) (due : Nat → α) (tick : Nat)
    (state : RunState α) : Prop :=
  state.Fits compiled ∧ ∃ buffer idx, state.memory handle = .delay buffer idx ∧
    HoldsLine steps due tick buffer idx

namespace IsDelay

variable {compiled : Compiled α} {handle steps : Nat} {node : Node α} {time : α}
  (isDelay : compiled.IsDelay handle node time steps) {due : Nat → α}
include isDelay

/-- A delay is prepared for the first tick. -/
theorem isPrepared_of_create [Host] {start : RunState α}
    (created : RunState.create compiled = .ok start)
    (silent : ∀ tick < steps, due tick = 0.0) : compiled.IsPrepared handle steps due 0 start := by
  obtain ⟨started, -⟩ := RunState.create_eq_ok_iff.mp created
  have memory := (RunState.forall₂_start_iff.mp started).2 handle node isDelay.found
  rw [isDelay.payload_eq] at memory
  obtain ⟨buffer, made, memory⟩ := bind_eq_ok_iff.mp memory
  rw [eq_replicate_of_emptyBuffer made] at memory
  refine ⟨RunState.fits_of_create created, _, _, (Except.ok.inj memory).symm, ?_⟩
  rw [List.toArray_replicate]
  exact .start silent

/-- In a tick a delay gives what is due, and is prepared for the next tick if what its driver has
given is due later on. -/
theorem isPrepared_of_step (wellFormed : compiled.WellFormed) {limit tick : Nat}
    {given : List (String × α)} {start after : RunState α} {result : TickResult α}
    (prepared : compiled.IsPrepared handle steps due tick start)
    (completes : Completes (compiled.step limit given) start result after) :
    after.outputOf handle = due tick ∧ (due (tick + steps) = node.relayed after →
      compiled.IsPrepared handle steps due (tick + 1) after) := by
  obtain ⟨fits, buffer, idx, memory, holds⟩ := prepared
  obtain ⟨next, ⟨dt, -, output⟩, ⟨_, -, update⟩⟩ :=
    exists_yields_of_step wellFormed fits completes isDelay.found (.inr isDelay.phase_eq)
  rw [isDelay.payload_eq, memory] at output
  obtain ⟨given_eq, rfl⟩ := Prod.mk.inj (Except.ok.inj output)
  refine ⟨given_eq.symm.trans (holds.read isDelay.positive), fun taken => ?_⟩
  have kind : node.kind ≠ .mult := by simp [isDelay.kind_eq]
  rw [← Node.value_inputs kind isDelay.mem_ports] at taken
  rw [isDelay.payload_eq] at update
  exact ⟨isInvariant_fits.keeps_step limit given |>.of_completes fits completes, _, _, update,
    holds.write taken⟩

end IsDelay

/-- What a delay is to give in a tick of a run: what its driver gave `steps` ticks earlier. -/
def due (node : Node α) (steps : Nat) (run : List (TickResult α × RunState α)) (tick : Nat) : α :=
  if tick < steps then 0.0
  else (run[tick - steps]?.map fun past => node.relayed past.2).getD 0.0

theorem due_add (node : Node α) (steps : Nat) {run : List (TickResult α × RunState α)} {tick : Nat}
    {past : TickResult α × RunState α} (found : run[tick]? = some past) :
    due node steps run (tick + steps) = node.relayed past.2 := by
  unfold due
  rw [if_neg (by omega), Nat.add_sub_cancel, found]
  rfl

/-- **A transport delay gives what its driver gave `steps` ticks earlier**, at the end of that tick,
and zero before there is such a tick. -/
theorem outputOf_delay [Host] {diagram : Diagram String} {defaultDt defaultRuntime : Setting α}
    {before after : List Notice} {compiled : Compiled α} {handle limit : Nat} {node : Node α}
    {given : List (List (String × α))} {run : List (TickResult α × RunState α)}
    (compiles : Completes (ofDiagram diagram defaultDt defaultRuntime) before compiled after)
    (found : compiled.nodes[handle]? = some node) (kind : node.kind = .delay)
    (simulated : compiled.simulate limit given = .ok run) :
    ∃ time steps, node.payload = .delay time steps ∧ 1 ≤ steps ∧
      ∀ (tick : Nat) (result : TickResult α) (state : RunState α),
        run[tick]? = some (result, state) →
          (tick < steps → state.outputOf handle = 0.0) ∧
          (steps ≤ tick → ∃ past pastState, run[tick - steps]? = some (past, pastState) ∧
            state.outputOf handle = node.relayed pastState) := by
  have wellFormed := wellFormed_of_completes compiles
  obtain ⟨time, steps, isDelay⟩ := exists_isDelay compiles found kind
  obtain ⟨start, final, created, completes⟩ := simulate_eq_ok_iff.mp simulated
  have silent : ∀ tick < steps, due node steps run tick = 0.0 := fun _ early => if_pos early
  refine ⟨time, steps, isDelay.payload_eq, isDelay.positive, fun tick result state ticked => ?_⟩
  obtain ⟨inputs, earlier, prepared, stepped⟩ := exists_step_of_ticks
    (compiled.IsPrepared handle steps (due node steps run)) completes
    (isDelay.isPrepared_of_create created silent)
    (fun tick inputs before after result ticked prepared stepped =>
      (isDelay.isPrepared_of_step wellFormed prepared stepped).2 (due_add node steps ticked)) ticked
  rw [(isDelay.isPrepared_of_step wellFormed prepared stepped).1]
  refine ⟨silent tick, fun late => ?_⟩
  have inside : tick - steps < run.length := by
    have := (List.getElem?_eq_some_iff.mp ticked).1
    omega
  obtain ⟨⟨past, pastState⟩, pastTicked⟩ : ∃ past, run[tick - steps]? = some past :=
    ⟨_, List.getElem?_eq_getElem inside⟩
  refine ⟨past, pastState, pastTicked, ?_⟩
  rw [← due_add node steps pastTicked, Nat.sub_add_cancel late]

/-- An integrator that is driven back by what it was two ticks earlier. -/
def echoDiagram : Diagram String where
  blocks := [⟨"x", "integrator", [("initial", .float 1.0)]⟩,
    ⟨"echo", "delay", [("delay", .float 0.02)]⟩, ⟨"back", "gain", [("gain", .int (-1))]⟩]
  connections := [⟨"x", "echo", 0, 0⟩, ⟨"echo", "back", 0, 0⟩, ⟨"back", "x", 0, 0⟩]
  vars := []
  runtime := .null
  dt := .null
  nextId := 1

open Host.Usual

theorem outputOf_delay_echoDiagram :
    let dt : Rat := Scalar.ofFloat 0.01
    ∃ (compiled : Compiled Rat) (after : List Notice) (node : Node Rat)
      (run : List (TickResult Rat × RunState Rat)),
      Completes (ofDiagram echoDiagram standardDt standardRuntime) [] compiled after ∧
      compiled.nodes[1]? = some node ∧ node.kind = .delay ∧
      compiled.simulate 50 (List.replicate 7 []) = .ok run ∧
      run.map (fun tick => tick.2.outputOf 1) = [0, 0, 1, 1, 1, 1 - dt, 1 - dt - dt] ∧
      ∃ time steps, node.payload = .delay time steps ∧ 1 ≤ steps ∧
        ∀ (tick : Nat) (result : TickResult Rat) (state : RunState Rat),
          run[tick]? = some (result, state) →
            (tick < steps → state.outputOf 1 = 0.0) ∧
            (steps ≤ tick → ∃ past pastState, run[tick - steps]? = some (past, pastState) ∧
              state.outputOf 1 = node.relayed pastState) := by
  intro dt
  have runs : (outcome (ofDiagram echoDiagram (standardDt : Setting Rat) standardRuntime)
      []).1.toOption.any (fun compiled =>
        (compiled.nodes[1]?.any (·.kind == .delay)) &&
        (compiled.simulate 50 (List.replicate 7 [])).toOption.any fun run =>
          run.map (fun tick => tick.2.outputOf 1) == [0, 0, 1, 1, 1, 1 - dt, 1 - dt - dt]) =
      true := by
    decide +kernel
  obtain ⟨compiled, after, compiles, runs⟩ := exists_completes_of_any runs
  rw [Bool.and_eq_true] at runs
  obtain ⟨isDelay, runs⟩ := runs
  obtain ⟨node, found, kind⟩ := (Option.any_eq_true _ _).mp isDelay
  obtain ⟨run, simulated, outputs⟩ := exists_of_toOption_any runs
  exact ⟨compiled, after, node, run, compiles, found, beq_iff_eq.mp kind, simulated,
    beq_iff_eq.mp outputs, outputOf_delay compiles found (beq_iff_eq.mp kind) simulated⟩

end Compiled

end SignalFlow
