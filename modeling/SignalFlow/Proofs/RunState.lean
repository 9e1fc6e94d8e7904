import SignalFlow.Engine.Step
import SignalFlow.Proofs.Completion

/-! # States of a run

Reading a state after it has been changed at one handle, and the states that a run can be in
(`Compiled.Reachable`): the one before the first tick, and from any of them the one that a tick
leaves, whether it completes or breaks off. What nothing in a tick destroys
(`Compiled.IsInvariant`) holds of all of them, for one that they have an entry for each block
(`RunState.Fits`).
-/

namespace SignalFlow

variable {α : Type}

namespace RunState

/-- A state has an output, a mark and a persistent state for each block of a diagram. -/
structure Fits (state : RunState α) (compiled : Compiled α) : Prop where
  outputs : state.outputs.size = compiled.nodes.size
  settled : state.settled.size = compiled.nodes.size
  memories : state.memories.size = compiled.nodes.size

/-- Two states with the same entries are equal. -/
theorem eq_of_fields {first second : RunState α} (outputs : first.outputs = second.outputs)
    (settled : first.settled = second.settled) (memories : first.memories = second.memories)
    (time : first.time = second.time) (tick : first.tick = second.tick) : first = second := by
  cases first
  cases second
  cases outputs
  cases settled
  cases memories
  cases time
  cases tick
  rfl

/-! ## Reading a changed state -/

section Marks

variable {state : RunState α} {handle other : Nat} (value : α) (memory : Memory α)

@[simp] theorem memory_settle : (state.settle handle value).memory other = state.memory other := rfl

@[simp] theorem isSettled_remember :
    (state.remember handle memory).isSettled other = state.isSettled other := rfl

theorem isSettled_settle_self (inside : handle < state.settled.size) :
    (state.settle handle value).isSettled handle = true := by
  simp [isSettled, settle, Array.getD_eq_getD_getElem?, inside]

theorem isSettled_settle_of_ne (different : other ≠ handle) :
    (state.settle handle value).isSettled other = state.isSettled other := by
  simp [isSettled, settle, Array.getD_eq_getD_getElem?,
    Array.getElem?_setIfInBounds_ne different.symm]

theorem memory_remember_self (inside : handle < state.memories.size) :
    (state.remember handle memory).memory handle = memory := by
  simp [RunState.memory, remember, Array.getD_eq_getD_getElem?, inside]

theorem memory_remember_of_ne (different : other ≠ handle) :
    (state.remember handle memory).memory other = state.memory other := by
  simp [RunState.memory, remember, Array.getD_eq_getD_getElem?,
    Array.getElem?_setIfInBounds_ne different.symm]

/-- Remembering what a block already keeps changes nothing. -/
@[simp] theorem remember_memory : state.remember handle (state.memory handle) = state := by
  refine eq_of_fields rfl rfl ?_ rfl rfl
  apply Array.ext_getElem?
  intro place
  by_cases same : handle = place
  · subst same
    by_cases inside : handle < state.memories.size
    · simp [remember, RunState.memory, inside]
    · simp [remember, inside]
  · simp [remember, Array.getElem?_setIfInBounds_ne same]

/-- A mark beyond the blocks is never set. -/
theorem isSettled_of_size_le (outside : state.settled.size ≤ handle) :
    state.isSettled handle = false := by
  simp [isSettled, Array.getD_eq_getD_getElem?, outside]

end Marks

section Outputs

variable [Scalar α] {state : RunState α} {handle other : Nat} (value : α) (memory : Memory α)

@[simp] theorem outputOf_clear : state.clear.outputOf handle = 0.0 := by
  simp only [outputOf, clear, Array.getD_eq_getD_getElem?, Array.getElem?_map]
  cases state.outputs[handle]? <;> rfl

@[simp] theorem isSettled_clear : state.clear.isSettled handle = false := by
  simp only [isSettled, clear, Array.getD_eq_getD_getElem?, Array.getElem?_map]
  cases state.settled[handle]? <;> rfl

@[simp] theorem memory_clear : state.clear.memory handle = state.memory handle := rfl

@[simp] theorem outputOf_remember :
    (state.remember handle memory).outputOf other = state.outputOf other := rfl

theorem outputOf_settle_self (inside : handle < state.outputs.size) :
    (state.settle handle value).outputOf handle = value := by
  simp [outputOf, settle, Array.getD_eq_getD_getElem?, inside]

theorem outputOf_settle_of_ne (different : other ≠ handle) :
    (state.settle handle value).outputOf other = state.outputOf other := by
  simp [outputOf, settle, Array.getD_eq_getD_getElem?,
    Array.getElem?_setIfInBounds_ne different.symm]

end Outputs

/-! ## States that fit a diagram -/

namespace Fits

variable {state : RunState α} {compiled : Compiled α}

theorem settle (fits : state.Fits compiled) (handle : Nat) (value : α) :
    (state.settle handle value).Fits compiled := by
  refine ⟨?_, ?_, fits.memories⟩
  · simpa [RunState.settle] using fits.outputs
  · simpa [RunState.settle] using fits.settled

theorem remember (fits : state.Fits compiled) (handle : Nat) (memory : Memory α) :
    (state.remember handle memory).Fits compiled := by
  refine ⟨fits.outputs, fits.settled, ?_⟩
  simpa [RunState.remember] using fits.memories

theorem clear [Scalar α] (fits : state.Fits compiled) : state.clear.Fits compiled := by
  refine ⟨?_, ?_, fits.memories⟩
  · simpa [RunState.clear] using fits.outputs
  · simpa [RunState.clear] using fits.settled

end Fits

variable [Scalar α] {compiled : Compiled α}

/-- The state before the first tick: no outputs, and each block's persistent state as it starts. -/
theorem create_eq_ok_iff [Host] {state : RunState α} :
    create compiled = .ok state ↔
      List.Forall₂ (fun node memory => node.payload.start = .ok memory)
        compiled.nodes.toList state.memories.toList ∧
      state = ⟨.replicate compiled.nodes.size 0.0, .replicate compiled.nodes.size false,
        state.memories, 0.0, 0⟩ := by
  have started : compiled.nodes.mapM (·.payload.start) =
      List.toArray <$> compiled.nodes.toList.mapM (·.payload.start) := by
    rw [← List.mapM_toArray]
  rw [← mapM_eq_ok_iff]
  unfold create
  rw [started]
  cases compiled.nodes.toList.mapM (·.payload.start) with
  | error cause => simp [bind, Except.bind, Functor.map, Except.map]
  | ok memories =>
      simp only [Functor.map, Except.map, bind, Except.bind, pure, Except.pure, Except.ok.injEq]
      constructor
      · rintro rfl
        exact ⟨rfl, rfl⟩
      · rintro ⟨same, fields⟩
        rw [fields, same]

/-- The persistent states before the first tick, block by block. -/
theorem forall₂_start_iff [Host] {state : RunState α} :
    List.Forall₂ (fun node memory => node.payload.start = .ok memory) compiled.nodes.toList
        state.memories.toList ↔
      state.memories.size = compiled.nodes.size ∧ ∀ (handle : Nat) (node : Node α),
        compiled.nodes[handle]? = some node → node.payload.start = .ok (state.memory handle) := by
  rw [List.forall₂_iff_get]
  constructor
  · rintro ⟨size, started⟩
    simp only [Array.length_toList] at size
    refine ⟨size.symm, fun handle node found => ?_⟩
    obtain ⟨inside, rfl⟩ := Array.getElem?_eq_some_iff.mp found
    have otherInside : handle < state.memories.size := size ▸ inside
    simpa [RunState.memory, Array.getD_eq_getD_getElem?, otherInside] using
      started handle inside otherInside
  · rintro ⟨size, started⟩
    refine ⟨size.symm, fun handle inside otherInside => ?_⟩
    have inside : handle < compiled.nodes.size := inside
    have otherInside : handle < state.memories.size := otherInside
    simpa [RunState.memory, Array.getD_eq_getD_getElem?, otherInside] using
      started handle _ (Array.getElem?_eq_getElem inside)

/-- The state before the first tick fits. -/
theorem fits_of_create [Host] {state : RunState α} (created : create compiled = .ok state) :
    state.Fits compiled := by
  obtain ⟨started, fields⟩ := create_eq_ok_iff.mp created
  refine ⟨by rw [fields]; simp, by rw [fields]; simp, ?_⟩
  simpa using started.length_eq.symm

end RunState

/-! ## Reachable states -/

namespace Compiled

variable [Scalar α] (compiled : Compiled α)

/-- The states of a run: the one before the first tick, and the one after a tick from any of them
with any limit of passes and any inputs, whether the tick completes or breaks off. -/
inductive Reachable [Host] : RunState α → Prop where
  | start {state : RunState α} (created : RunState.create compiled = .ok state) : Reachable state
  | tick {state : RunState α} (reached : Reachable state) (limit : Nat)
      (given : List (String × α)) : Reachable (outcome (compiled.step limit given) state).2

/-- A property of states that nothing in a tick destroys: neither clearing nor settling outputs, nor
a block of the diagram whose persistent state its output or its update replaces, nor the clock. -/
structure IsInvariant (property : RunState α → Prop) : Prop where
  clear {state : RunState α} : property state → property state.clear
  settle {state : RunState α} (handle : Nat) (value : α) :
    property state → property (state.settle handle value)
  output {state : RunState α} {node : Node α} {time dt value : α} {inputs : Inputs α}
    {next : Memory α} : property state → node ∈ compiled.nodes →
      node.payload.output time dt inputs (state.memory node.handle) = .ok (value, next) →
        property (state.remember node.handle next)
  update {state : RunState α} {node : Node α} (time dt : α) (inputs : Inputs α) :
    property state → node ∈ compiled.nodes → property (state.remember node.handle
      (node.payload.update time dt inputs (state.memory node.handle)))
  advance {state : RunState α} (time : α) (tick : Nat) :
    property state → property { state with time, tick }

variable {compiled}

omit [Scalar α] in
theorem keeps_forNodes {property : RunState α → Prop} {handles : List Nat}
    {visit : Node α → Tick α Unit} (kept : ∀ node ∈ compiled.nodes, Keeps property (visit node)) :
    Keeps property (compiled.forNodes handles visit) := by
  refine keeps_forM fun handle _ => ?_
  cases found : compiled.nodes[handle]? with
  | none => exact keeps_pure ()
  | some node => exact kept node (Array.mem_of_getElem? found)

namespace IsInvariant

variable {property : RunState α → Prop} (invariant : compiled.IsInvariant property)
include invariant

theorem keeps_settle (handle : Nat) (value : α) :
    Keeps property (modify (·.settle handle value) : Tick α Unit) :=
  keeps_modify fun _ holds => invariant.settle handle value holds

theorem keeps_evaluate {node : Node α} (member : node ∈ compiled.nodes) (inputs : Inputs α) :
    Keeps property (compiled.evaluate node inputs) := by
  refine keeps_get_bind fun state holds => ?_
  rw [outcome_bind, outcome_liftExcept]
  cases compiled.stepFor node.payload.outputUsesStep with
  | error cause => exact holds
  | ok dt =>
      dsimp only
      rw [outcome_bind, outcome_liftExcept]
      cases output : node.payload.output state.time dt inputs (state.memory node.handle) with
      | error cause => exact holds
      | ok produced => exact invariant.output holds member output

theorem keeps_evaluateEach (handles : List Nat) (inputs : Node α → RunState α → Inputs α) :
    Keeps property (compiled.forNodes handles fun node => do
      let value ← compiled.evaluate node (inputs node (← get))
      modify (·.settle node.handle value)) :=
  keeps_forNodes fun _ member => keeps_bind keeps_get fun _ =>
    keeps_bind (invariant.keeps_evaluate member _) fun _ => invariant.keeps_settle _ _

theorem keeps_visit {node : Node α} (member : node ∈ compiled.nodes) :
    Keeps property (compiled.visit node) := by
  refine keeps_bind keeps_get fun state => ?_
  split
  · refine keeps_bind (invariant.keeps_evaluate member _) fun value => ?_
    split
    · exact keeps_bind (invariant.keeps_settle _ _) fun _ => keeps_pure _
    · exact keeps_pure _
  · exact keeps_pure _

theorem keeps_passOver (handles : List Nat) : Keeps property (compiled.passOver handles) := by
  induction handles with
  | nil => exact keeps_pure _
  | cons handle rest ih =>
      rw [passOver]
      split
      · next found =>
          exact keeps_bind (invariant.keeps_visit (Array.mem_of_getElem? found)) fun _ =>
            keeps_bind ih fun _ => keeps_pure _
      · exact keeps_bind (keeps_pure _) fun _ => keeps_bind ih fun _ => keeps_pure _

theorem keeps_settleFrom (room passes : Nat) :
    Keeps property (compiled.settleFrom passes room) := by
  induction room generalizing passes with
  | zero => exact keeps_pure _
  | succ room ih =>
      refine keeps_bind (invariant.keeps_passOver _) fun progress => ?_
      split
      · exact ih _
      · exact keeps_pure _

theorem keeps_resolve (limit : Nat) : Keeps property (compiled.resolve limit) := by
  refine keeps_bind ?_ fun _ => ?_
  · refine keeps_forNodes fun node _ => ?_
    split
    · exact invariant.keeps_settle _ _
    · exact keeps_pure ()
  · split
    · exact keeps_pure _
    · exact invariant.keeps_settleFrom _ _

theorem keeps_updatePhase : Keeps property compiled.updatePhase := by
  refine keeps_forM fun node member => keeps_get_bind fun state holds => ?_
  rw [outcome_bind, outcome_liftExcept]
  cases compiled.stepFor node.payload.updateUsesStep with
  | error cause => exact holds
  | ok dt => exact invariant.update _ _ _ holds (Array.mem_toList_iff.mp member)

/-- A tick keeps what nothing in it destroys, also where it breaks off. -/
theorem keeps_step (limit : Nat) (given : List (String × α)) :
    Keeps property (compiled.step limit given) := by
  refine keeps_bind ?_ fun resolution => ?_
  · refine keeps_bind (keeps_modify fun _ holds => invariant.clear holds) fun _ =>
      keeps_bind ?_ fun _ => invariant.keeps_resolve limit
    exact keeps_forNodes fun _ member =>
      keeps_bind (invariant.keeps_evaluate member _) fun _ => invariant.keeps_settle _ _
  · exact keeps_bind (invariant.keeps_evaluateEach _ _) fun _ => keeps_bind keeps_get fun _ =>
      keeps_bind invariant.keeps_updatePhase fun _ => keeps_bind (keeps_liftExcept _) fun _ =>
        keeps_bind (keeps_modify fun _ holds => invariant.advance _ _ holds) fun _ => keeps_pure _

/-- What holds before the first tick, and nothing in a tick destroys, holds throughout a run. -/
theorem holds_of_reachable [Host]
    (created : ∀ state, RunState.create compiled = .ok state → property state)
    {state : RunState α} (reachable : compiled.Reachable state) : property state := by
  induction reachable with
  | start start => exact created _ start
  | tick _ limit given ih => exact invariant.keeps_step limit given _ ih

end IsInvariant

theorem isInvariant_fits : compiled.IsInvariant (·.Fits compiled) where
  clear fits := fits.clear
  settle handle value fits := fits.settle handle value
  output fits _ _ := fits.remember _ _
  update _ _ _ fits _ := fits.remember _ _
  advance _ _ fits := ⟨fits.outputs, fits.settled, fits.memories⟩

/-- Every state of a run fits the diagram. -/
theorem Reachable.fits [Host] {state : RunState α} (reachable : compiled.Reachable state) :
    state.Fits compiled :=
  isInvariant_fits.holds_of_reachable (fun _ => RunState.fits_of_create) reachable

/-- A tick that completes goes from one state of a run to another one. -/
theorem Reachable.of_step [Host] {limit : Nat} {given : List (String × α)}
    {before after : RunState α}
    {result : TickResult α} (reachable : compiled.Reachable before)
    (completes : Completes (compiled.step limit given) before result after) :
    compiled.Reachable after := by
  have next := reachable.tick limit given
  rwa [completes] at next

end Compiled

end SignalFlow
