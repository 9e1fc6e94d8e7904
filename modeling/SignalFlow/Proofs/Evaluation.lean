import SignalFlow.Proofs.Dependency
import SignalFlow.Proofs.RunState

/-! # Evaluating blocks once

The sources and memories, and later the sinks, are evaluated once in a tick, one after the other.
Where none of them reads the output of another one, the state after that is known block by block
(`Compiled.Evaluated`): each block listed gives its output for the inputs it had in the beginning,
and any other block is left alone.
-/

namespace SignalFlow

variable {α : Type} [Scalar α]

/-- The inputs of a block depend on the outputs of its drivers only. -/
theorem Node.inputs_congr {node : Node α} {first second : Array α}
    (same : ∀ driver ∈ node.driverHandles, first.getD driver 0.0 = second.getD driver 0.0) :
    node.inputs first = node.inputs second := by
  apply List.map_congr_left
  intro port _
  cases found : node.driver? port with
  | none => rfl
  | some driver =>
      have drives := Compiled.mem_driverHandles_of_driver? found
      simp only [same driver drives]

namespace RunState

omit [Scalar α] in
/-- Arrays of the same size are equal if they read the same everywhere. -/
theorem eq_of_getD {first second : Array α} {default : α} (size : first.size = second.size)
    (reads : ∀ place, first.getD place default = second.getD place default) : first = second := by
  apply Array.ext size
  intro place inside otherInside
  simpa [Array.getD_eq_getD_getElem?, inside, otherInside] using reads place

/-- States that fit a diagram are equal if they read the same everywhere. -/
theorem Fits.eq_of_reads {compiled : Compiled α} {first second : RunState α}
    (firstFits : first.Fits compiled) (secondFits : second.Fits compiled)
    (outputs : ∀ handle, first.outputOf handle = second.outputOf handle)
    (settled : ∀ handle, first.isSettled handle = second.isSettled handle)
    (memories : ∀ handle, first.memory handle = second.memory handle)
    (time : first.time = second.time) (tick : first.tick = second.tick) : first = second := by
  apply eq_of_fields
  · exact eq_of_getD (firstFits.outputs.trans secondFits.outputs.symm) outputs
  · exact eq_of_getD (firstFits.settled.trans secondFits.settled.symm) settled
  · exact eq_of_getD (firstFits.memories.trans secondFits.memories.symm) memories
  · exact time
  · exact tick

/-- What evaluating a block leaves: its next persistent state and its output. -/
def record (state : RunState α) (handle : Nat) (next : Memory α) (value : α) : RunState α :=
  (state.remember handle next).settle handle value

section Record

variable {state : RunState α} {compiled : Compiled α} {handle other : Nat} (next : Memory α)
  (value : α)

omit [Scalar α] in
theorem Fits.record (fits : state.Fits compiled) :
    (state.record handle next value).Fits compiled :=
  (fits.remember handle next).settle handle value

theorem Fits.reads_record_self (fits : state.Fits compiled)
    (inside : handle < compiled.nodes.size) :
    (state.record handle next value).outputOf handle = value ∧
      (state.record handle next value).isSettled handle = true ∧
        (state.record handle next value).memory handle = next := by
  have remembered := fits.remember handle next
  refine ⟨outputOf_settle_self _ ?_, isSettled_settle_self _ ?_, ?_⟩
  · exact remembered.outputs ▸ inside
  · exact remembered.settled ▸ inside
  · rw [RunState.record, memory_settle]
    exact memory_remember_self next (fits.memories ▸ inside)

theorem reads_record_of_ne (state : RunState α) (next : Memory α) (value : α)
    (different : other ≠ handle) :
    (state.record handle next value).outputOf other = state.outputOf other ∧
      (state.record handle next value).isSettled other = state.isSettled other ∧
        (state.record handle next value).memory other = state.memory other := by
  rw [record, outputOf_settle_of_ne _ different, isSettled_settle_of_ne _ different, memory_settle,
    memory_remember_of_ne _ different]
  exact ⟨rfl, rfl, rfl⟩

end Record

end RunState

namespace Compiled

variable (compiled : Compiled α)

/-- For some inputs a block gives an output and a next persistent state. -/
def Yields (node : Node α) (time : α) (inputs : Inputs α) (memory : Memory α) (value : α)
    (next : Memory α) : Prop :=
  ∃ dt, compiled.stepFor node.payload.outputUsesStep = .ok dt ∧
    node.payload.output time dt inputs memory = .ok (value, next)

/-- Evaluates each block of a list and settles it. -/
def evaluateEach (handles : List Nat) (inputs : Node α → RunState α → Inputs α) : Tick α Unit :=
  compiled.forNodes handles fun node => do
    let state ← get
    let value ← compiled.evaluate node (inputs node state)
    modify (·.settle node.handle value)

/-- The blocks of a list are evaluated for some inputs; any other block is left alone. -/
structure Evaluated (handles : List Nat) (inputs : Node α → Inputs α)
    (before after : RunState α) : Prop where
  fits : after.Fits compiled
  time_eq : after.time = before.time
  tick_eq : after.tick = before.tick
  yields {handle : Nat} {node : Node α} : handle ∈ handles → compiled.nodes[handle]? = some node →
    compiled.Yields node before.time (inputs node) (before.memory handle) (after.outputOf handle)
      (after.memory handle)
  isSettled {handle : Nat} : handle ∈ handles → after.isSettled handle = true
  kept {handle : Nat} : handle ∉ handles → after.outputOf handle = before.outputOf handle ∧
    after.isSettled handle = before.isSettled handle ∧ after.memory handle = before.memory handle

variable {compiled}

theorem completes_evaluate_iff {node : Node α} {inputs : Inputs α} {before after : RunState α}
    {value : α} :
    Completes (compiled.evaluate node inputs) before value after ↔
      ∃ next, compiled.Yields node before.time inputs (before.memory node.handle) value next ∧
        after = before.remember node.handle next := by
  unfold evaluate Yields
  simp only [completes_bind, completes_get, completes_liftExcept, completes_modify, completes_pure]
  constructor
  · rintro ⟨_, _, ⟨rfl, rfl⟩, dt, _, ⟨found, rfl⟩, ⟨_, next⟩, _, ⟨output, rfl⟩, _, _, rfl, rfl, rfl⟩
    exact ⟨next, ⟨dt, found, output⟩, rfl⟩
  · rintro ⟨next, ⟨dt, found, output⟩, rfl⟩
    exact ⟨before, before, ⟨rfl, rfl⟩, dt, before, ⟨found, rfl⟩, (value, next), before,
      ⟨output, rfl⟩, (), _, rfl, rfl, rfl⟩

/-- What evaluating and settling a block does to the state. -/
theorem completes_evaluate_settle_iff {node : Node α} {inputs : RunState α → Inputs α}
    {before after : RunState α} :
    Completes (do
      let state ← get
      let value ← compiled.evaluate node (inputs state)
      modify (·.settle node.handle value)) before () after ↔
    ∃ value next,
      compiled.Yields node before.time (inputs before) (before.memory node.handle) value next ∧
        after = before.record node.handle next value := by
  simp only [completes_bind, completes_get, completes_evaluate_iff, completes_modify]
  constructor
  · rintro ⟨_, _, ⟨rfl, rfl⟩, value, _, ⟨next, yields, rfl⟩, rfl⟩
    exact ⟨value, next, yields, rfl⟩
  · rintro ⟨value, next, yields, rfl⟩
    exact ⟨before, before, ⟨rfl, rfl⟩, value, _, ⟨next, yields, rfl⟩, rfl⟩

omit [Scalar α] in
/-- A part of a tick is run for the block at the first handle of a list, then for the others. -/
theorem completes_forNodes_cons {handle : Nat} {rest : List Nat} {node : Node α}
    {visit : Node α → Tick α Unit} {before after : RunState α}
    (found : compiled.nodes[handle]? = some node) :
    Completes (compiled.forNodes (handle :: rest) visit) before () after ↔
      ∃ between, Completes (visit node) before () between ∧
        Completes (compiled.forNodes rest visit) between () after := by
  have head : compiled.forNodes (handle :: rest) visit = (do
      visit node
      compiled.forNodes rest visit) := by
    simp only [forNodes, List.forM_eq_forM, List.forM_cons, found]
  rw [head, completes_bind]
  constructor
  · rintro ⟨_, between, first, later⟩
    exact ⟨between, first, later⟩
  · rintro ⟨between, first, later⟩
    exact ⟨(), between, first, later⟩

section EvaluateEach

variable {handles : List Nat}

section Cons

variable {handle : Nat} {node : Node α} {inputs inputsAfter : Node α → Inputs α}
  {before after : RunState α} (fits : before.Fits compiled)
  (found : compiled.nodes[handle]? = some node) (absent : handle ∉ handles)
  (same : ∀ other ∈ handles, ∀ otherNode, compiled.nodes[other]? = some otherNode →
    inputsAfter otherNode = inputs otherNode)
include fits found absent same

/-- Evaluating the first block of a list and then the others evaluates all of them. -/
theorem Evaluated.cons {value : α} {next : Memory α}
    (yields : compiled.Yields node before.time (inputs node) (before.memory handle) value next)
    (evaluated : compiled.Evaluated handles inputsAfter (before.record handle next value) after) :
    compiled.Evaluated (handle :: handles) inputs before after := by
  have inside : handle < compiled.nodes.size := (Array.getElem?_eq_some_iff.mp found).1
  obtain ⟨output, mark, memory⟩ := fits.reads_record_self next value inside
  -- The first block is not evaluated again, so what it has left stays.
  obtain ⟨outputKept, markKept, memoryKept⟩ := evaluated.kept absent
  refine ⟨evaluated.fits, evaluated.time_eq, evaluated.tick_eq, ?_, ?_, ?_⟩
  · intro other otherNode member otherFound
    rcases List.mem_cons.mp member with rfl | later
    · obtain rfl : node = otherNode := Option.some.inj (found.symm.trans otherFound)
      rw [outputKept, memoryKept, output, memory]
      exact yields
    · have different : other ≠ handle := fun isFirst => absent (isFirst ▸ later)
      rw [← same other later otherNode otherFound,
        ← (before.reads_record_of_ne next value different).2.2]
      exact evaluated.yields later otherFound
  · intro other member
    rcases List.mem_cons.mp member with rfl | later
    · exact markKept.trans mark
    · exact evaluated.isSettled later
  · intro other notMember
    rw [List.mem_cons, not_or] at notMember
    obtain ⟨different, notLater⟩ := notMember
    obtain ⟨outputs, settled, memories⟩ := evaluated.kept notLater
    rw [outputs, settled, memories]
    exact before.reads_record_of_ne next value different

/-- Where all blocks of a list are evaluated the others are, after the first one. -/
theorem Evaluated.tail (evaluated : compiled.Evaluated (handle :: handles) inputs before after) :
    compiled.Evaluated handles inputsAfter
      (before.record handle (after.memory handle) (after.outputOf handle)) after := by
  have inside : handle < compiled.nodes.size := (Array.getElem?_eq_some_iff.mp found).1
  refine ⟨evaluated.fits, evaluated.time_eq, evaluated.tick_eq, ?_, ?_, ?_⟩
  · intro other otherNode member otherFound
    have different : other ≠ handle := fun isFirst => absent (isFirst ▸ member)
    rw [same other member otherNode otherFound, (before.reads_record_of_ne _ _ different).2.2]
    exact evaluated.yields (List.mem_cons_of_mem _ member) otherFound
  · intro other member
    exact evaluated.isSettled (List.mem_cons_of_mem _ member)
  · intro other notMember
    by_cases isFirst : other = handle
    · subst isFirst
      obtain ⟨output, mark, memory⟩ := fits.reads_record_self _ _ inside
      rw [output, mark, memory]
      exact ⟨rfl, evaluated.isSettled List.mem_cons_self, rfl⟩
    · obtain ⟨output, mark, memory⟩ := before.reads_record_of_ne (after.memory handle)
        (after.outputOf handle) isFirst
      rw [output, mark, memory]
      exact evaluated.kept (List.not_mem_cons_of_ne_of_not_mem isFirst notMember)

end Cons

theorem completes_evaluateEach_cons (wellFormed : compiled.WellFormed) {handle : Nat} {node : Node α}
    {inputs : Node α → RunState α → Inputs α} {before after : RunState α}
    (found : compiled.nodes[handle]? = some node) :
    Completes (compiled.evaluateEach (handle :: handles) inputs) before () after ↔
      ∃ value next,
        compiled.Yields node before.time (inputs node before) (before.memory handle) value next ∧
        Completes (compiled.evaluateEach handles inputs)
          (before.record handle next value) () after := by
  obtain rfl : node.handle = handle := wellFormed.handle_eq found
  rw [evaluateEach, completes_forNodes_cons found]
  simp only [completes_evaluate_settle_iff]
  constructor
  · rintro ⟨_, ⟨value, next, yields, rfl⟩, later⟩
    exact ⟨value, next, yields, later⟩
  · rintro ⟨value, next, yields, later⟩
    exact ⟨_, ⟨value, next, yields, rfl⟩, later⟩

theorem evaluateEach_append (first second : List Nat) (inputs : Node α → RunState α → Inputs α) :
    compiled.evaluateEach (first ++ second) inputs = (do
      compiled.evaluateEach first inputs
      compiled.evaluateEach second inputs) := by
  simp only [evaluateEach, forNodes, List.forM_eq_forM, List.forM_append]

theorem completes_evaluateEach_append {first second : List Nat}
    {inputs : Node α → RunState α → Inputs α} {before after : RunState α} :
    Completes (compiled.evaluateEach (first ++ second) inputs) before () after ↔
      ∃ between, Completes (compiled.evaluateEach first inputs) before () between ∧
        Completes (compiled.evaluateEach second inputs) between () after := by
  rw [evaluateEach_append, completes_bind]
  constructor
  · rintro ⟨_, between, earlier, later⟩
    exact ⟨between, earlier, later⟩
  · rintro ⟨between, earlier, later⟩
    exact ⟨(), between, earlier, later⟩

/-- Whatever blocks read, those that are not evaluated are left alone. -/
theorem kept_of_completes_evaluateEach (wellFormed : compiled.WellFormed)
    (inside : ∀ handle ∈ handles, handle < compiled.nodes.size)
    {inputs : Node α → RunState α → Inputs α} {before after : RunState α}
    (fits : before.Fits compiled)
    (completes : Completes (compiled.evaluateEach handles inputs) before () after) :
    after.Fits compiled ∧ after.time = before.time ∧ ∀ handle, handle ∉ handles →
      after.outputOf handle = before.outputOf handle ∧
        after.memory handle = before.memory handle := by
  induction handles generalizing before with
  | nil =>
      obtain ⟨-, rfl⟩ := completes_pure.mp completes
      exact ⟨fits, rfl, fun _ _ => ⟨rfl, rfl⟩⟩
  | cons first rest ih =>
      have found := Array.getElem?_eq_getElem (inside first List.mem_cons_self)
      obtain ⟨value, next, -, later⟩ :=
        (completes_evaluateEach_cons wellFormed found).mp completes
      obtain ⟨afterFits, time_eq, kept⟩ := ih
        (fun handle member => inside handle (List.mem_cons_of_mem _ member))
        (fits.record next value) later
      refine ⟨afterFits, time_eq, fun handle notListed => ?_⟩
      rw [List.mem_cons, not_or] at notListed
      obtain ⟨output, -, memory⟩ := before.reads_record_of_ne next value notListed.1
      rw [(kept handle notListed.2).1, (kept handle notListed.2).2]
      exact ⟨output, memory⟩

/-- Blocks that do not read each other, evaluated one after the other, are all evaluated for the
inputs they have in the beginning. -/
theorem completes_evaluateEach_iff (wellFormed : compiled.WellFormed) (nodup : handles.Nodup)
    (inside : ∀ handle ∈ handles, handle < compiled.nodes.size)
    {inputs : Node α → RunState α → Inputs α} {before after : RunState α}
    (stable : ∀ handle ∈ handles, ∀ other ∈ handles, ∀ node, compiled.nodes[other]? = some node →
      ∀ (state : RunState α) (value : α) (next : Memory α),
        inputs node (state.record handle next value) = inputs node state)
    (fits : before.Fits compiled) :
    Completes (compiled.evaluateEach handles inputs) before () after ↔
      compiled.Evaluated handles (inputs · before) before after := by
  induction handles generalizing before with
  | nil =>
      constructor
      · intro completes
        obtain ⟨-, rfl⟩ := completes_pure.mp completes
        exact ⟨fits, rfl, rfl, by simp, by simp, fun _ => ⟨rfl, rfl, rfl⟩⟩
      · intro evaluated
        have kept (handle : Nat) := evaluated.kept (List.not_mem_nil : handle ∉ [])
        have same : after = before := evaluated.fits.eq_of_reads fits (fun handle => (kept handle).1)
          (fun handle => (kept handle).2.1) (fun handle => (kept handle).2.2) evaluated.time_eq
          evaluated.tick_eq
        exact completes_pure.mpr ⟨rfl, same⟩
  | cons handle rest ih =>
      obtain ⟨absent, nodup⟩ := List.nodup_cons.mp nodup
      obtain ⟨node, found⟩ : ∃ node, compiled.nodes[handle]? = some node :=
        ⟨_, Array.getElem?_eq_getElem (inside handle List.mem_cons_self)⟩
      have recordFits (value : α) (next : Memory α) :
          (before.record handle next value).Fits compiled := fits.record next value
      have later (value : α) (next : Memory α) := ih nodup
        (fun other member => inside other (List.mem_cons_of_mem _ member))
        (fun other member third thirdMember => stable other (List.mem_cons_of_mem _ member) third
          (List.mem_cons_of_mem _ thirdMember))
        (recordFits value next)
      have same (value : α) (next : Memory α) : ∀ other ∈ rest, ∀ otherNode,
          compiled.nodes[other]? = some otherNode →
            inputs otherNode (before.record handle next value) = inputs otherNode before := by
        intro other member otherNode otherFound
        exact stable handle List.mem_cons_self other (List.mem_cons_of_mem _ member) otherNode
          otherFound before value next
      rw [completes_evaluateEach_cons wellFormed found]
      constructor
      · rintro ⟨value, next, yields, completes⟩
        exact Evaluated.cons fits found absent (same value next) yields
          ((later value next).mp completes)
      · intro evaluated
        exact ⟨_, _, evaluated.yields List.mem_cons_self found,
          (later _ _).mpr (evaluated.tail fits found absent (same _ _))⟩

end EvaluateEach

/-! ## Sources, memories and sinks -/

section Phases

theorem outputPhase_eq (given : List (String × α)) : compiled.outputPhase given =
    compiled.evaluateEach compiled.outputOrder fun node _ => externalInput given node := rfl

theorem sinkPhase_eq : compiled.sinkPhase =
    compiled.evaluateEach compiled.sinkOrder fun node state => node.inputs state.outputs := rfl

variable (wellFormed : compiled.WellFormed)
include wellFormed

/-- The output phase evaluates each source and memory for what it reads from outside. -/
theorem completes_outputPhase_iff {given : List (String × α)} {before after : RunState α}
    (fits : before.Fits compiled) :
    Completes (compiled.outputPhase given) before () after ↔
      compiled.Evaluated compiled.outputOrder (externalInput given) before after := by
  rw [outputPhase_eq]
  refine completes_evaluateEach_iff wellFormed wellFormed.outputOrder_nodup ?_ ?_ fits
  · intro handle member
    exact wellFormed.lt_of_mem_outputOrder member
  · intros
    rfl

/-- The sink phase evaluates each sink for the outputs of its drivers, if none of these is a sink. -/
theorem completes_sinkPhase_iff {before after : RunState α} (fits : before.Fits compiled)
    (apart : ∀ handle ∈ compiled.sinkOrder, ∀ driver ∈ driversOf compiled.nodes handle,
      driver ∉ compiled.sinkOrder) :
    Completes compiled.sinkPhase before () after ↔
      compiled.Evaluated compiled.sinkOrder (·.inputs before.outputs) before after := by
  rw [sinkPhase_eq]
  refine completes_evaluateEach_iff wellFormed wellFormed.sinkOrder_nodup ?_ ?_ fits
  · intro handle member
    exact wellFormed.lt_of_mem_sinkOrder member
  · intro handle member other otherMember node found state value next
    apply Node.inputs_congr
    intro driver drives
    have different : driver ≠ handle := by
      rintro rfl
      exact apart other otherMember driver (driversOf_of_getElem? found ▸ drives) member
    exact (state.reads_record_of_ne next value different).1

end Phases

/-! ## Updates -/

/-- Updates each block of a list. -/
def updateEach (compiled : Compiled α) (nodes : List (Node α)) : Tick α Unit :=
  nodes.forM fun node => do
    let state ← get
    let dt ← liftExcept (compiled.stepFor node.payload.updateUsesStep)
    modify (·.remember node.handle
      (node.payload.update state.time dt (node.inputs state.outputs) (state.memory node.handle)))

/-- For some inputs a block updates its persistent state to a next one. -/
def Updates (compiled : Compiled α) (node : Node α) (time : α) (inputs : Inputs α)
    (memory next : Memory α) : Prop :=
  ∃ dt, compiled.stepFor node.payload.updateUsesStep = .ok dt ∧
    next = node.payload.update time dt inputs memory

/-- The blocks of a list are updated; any other block keeps its persistent state. -/
structure Updated (compiled : Compiled α) (nodes : List (Node α)) (before after : RunState α) :
    Prop where
  size_eq : after.memories.size = before.memories.size
  eq : after = { before with memories := after.memories }
  updates {node : Node α} : node ∈ nodes →
    compiled.Updates node before.time (node.inputs before.outputs) (before.memory node.handle)
      (after.memory node.handle)
  kept {handle : Nat} : handle ∉ nodes.map (·.handle) → after.memory handle = before.memory handle

theorem completes_updateEach_cons {node : Node α} {rest : List (Node α)}
    {before after : RunState α} :
    Completes (compiled.updateEach (node :: rest)) before () after ↔
      ∃ next, compiled.Updates node before.time (node.inputs before.outputs)
          (before.memory node.handle) next ∧
        Completes (compiled.updateEach rest) (before.remember node.handle next) () after := by
  have head : compiled.updateEach (node :: rest) = (do
      (do let state ← get
          let dt ← liftExcept (compiled.stepFor node.payload.updateUsesStep)
          modify (·.remember node.handle (node.payload.update state.time dt
            (node.inputs state.outputs) (state.memory node.handle))))
      compiled.updateEach rest) := rfl
  rw [head, completes_bind]
  simp only [completes_bind, completes_get, completes_liftExcept, completes_modify]
  constructor
  · rintro ⟨_, _, ⟨_, _, ⟨rfl, rfl⟩, dt, _, ⟨found, rfl⟩, rfl⟩, later⟩
    exact ⟨_, ⟨dt, found, rfl⟩, later⟩
  · rintro ⟨_, ⟨dt, found, rfl⟩, later⟩
    exact ⟨(), _, ⟨before, before, ⟨rfl, rfl⟩, dt, before, ⟨found, rfl⟩, rfl⟩, later⟩

section Cons

variable {node : Node α} {rest : List (Node α)} {before after : RunState α}
  (inside : node.handle < before.memories.size) (absent : node.handle ∉ rest.map (·.handle))
include inside absent

omit [Scalar α] inside in
theorem handle_ne_of_mem {other : Node α} (member : other ∈ rest) : other.handle ≠ node.handle := by
  intro same
  exact absent (same ▸ List.mem_map_of_mem member)

/-- Updating the first block of a list and then the others updates all of them. -/
theorem Updated.cons {next : Memory α}
    (updates : compiled.Updates node before.time (node.inputs before.outputs)
      (before.memory node.handle) next)
    (updated : compiled.Updated rest (before.remember node.handle next) after) :
    compiled.Updated (node :: rest) before after := by
  refine ⟨updated.size_eq.trans (by simp [RunState.remember]), updated.eq, ?_, ?_⟩
  · intro other member
    rcases List.mem_cons.mp member with rfl | inRest
    · rw [updated.kept absent, RunState.memory_remember_self next inside]
      exact updates
    · rw [← RunState.memory_remember_of_ne next (handle_ne_of_mem absent inRest)]
      exact updated.updates inRest
  · intro handle notListed
    rw [List.map_cons, List.mem_cons, not_or] at notListed
    rw [updated.kept notListed.2, RunState.memory_remember_of_ne next notListed.1]

/-- Where all blocks of a list are updated the others are, after the first one. -/
theorem Updated.tail (updated : compiled.Updated (node :: rest) before after) :
    compiled.Updated rest (before.remember node.handle (after.memory node.handle)) after := by
  refine ⟨updated.size_eq.trans (by simp [RunState.remember]), updated.eq, ?_, ?_⟩
  · intro other member
    rw [RunState.memory_remember_of_ne _ (handle_ne_of_mem absent member)]
    exact updated.updates (List.mem_cons_of_mem _ member)
  · intro handle notListed
    by_cases same : handle = node.handle
    · rw [same, RunState.memory_remember_self _ inside]
    · rw [RunState.memory_remember_of_ne _ same]
      apply updated.kept
      rw [List.map_cons]
      exact List.not_mem_cons_of_ne_of_not_mem same notListed

end Cons

/-- Blocks updated one after the other are all updated from the state in the beginning. -/
theorem completes_updateEach_iff {nodes : List (Node α)} {before after : RunState α}
    (nodup : (nodes.map (·.handle)).Nodup)
    (inside : ∀ node ∈ nodes, node.handle < before.memories.size) :
    Completes (compiled.updateEach nodes) before () after ↔
      compiled.Updated nodes before after := by
  induction nodes generalizing before with
  | nil =>
      constructor
      · intro completes
        obtain ⟨-, rfl⟩ := completes_pure.mp completes
        exact ⟨rfl, rfl, by simp, fun _ => rfl⟩
      · intro updated
        have memories : after.memories = before.memories :=
          RunState.eq_of_getD updated.size_eq fun handle => updated.kept List.not_mem_nil
        refine completes_pure.mpr ⟨rfl, ?_⟩
        rw [updated.eq, memories]
  | cons node rest ih =>
      rw [List.map_cons, List.nodup_cons] at nodup
      obtain ⟨absent, nodup⟩ := nodup
      have first := inside node List.mem_cons_self
      have later (next : Memory α) :
          Completes (compiled.updateEach rest) (before.remember node.handle next) () after ↔
            compiled.Updated rest (before.remember node.handle next) after := by
        refine ih nodup fun other member => ?_
        simpa [RunState.remember] using inside other (List.mem_cons_of_mem _ member)
      rw [completes_updateEach_cons]
      constructor
      · rintro ⟨next, updates, completes⟩
        exact Updated.cons first absent updates ((later next).mp completes)
      · intro updated
        exact ⟨_, updated.updates List.mem_cons_self, (later _).mpr (updated.tail first absent)⟩

/-- The update phase updates each block from the outputs of the tick. -/
theorem completes_updatePhase_iff (wellFormed : compiled.WellFormed) {before after : RunState α}
    (fits : before.Fits compiled) :
    Completes compiled.updatePhase before () after ↔
      compiled.Updated compiled.nodes.toList before after := by
  refine completes_updateEach_iff ?_ fun node member => ?_
  · rw [map_handle_eq_range wellFormed.handle_eq_of_toList]
    exact List.nodup_range
  · obtain ⟨handle, found⟩ := List.getElem?_of_mem member
    rw [wellFormed.handle_eq_of_toList found, fits.memories]
    simpa using (List.getElem?_eq_some_iff.mp found).1

/-! ## A tick -/

/-- A tick completes if its phases do, one after the other. -/
theorem completes_step_iff {limit : Nat} {given : List (String × α)}
    {start after : RunState α} {result : TickResult α} :
    Completes (compiled.step limit given) start result after ↔
      ∃ opened resolution settled sunk updated dt,
        Completes (compiled.outputPhase given) start.clear () opened ∧
        Completes (compiled.resolve limit) opened resolution settled ∧
        Completes compiled.sinkPhase settled () sunk ∧
        Completes compiled.updatePhase sunk () updated ∧
        compiled.dt.number = .ok dt ∧ result = compiled.results sunk resolution ∧
        after = { updated with time := updated.time + dt, tick := updated.tick + 1 } := by
  simp only [step, settlePhase, finishPhase, completes_bind, completes_get, completes_modify,
    completes_liftExcept, completes_pure]
  constructor
  · rintro ⟨resolution, settled, ⟨_, _, rfl, _, opened, opens, resolves⟩, _, sunk, sinks, _, _,
      ⟨rfl, rfl⟩, _, updated, updates, dt, _, ⟨number, rfl⟩, _, _, rfl, rfl, rfl⟩
    exact ⟨opened, resolution, settled, _, _, dt, opens, resolves, sinks, updates, number, rfl, rfl⟩
  · rintro ⟨opened, resolution, settled, sunk, updated, dt, opens, resolves, sinks, updates, number,
      rfl, rfl⟩
    exact ⟨resolution, settled, ⟨(), _, rfl, (), opened, opens, resolves⟩, (), sunk, sinks, sunk,
      sunk, ⟨rfl, rfl⟩, (), updated, updates, dt, updated, ⟨number, rfl⟩, (), _, rfl, rfl, rfl⟩

/-- A tick publishes the output of the block that an output is bound to. -/
theorem get?_outputs_results (state : RunState α) (resolution : Resolution) (name : String) :
    Entries.get? (compiled.results state resolution).outputs name =
      (Entries.get? compiled.outputHandles name).map state.outputOf := by
  simp only [results, Entries.get?, List.find?_map, Option.map_map]
  rfl

end Compiled

end SignalFlow
