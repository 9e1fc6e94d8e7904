import SignalFlow.Proofs.LoadOrder.Rearrangement

/-! # Corresponding states

States of two rearranged diagrams correspond if they read the same at corresponding handles. What a
phase of a tick does to one of them, evaluating blocks or updating all of them, the phase of the
other diagram does to the other state, up to correspondence.
-/

namespace SignalFlow

variable {α : Type} [Scalar α]

/-- Two states read the same at corresponding handles. -/
structure RunState.Corresponds (place : Nat → Nat) (compiled : Compiled α)
    (first second : RunState α) : Prop where
  firstFits : first.Fits compiled
  secondFits : second.Fits compiled
  outputOf_eq {handle : Nat} :
    handle < compiled.nodes.size → second.outputOf (place handle) = first.outputOf handle
  isSettled_eq {handle : Nat} :
    handle < compiled.nodes.size → second.isSettled (place handle) = first.isSettled handle
  memory_eq {handle : Nat} :
    handle < compiled.nodes.size → second.memory (place handle) = first.memory handle
  time_eq : second.time = first.time
  tick_eq : second.tick = first.tick

namespace RunState

omit [Scalar α] in
/-- Whether a state fits is a matter of the number of blocks. -/
theorem Fits.of_size_eq {first second : Compiled α} {state : RunState α} (fits : state.Fits first)
    (size_eq : second.nodes.size = first.nodes.size) : state.Fits second :=
  ⟨fits.outputs.trans size_eq.symm, fits.settled.trans size_eq.symm,
    fits.memories.trans size_eq.symm⟩

/-- Beyond its blocks a state reads the same as any other. -/
theorem Fits.reads_eq_of_le {compiled : Compiled α} {first second : RunState α}
    (firstFits : first.Fits compiled) (secondFits : second.Fits compiled) {handle : Nat}
    (outside : compiled.nodes.size ≤ handle) :
    second.outputOf handle = first.outputOf handle ∧
      second.isSettled handle = first.isSettled handle ∧
        second.memory handle = first.memory handle := by
  have beyond {β : Type} {entries : Array β} {default : β}
      (size : entries.size = compiled.nodes.size) : entries.getD handle default = default := by
    simp [Array.getD_eq_getD_getElem?, size, outside]
  refine ⟨?_, ?_, ?_⟩
  · exact (beyond secondFits.outputs).trans (beyond firstFits.outputs).symm
  · exact (beyond secondFits.settled).trans (beyond firstFits.settled).symm
  · exact (beyond secondFits.memories).trans (beyond firstFits.memories).symm

theorem Corresponds.clear {place : Nat → Nat} {compiled : Compiled α} {first second : RunState α}
    (corresponds : Corresponds place compiled first second) :
    Corresponds place compiled first.clear second.clear where
  firstFits := corresponds.firstFits.clear
  secondFits := corresponds.secondFits.clear
  outputOf_eq _ := by rw [outputOf_clear, outputOf_clear]
  isSettled_eq _ := by rw [isSettled_clear, isSettled_clear]
  memory_eq inside := corresponds.memory_eq inside
  time_eq := corresponds.time_eq
  tick_eq := corresponds.tick_eq

end RunState

namespace Compiled.Rearranged

variable {place back : Nat → Nat} {first second : Compiled α}
  (rearranged : first.Rearranged place back second)
include rearranged

/-- Each state has a corresponding one. -/
theorem exists_corresponds {state : RunState α} (fits : state.Fits first) :
    ∃ other, RunState.Corresponds place first state other := by
  have reads {β : Type} (read : Nat → β) (default : β) {handle : Nat}
      (inside : handle < first.nodes.size) :
      ((Array.range first.nodes.size).map fun place => read (back place)).getD (place handle)
        default = read handle := by
    have placed := rearranged.place_lt inside
    simp [Array.getD_eq_getD_getElem?, placed, rearranged.back_place inside]
  refine ⟨⟨(Array.range first.nodes.size).map fun place => state.outputOf (back place),
    (Array.range first.nodes.size).map fun place => state.isSettled (back place),
    (Array.range first.nodes.size).map fun place => state.memory (back place),
    state.time, state.tick⟩, fits, ⟨by simp, by simp, by simp⟩, ?_, ?_, ?_, rfl, rfl⟩
  · exact reads state.outputOf 0.0
  · exact reads state.isSettled false
  · exact reads state.memory .empty

omit rearranged in
/-- What a block gives is a matter of the step only. -/
theorem yields_iff (dt_eq : second.dt = first.dt) {node : Node α} {time : α} {inputs : Inputs α}
    {memory next : Memory α} {value : α} :
    second.Yields (node.moved place) time inputs memory value next ↔
      first.Yields node time inputs memory value next := by
  unfold Yields stepFor
  rw [dt_eq]
  rfl

omit rearranged in
theorem updates_iff (dt_eq : second.dt = first.dt) {node : Node α} {time : α} {inputs : Inputs α}
    {memory next : Memory α} :
    second.Updates (node.moved place) time inputs memory next ↔
      first.Updates node time inputs memory next := by
  unfold Updates stepFor
  rw [dt_eq]
  rfl

/-- Blocks that are evaluated in one diagram are evaluated in the other. -/
theorem exists_evaluated {handles otherHandles : List Nat} {inputs otherInputs : Node α → Inputs α}
    {before after otherBefore : RunState α}
    (corresponds : RunState.Corresponds place first before otherBefore)
    (otherInside : ∀ handle ∈ otherHandles, handle < first.nodes.size)
    (listed : ∀ handle < first.nodes.size, place handle ∈ otherHandles ↔ handle ∈ handles)
    (inputs_eq : ∀ handle ∈ handles, ∀ node, first.nodes[handle]? = some node →
      otherInputs (node.moved place) = inputs node)
    (evaluated : first.Evaluated handles inputs before after) :
    ∃ otherAfter, second.Evaluated otherHandles otherInputs otherBefore otherAfter ∧
      RunState.Corresponds place first after otherAfter := by
  obtain ⟨otherAfter, same⟩ := rearranged.exists_corresponds evaluated.fits
  have otherFits := same.secondFits.of_size_eq rearranged.size_eq
  refine ⟨otherAfter, ⟨otherFits, ?_, ?_, ?_, ?_, ?_⟩, same⟩
  · rw [same.time_eq, corresponds.time_eq, evaluated.time_eq]
  · rw [same.tick_eq, corresponds.tick_eq, evaluated.tick_eq]
  · intro handle node member found
    obtain ⟨placed, origin, originFound, rfl⟩ := rearranged.exists_node found
    have inside := (Array.getElem?_eq_some_iff.mp originFound).1
    rw [← placed] at member ⊢
    rw [listed _ inside] at member
    rw [inputs_eq _ member origin originFound, corresponds.time_eq, corresponds.memory_eq inside,
      same.outputOf_eq inside, same.memory_eq inside, yields_iff rearranged.dt_eq]
    exact evaluated.yields member originFound
  · intro handle member
    have inside := otherInside handle member
    rw [← rearranged.place_back inside] at member ⊢
    rw [same.isSettled_eq (rearranged.back_lt inside)]
    exact evaluated.isSettled ((listed _ (rearranged.back_lt inside)).mp member)
  · intro handle notMember
    by_cases inside : handle < first.nodes.size
    · have backInside := rearranged.back_lt inside
      rw [← rearranged.place_back inside] at notMember ⊢
      rw [listed _ backInside] at notMember
      rw [same.outputOf_eq backInside, same.isSettled_eq backInside, same.memory_eq backInside,
        corresponds.outputOf_eq backInside, corresponds.isSettled_eq backInside,
        corresponds.memory_eq backInside]
      exact evaluated.kept notMember
    · exact corresponds.secondFits.reads_eq_of_le same.secondFits (Nat.le_of_not_lt inside)

/-- Blocks that are updated in one diagram are updated in the other. -/
theorem exists_updated (wellFormed : first.WellFormed) (otherWellFormed : second.WellFormed)
    {before after otherBefore : RunState α}
    (corresponds : RunState.Corresponds place first before otherBefore)
    (updated : first.Updated first.nodes.toList before after) :
    ∃ otherAfter, second.Updated second.nodes.toList otherBefore otherAfter ∧
      RunState.Corresponds place first after otherAfter := by
  obtain ⟨size_eq, after_eq, updates, -⟩ := updated
  have fits : after.Fits first := by
    rw [after_eq]
    exact ⟨corresponds.firstFits.outputs, corresponds.firstFits.settled,
      size_eq.trans corresponds.firstFits.memories⟩
  obtain ⟨other, same⟩ := rearranged.exists_corresponds fits
  -- The update phase leaves outputs and time alone, so only the persistent states are taken over.
  have otherFits : RunState.Fits { otherBefore with memories := other.memories } first :=
    ⟨corresponds.secondFits.outputs, corresponds.secondFits.settled, same.secondFits.memories⟩
  refine ⟨{ otherBefore with memories := other.memories }, ⟨?_, rfl, ?_, ?_⟩, fits, otherFits, ?_,
    ?_, same.memory_eq, ?_, ?_⟩
  · exact same.secondFits.memories.trans corresponds.secondFits.memories.symm
  · intro node member
    obtain ⟨handle, found⟩ := List.getElem?_of_mem member
    rw [Array.getElem?_toList] at found
    obtain ⟨placed, origin, originFound, rfl⟩ := rearranged.exists_node found
    have inside := (Array.getElem?_eq_some_iff.mp originFound).1
    have originMember : origin ∈ first.nodes.toList := by
      exact List.mem_of_getElem? (Array.getElem?_toList ▸ originFound)
    have inputs : (origin.moved place).inputs otherBefore.outputs = origin.inputs before.outputs :=
      Node.inputs_moved fun driver drives =>
        corresponds.outputOf_eq (wellFormed.driver_lt originFound drives)
    have own := updates originMember
    rw [wellFormed.handle_eq originFound] at own
    rw [otherWellFormed.handle_eq found, ← placed, updates_iff rearranged.dt_eq, inputs,
      corresponds.time_eq, corresponds.memory_eq inside]
    exact (same.memory_eq inside).symm ▸ own
  · intro handle absent
    rw [map_handle_eq_range otherWellFormed.handle_eq_of_toList, List.mem_range,
      Array.length_toList, rearranged.size_eq] at absent
    exact (corresponds.secondFits.reads_eq_of_le otherFits (Nat.le_of_not_lt absent)).2.2
  · intro handle inside
    rw [after_eq]
    exact corresponds.outputOf_eq inside
  · intro handle inside
    rw [after_eq]
    exact corresponds.isSettled_eq inside
  · rw [after_eq]
    exact corresponds.time_eq
  · rw [after_eq]
    exact corresponds.tick_eq

end Compiled.Rearranged

end SignalFlow
