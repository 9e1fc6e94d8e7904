import SignalFlow.Proofs.Dependency

/-! # Diagrams with a further block

A compiled diagram extends another one (`Compiled.Extends`) if it has the same blocks and one more at
the end, which drives none of them. The orders of evaluation of the two diagrams are then the same
but for the place of that block: it comes last among the sources, memories and sinks, and somewhere
among the algebraic blocks, whose order it leaves as it is.
-/

namespace SignalFlow.Compiled

variable {α : Type} [Scalar α]

/-- A diagram has the blocks of another one, unchanged, and a further one at the end of its list,
which no output is bound to. -/
structure Extends (compiled other : Compiled α) (observer : Node α) : Prop where
  wellFormed : compiled.WellFormed
  otherWellFormed : other.WellFormed
  nodes_eq : other.nodes = compiled.nodes.push observer
  dt_eq : other.dt = compiled.dt
  outputHandles_eq : other.outputHandles = compiled.outputHandles
  lt_of_mem_outputHandles {name : String} {handle : Nat} :
    (name, handle) ∈ compiled.outputHandles → handle < compiled.nodes.size
  sink_phase : observer.phase = .sink → observer.payload.phase = .sink

namespace Extends

variable {compiled other : Compiled α} {observer : Node α}
  (extension : compiled.Extends other observer)
include extension

/-! ## Blocks -/

theorem getElem?_of_ne {handle : Nat} (different : handle ≠ compiled.nodes.size) :
    other.nodes[handle]? = compiled.nodes[handle]? := by
  rw [extension.nodes_eq, Array.getElem?_push, if_neg different]

theorem getElem?_observer : other.nodes[compiled.nodes.size]? = some observer := by
  rw [extension.nodes_eq]
  exact Array.getElem?_push_size

theorem handle_observer : observer.handle = compiled.nodes.size :=
  extension.otherWellFormed.handle_eq extension.getElem?_observer

theorem toList_eq : other.nodes.toList = compiled.nodes.toList ++ [observer] := by
  rw [extension.nodes_eq, Array.toList_push]

theorem not_mem_driversOf {handle : Nat} (different : handle ≠ compiled.nodes.size) :
    compiled.nodes.size ∉ driversOf other.nodes handle := by
  rw [driversOf, extension.getElem?_of_ne different, ← driversOf]
  intro drives
  exact Nat.lt_irrefl _ (extension.wellFormed.driver_lt_of_mem_driversOf drives)

/-! ## Orders of evaluation -/

/-- The handles at which a test accepts are those among the blocks before, and perhaps the last. -/
theorem handles_eq (test : Node α → Bool) :
    handles other.nodes.toList test = handles compiled.nodes.toList test ++
      if test observer then [compiled.nodes.size] else [] := by
  rw [handles, extension.toList_eq, List.filter_append, List.map_append, handles]
  congr 1
  cases accepted : test observer with
  | false => simp [accepted]
  | true => simp [accepted, extension.handle_observer]

theorem outputOrder_eq : ∃ last, other.outputOrder = compiled.outputOrder ++ last ∧
    (last = [] ∨ last = [compiled.nodes.size]) := by
  rw [extension.otherWellFormed.outputOrder_eq, extension.wellFormed.outputOrder_eq,
    extension.handles_eq]
  refine ⟨_, rfl, ?_⟩
  split
  · exact .inr rfl
  · exact .inl rfl

theorem sinkOrder_eq : ∃ last, other.sinkOrder = compiled.sinkOrder ++ last ∧
    (last = [] ∨ last = [compiled.nodes.size] ∧ observer.payload.phase = .sink) := by
  rw [extension.otherWellFormed.sinkOrder_eq, extension.wellFormed.sinkOrder_eq,
    extension.handles_eq]
  refine ⟨_, rfl, ?_⟩
  split
  · rename_i isSink
    exact .inr ⟨rfl, extension.sink_phase (beq_iff_eq.mp isSink)⟩
  · exact .inl rfl

theorem size_not_mem_handles (test : Node α → Bool) :
    compiled.nodes.size ∉ handles compiled.nodes.toList test := by
  intro member
  obtain ⟨node, found, -⟩ := extension.wellFormed.mem_handles.mp member
  exact Nat.lt_irrefl _ (Array.getElem?_eq_some_iff.mp found).1

theorem filter_handles (test : Node α → Bool) :
    (handles other.nodes.toList test).filter (· ≠ compiled.nodes.size) =
      handles compiled.nodes.toList test := by
  rw [extension.handles_eq, List.filter_append,
    filter_ne_of_not_mem (extension.size_not_mem_handles test)]
  split
  · simp
  · simp

/-- The blocks before are ordered among themselves as they are without the further block. -/
theorem filter_stableOrder (test : Node α → Bool) :
    (stableOrder (driversOf other.nodes) (handles other.nodes.toList test)).filter
        (· ≠ compiled.nodes.size) =
      stableOrder (driversOf compiled.nodes) (handles compiled.nodes.toList test) := by
  have ascending := handles_pairwise extension.wellFormed.handle_eq_of_toList test
  have otherAscending := handles_pairwise extension.otherWellFormed.handle_eq_of_toList test
  have isNew := extension.size_not_mem_handles test
  have different : ∀ handle ∈ handles compiled.nodes.toList test, handle ≠ compiled.nodes.size :=
    fun handle member isLast => isNew (isLast ▸ member)
  have same : orderPending (driversOf other.nodes) (handles compiled.nodes.toList test) =
      orderPending (driversOf compiled.nodes) (handles compiled.nodes.toList test) := by
    apply orderPending_congr
    intro handle member
    rw [driversOf, extension.getElem?_of_ne (different handle member), ← driversOf]
  rw [stableOrder_of_pairwise otherAscending, stableOrder_of_pairwise ascending,
    extension.handles_eq]
  split
  · rw [← same]
    apply filter_orderPending_append isNew
    intro handle member
    exact extension.not_mem_driversOf (different handle member)
  · rw [List.append_nil, same]
    apply filter_ne_of_not_mem
    rw [← stableOrder_of_pairwise ascending]
    intro member
    exact isNew ((stableOrder_perm (ascending.imp Nat.ne_of_lt)).subset member)

/-- The algebraic blocks before are visited in the same order, wherever the further block comes. -/
theorem filter_algebraicOrder :
    other.algebraicOrder.filter (· ≠ compiled.nodes.size) = compiled.algebraicOrder := by
  rw [extension.otherWellFormed.algebraicOrder_eq, extension.wellFormed.algebraicOrder_eq,
    List.filter_append, extension.filter_stableOrder, extension.filter_handles]

end Extends

end SignalFlow.Compiled
