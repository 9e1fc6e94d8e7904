import SignalFlow.Proofs.Evaluation

/-! # States restricted to the first blocks

The blocks of a diagram with a further block at the end of its list keep their handles, so a state
of it restricts to a state of the diagram without that block (`RunState.restrict`). What is done to
one of the first blocks is done to the restricted state as well, and what is done to a later one
does not show there.
-/

namespace SignalFlow

variable {α : Type}

namespace RunState

/-- What a state has for the blocks of a diagram. -/
def restrict (state : RunState α) (compiled : Compiled α) : RunState α :=
  { state with
    outputs := state.outputs.extract 0 compiled.nodes.size
    settled := state.settled.extract 0 compiled.nodes.size
    memories := state.memories.extract 0 compiled.nodes.size }

section Entries

variable {β : Type} {entries : Array β} {count place : Nat}

theorem getD_extract (inside : place < count) (default : β) :
    (entries.extract 0 count).getD place default = entries.getD place default := by
  rw [Array.getD_eq_getD_getElem?, Array.getD_eq_getD_getElem?]
  by_cases present : place < entries.size
  · simp [present, inside]
  · simp [present]

theorem extract_setIfInBounds_of_lt (inside : place < count) (entry : β) :
    (entries.setIfInBounds place entry).extract 0 count =
      (entries.extract 0 count).setIfInBounds place entry := by
  apply Array.ext_getElem?
  intro other
  by_cases same : place = other
  · subst same
    simp [Array.getElem?_extract, Array.getElem?_setIfInBounds, inside]
  · simp [Array.getElem?_extract, Array.getElem?_setIfInBounds_ne same]

theorem extract_setIfInBounds_of_le (outside : count ≤ place) (entry : β) :
    (entries.setIfInBounds place entry).extract 0 count = entries.extract 0 count := by
  apply Array.ext_getElem?
  intro other
  by_cases same : place = other
  · subst same
    simp [Nat.not_lt.mpr outside]
  · simp [Array.getElem?_extract, Array.getElem?_setIfInBounds_ne same]

end Entries

variable {state : RunState α} {compiled : Compiled α} {handle : Nat}

/-! ## The first blocks -/

section First

variable (inside : handle < compiled.nodes.size)
include inside

theorem isSettled_restrict : (state.restrict compiled).isSettled handle = state.isSettled handle :=
  getD_extract inside false

theorem memory_restrict : (state.restrict compiled).memory handle = state.memory handle :=
  getD_extract inside Memory.empty

theorem outputOf_restrict [Scalar α] :
    (state.restrict compiled).outputOf handle = state.outputOf handle :=
  getD_extract inside 0.0

theorem restrict_settle (value : α) :
    (state.settle handle value).restrict compiled =
      (state.restrict compiled).settle handle value := by
  apply eq_of_fields
  · exact extract_setIfInBounds_of_lt inside value
  · exact extract_setIfInBounds_of_lt inside true
  · rfl
  · rfl
  · rfl

theorem restrict_remember (memory : Memory α) :
    (state.remember handle memory).restrict compiled =
      (state.restrict compiled).remember handle memory := by
  apply eq_of_fields
  · rfl
  · rfl
  · exact extract_setIfInBounds_of_lt inside memory
  · rfl
  · rfl

end First

/-! ## Later blocks -/

section Later

variable (outside : compiled.nodes.size ≤ handle)
include outside

theorem restrict_settle_of_le (value : α) :
    (state.settle handle value).restrict compiled = state.restrict compiled := by
  apply eq_of_fields
  · exact extract_setIfInBounds_of_le outside value
  · exact extract_setIfInBounds_of_le outside true
  · rfl
  · rfl
  · rfl

theorem restrict_remember_of_le (memory : Memory α) :
    (state.remember handle memory).restrict compiled = state.restrict compiled := by
  apply eq_of_fields
  · rfl
  · rfl
  · exact extract_setIfInBounds_of_le outside memory
  · rfl
  · rfl

theorem restrict_record_of_le (next : Memory α) (value : α) :
    (state.record handle next value).restrict compiled = state.restrict compiled := by
  rw [record, restrict_settle_of_le outside, restrict_remember_of_le outside]

end Later

/-- Of changes at some handles those at later blocks do not show among the first ones. -/
theorem restrict_foldl {change otherChange : RunState α → Nat → RunState α}
    (first : ∀ other ≠ handle, ∀ state : RunState α,
      (otherChange state other).restrict compiled = change (state.restrict compiled) other)
    (later : ∀ state : RunState α,
      (otherChange state handle).restrict compiled = state.restrict compiled)
    (order : List Nat) (state : RunState α) :
    (order.foldl otherChange state).restrict compiled =
      (order.filter (· ≠ handle)).foldl change (state.restrict compiled) := by
  induction order generalizing state with
  | nil => rfl
  | cons next rest ih =>
      rw [List.foldl_cons, ih]
      by_cases same : next = handle
      · subst same
        rw [List.filter_cons_of_neg (by simp), later]
      · rw [List.filter_cons_of_pos (by simpa using same), List.foldl_cons, first next same]

variable [Scalar α]

theorem restrict_clear : state.clear.restrict compiled = (state.restrict compiled).clear := by
  apply eq_of_fields
  · exact Array.map_extract.symm
  · exact Array.map_extract.symm
  · rfl
  · rfl
  · rfl

/-- Blocks with drivers among the first ones read the same inputs in the restricted state. -/
theorem inputs_restrict {node : Node α}
    (drivers : ∀ driver ∈ node.driverHandles, driver < compiled.nodes.size) :
    node.inputs (state.restrict compiled).outputs = node.inputs state.outputs := by
  apply Node.inputs_congr
  intro driver drives
  exact getD_extract (drivers driver drives) 0.0

end RunState

/-- A state of a diagram is what a state of a diagram with further blocks has for its blocks. -/
def Compiled.Beside (compiled : Compiled α) (state other : RunState α) : Prop :=
  other.restrict compiled = state

theorem Compiled.beside_restrict {compiled : Compiled α} (state : RunState α) :
    compiled.Beside (state.restrict compiled) state := rfl

end SignalFlow
