import SignalFlow.Proofs.Resolution.Revision

/-! # Solutions of the block equations

Outputs solve a diagram in a state (`Compiled.Solves`) if each algebraic block has the output that
it computes from them. Where drivers can come first, evaluating each block once after its drivers
gives a solution, and gives every solution: there is exactly one.
-/

namespace SignalFlow.Compiled

open Relation

variable {α : Type} [Scalar α]

/-- Some outputs agree with a state about all blocks but the algebraic ones, and give each of these
the output that it computes from them. -/
structure Solves (compiled : Compiled α) (state : RunState α) (outputs : Array α) : Prop where
  size_eq : outputs.size = state.outputs.size
  kept {handle : Nat} :
    ¬ compiled.IsAlgebraic handle → outputs.getD handle 0.0 = state.outputOf handle
  equation {handle : Nat} {node : Node α} : compiled.nodes[handle]? = some node →
    node.phase = .algebraic →
    Completes (compiled.evaluate node (node.inputs outputs)) state (outputs.getD handle 0.0) state

/-- A block settled at the value that it computes in a state. -/
def evaluated (compiled : Compiled α) (state : RunState α) (handle : Nat) : RunState α :=
  match compiled.nodes[handle]? with
  | some node => state.settle node.handle (node.value state)
  | none => state

variable {compiled : Compiled α} (wellFormed : compiled.WellFormed)

include wellFormed

/-- In a solution each algebraic block responds to the outputs of its drivers. -/
theorem Solves.eq_response {state : RunState α} {outputs : Array α}
    (solves : compiled.Solves state outputs) {handle : Nat} {node : Node α}
    (found : compiled.nodes[handle]? = some node) (algebraic : node.phase = .algebraic) :
    outputs.getD handle 0.0 =
      node.payload.response (node.inputs outputs) (state.memory handle) := by
  have evaluates := (solves.equation found algebraic).unique
    (completes_evaluate (wellFormed.payload_phase found algebraic) _ state)
  rw [wellFormed.handle_eq found] at evaluates
  exact evaluates.1

/-! ## Evaluating each block once -/

theorem evaluated_of_getElem? {handle : Nat} {node : Node α}
    (found : compiled.nodes[handle]? = some node) (state : RunState α) :
    compiled.evaluated state handle = state.settle handle (node.value state) := by
  rw [evaluated, found]
  exact congrArg (state.settle · _) (wellFormed.handle_eq found)

theorem isRevision_evaluated {handle : Nat} (algebraic : compiled.IsAlgebraic handle)
    (state : RunState α) : compiled.IsRevision state (compiled.evaluated state handle) := by
  obtain ⟨node, found, phase⟩ := algebraic
  rw [evaluated_of_getElem? wellFormed found]
  exact .settle ⟨node, found, phase⟩ _

/-- Evaluating algebraic blocks one after the other never breaks off. -/
theorem completes_evaluateEach_of_algebraic {handles : List Nat}
    (algebraic : ∀ handle ∈ handles, compiled.IsAlgebraic handle) (state : RunState α) :
    Completes (compiled.evaluateEach handles fun node state => node.inputs state.outputs) state ()
      (handles.foldl compiled.evaluated state) := by
  induction handles generalizing state with
  | nil => exact completes_pure.mpr ⟨rfl, rfl⟩
  | cons handle rest ih =>
      obtain ⟨node, found, phase⟩ := algebraic handle List.mem_cons_self
      have later := ih (fun other member => algebraic other (List.mem_cons_of_mem _ member))
        (compiled.evaluated state handle)
      rw [evaluateEach, completes_forNodes_cons found]
      refine ⟨compiled.evaluated state handle, ?_, later⟩
      refine completes_evaluate_settle_iff.mpr ⟨node.value state, state.memory node.handle, ?_, ?_⟩
      · exact yields_of_algebraic (wellFormed.payload_phase found phase) _ _ _
      · rw [RunState.record, RunState.remember_memory, evaluated, found]

/-- Evaluating blocks leaves the outputs of all other blocks alone. -/
theorem outputOf_foldl_evaluated {handles : List Nat} {other : Nat} (absent : other ∉ handles)
    (state : RunState α) :
    (handles.foldl compiled.evaluated state).outputOf other = state.outputOf other := by
  induction handles generalizing state with
  | nil => rfl
  | cons handle rest ih =>
      rw [List.mem_cons, not_or] at absent
      rw [List.foldl_cons, ih absent.2]
      cases found : compiled.nodes[handle]? with
      | none => rw [evaluated, found]
      | some node =>
          rw [evaluated_of_getElem? wellFormed found]
          exact RunState.outputOf_settle_of_ne _ absent.1

/-- Blocks that are evaluated once, drivers first, have the outputs that they compute in the end. -/
theorem outputOf_foldl_evaluated_of_mem {handles : List Nat} (nodup : handles.Nodup)
    (algebraic : ∀ handle ∈ handles, compiled.IsAlgebraic handle)
    (driversFirst : DriversFirst (driversOf compiled.nodes) handles) {state : RunState α}
    (fits : state.Fits compiled) {handle : Nat} (member : handle ∈ handles) {node : Node α}
    (found : compiled.nodes[handle]? = some node) :
    (handles.foldl compiled.evaluated state).outputOf handle =
      node.payload.response (node.inputs (handles.foldl compiled.evaluated state).outputs)
        (state.memory handle) := by
  induction handles generalizing state with
  | nil => cases member
  | cons first rest ih =>
      obtain ⟨absent, nodup⟩ := List.nodup_cons.mp nodup
      obtain ⟨free, driversFirst⟩ := driversFirst
      have revision := isRevision_evaluated wellFormed (algebraic first List.mem_cons_self) state
      rw [List.foldl_cons]
      rcases List.mem_cons.mp member with rfl | inRest
      · have inside : handle < state.outputs.size :=
          fits.outputs ▸ (Array.getElem?_eq_some_iff.mp found).1
        have same : node.inputs (rest.foldl compiled.evaluated
            (compiled.evaluated state handle)).outputs = node.inputs state.outputs := by
          apply Node.inputs_congr
          intro driver drives
          have behind := free driver (driversOf_of_getElem? found ▸ drives)
          exact outputOf_foldl_evaluated wellFormed behind state
        rw [outputOf_foldl_evaluated wellFormed absent, same, evaluated_of_getElem? wellFormed found,
          RunState.outputOf_settle_self _ inside, Node.value, wellFormed.handle_eq found]
      · rw [← revision.memory_eq handle]
        exact ih nodup (fun other inside => algebraic other (List.mem_cons_of_mem _ inside))
          driversFirst (revision.fits fits) inRest

/-- Evaluating all algebraic blocks once, drivers first, gives a solution. -/
theorem solves_foldl_evaluated {order : List Nat} (perm : order.Perm compiled.algebraicOrder)
    (driversFirst : DriversFirst (driversOf compiled.nodes) order) {state : RunState α}
    (fits : state.Fits compiled) :
    compiled.Solves state (order.foldl compiled.evaluated state).outputs := by
  have listed (handle : Nat) : handle ∈ order ↔ compiled.IsAlgebraic handle :=
    perm.mem_iff.trans wellFormed.mem_algebraicOrder
  have revision : compiled.IsRevision state (order.foldl compiled.evaluated state) :=
    .foldl (fun handle member => isRevision_evaluated wellFormed ((listed handle).mp member)) state
  refine ⟨revision.outputs_size, revision.outputOf_eq, ?_⟩
  intro handle node found algebraic
  have member := (listed handle).mpr ⟨node, found, algebraic⟩
  have nodup : order.Nodup := perm.nodup_iff.mpr wellFormed.algebraicOrder_nodup
  have output := outputOf_foldl_evaluated_of_mem wellFormed nodup
    (fun other inside => (listed other).mp inside) driversFirst fits member found
  change Completes _ state ((order.foldl compiled.evaluated state).outputOf handle) state
  rw [output, ← wellFormed.handle_eq found]
  exact completes_evaluate (wellFormed.payload_phase found algebraic) _ state

/-- Solutions that agree outside the end of an order in which drivers come first agree everywhere:
the first block of that end reads nothing that stands in it. -/
theorem Solves.getD_eq {state : RunState α} {first second : Array α}
    (one : compiled.Solves state first) (other : compiled.Solves state second) {handles : List Nat}
    (algebraic : ∀ handle ∈ handles, compiled.IsAlgebraic handle)
    (driversFirst : DriversFirst (driversOf compiled.nodes) handles)
    (same : ∀ handle ∉ handles, first.getD handle 0.0 = second.getD handle 0.0) (handle : Nat) :
    first.getD handle 0.0 = second.getD handle 0.0 := by
  induction handles with
  | nil => exact same handle List.not_mem_nil
  | cons next rest ih =>
      refine ih (fun other member => algebraic other (List.mem_cons_of_mem _ member))
        driversFirst.2 fun handle absent => ?_
      by_cases isNext : handle = next
      · subst isNext
        obtain ⟨node, found, phase⟩ := algebraic handle List.mem_cons_self
        have inputs : node.inputs first = node.inputs second := by
          apply Node.inputs_congr
          intro driver drives
          exact same driver (driversFirst.1 driver (driversOf_of_getElem? found ▸ drives))
        rw [one.eq_response wellFormed found phase, other.eq_response wellFormed found phase, inputs]
      · exact same handle (List.not_mem_cons_of_ne_of_not_mem isNext absent)

/-- Where drivers can come first there is at most one solution. -/
theorem Solves.unique {order : List Nat} (perm : order.Perm compiled.algebraicOrder)
    (driversFirst : DriversFirst (driversOf compiled.nodes) order) {state : RunState α}
    {first second : Array α} (one : compiled.Solves state first)
    (other : compiled.Solves state second) : first = second := by
  have listed (handle : Nat) : handle ∈ order ↔ compiled.IsAlgebraic handle :=
    perm.mem_iff.trans wellFormed.mem_algebraicOrder
  have start : ∀ handle ∉ order, first.getD handle 0.0 = second.getD handle 0.0 := by
    intro handle absent
    have notAlgebraic : ¬ compiled.IsAlgebraic handle := fun algebraic =>
      absent ((listed handle).mpr algebraic)
    rw [one.kept notAlgebraic, other.kept notAlgebraic]
  apply RunState.eq_of_getD (one.size_eq.trans other.size_eq.symm)
  exact one.getD_eq wellFormed other (fun handle member => (listed handle).mp member) driversFirst
    start

/-- Without cycles drivers can come first. -/
theorem exists_driversFirst (acyclic : compiled.IsAcyclic) : ∃ order : List Nat,
    order.Perm compiled.algebraicOrder ∧ DriversFirst (driversOf compiled.nodes) order := by
  have nodup := wellFormed.algebraicOrder_nodup
  refine ⟨_, stableOrder_perm nodup, driversFirst_stableOrder nodup fun handle cycle => ?_⟩
  refine acyclic handle (cycle.lift id fun first second depends => ?_)
  obtain ⟨firstMember, secondMember, drives⟩ := depends
  exact ⟨wellFormed.mem_algebraicOrder.mp firstMember, wellFormed.mem_algebraicOrder.mp secondMember,
    drives⟩

end SignalFlow.Compiled
