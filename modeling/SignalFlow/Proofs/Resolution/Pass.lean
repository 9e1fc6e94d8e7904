import SignalFlow.Proofs.Evaluation
import Mathlib.Logic.Function.Iterate

/-! # Passes over the algebraic blocks

An algebraic block computes from its inputs alone and keeps its persistent state, so a visit of it
never breaks off, and a pass is a function of the state: `Compiled.passed`, with
`Compiled.hasProgress` telling whether it counts as progress. All that resolving does is to revise
the outputs and marks of algebraic blocks (`Compiled.IsRevision`).
-/

namespace SignalFlow

variable {α : Type} [Scalar α]

/-! ## Algebraic blocks -/

/-- What an algebraic block gives for its inputs. Time and step play no part in it. -/
def Payload.response (payload : Payload α) (inputs : Inputs α) (memory : Memory α) : α :=
  match payload.output 0.0 0.0 inputs memory with
  | .ok (value, _) => value
  | .error _ => 0.0

/-- An algebraic block has an output for all inputs, and keeps its persistent state. -/
theorem Payload.output_of_algebraic {payload : Payload α} (algebraic : payload.phase = .algebraic)
    (time dt : α) (inputs : Inputs α) (memory : Memory α) :
    payload.output time dt inputs memory = .ok (payload.response inputs memory, memory) := by
  cases payload with
  | tf num den model =>
      cases model with
      | none => cases algebraic
      | some model => cases memory <;> rfl
  | gain factor => rfl
  | sum signs => rfl
  | mult => rfl
  | saturation lower upper => rfl
  | switch threshold condition => rfl
  | labelSource name => rfl
  | _ => cases algebraic

theorem Payload.outputUsesStep_of_algebraic {payload : Payload α}
    (algebraic : payload.phase = .algebraic) : payload.outputUsesStep = false := by
  cases payload <;> first | rfl | cases algebraic

namespace Node

/-- The value that an algebraic block takes in a state. -/
def value (node : Node α) (state : RunState α) : α :=
  node.payload.response (node.inputs state.outputs) (state.memory node.handle)

/-- Whether all drivers of a block are settled. -/
def isFed (node : Node α) (state : RunState α) : Bool := node.driverHandles.all state.isSettled

/-- Whether a visit of a block counts as progress: the block settles or changes its value. -/
def progresses (node : Node α) (state : RunState α) : Bool :=
  node.isFed state &&
    (!state.isSettled node.handle || state.outputOf node.handle != node.value state)

omit [Scalar α] in
theorem isFed_iff {node : Node α} {state : RunState α} :
    node.isFed state = true ↔ ∀ driver ∈ node.driverHandles, state.isSettled driver = true := by
  simp [isFed]

end Node

/-- The state after a visit of an algebraic block. -/
def RunState.visited (state : RunState α) (node : Node α) : RunState α :=
  if node.progresses state then state.settle node.handle (node.value state) else state

namespace Compiled

variable {compiled : Compiled α}

/-- A block that does not depend on the step never breaks off for want of one. -/
theorem exists_stepFor (compiled : Compiled α) {isUsed : Bool} (unused : isUsed = false) :
    ∃ dt, compiled.stepFor isUsed = .ok dt := by
  unfold stepFor
  rw [unused]
  cases compiled.dt.number <;> simp

/-- An algebraic block gives its response and keeps its persistent state. -/
theorem yields_of_algebraic {node : Node α} (algebraic : node.payload.phase = .algebraic) (time : α)
    (inputs : Inputs α) (memory : Memory α) :
    compiled.Yields node time inputs memory (node.payload.response inputs memory) memory := by
  obtain ⟨dt, found⟩ := compiled.exists_stepFor (Payload.outputUsesStep_of_algebraic algebraic)
  exact ⟨dt, found, Payload.output_of_algebraic algebraic time dt inputs memory⟩

/-- Evaluating an algebraic block never breaks off. -/
theorem completes_evaluate {node : Node α} (algebraic : node.payload.phase = .algebraic)
    (inputs : Inputs α) (state : RunState α) :
    Completes (compiled.evaluate node inputs) state
      (node.payload.response inputs (state.memory node.handle)) state :=
  completes_evaluate_iff.mpr
    ⟨_, yields_of_algebraic algebraic _ _ _, RunState.remember_memory.symm⟩

/-- A visit of an algebraic block never breaks off. -/
theorem completes_visit {node : Node α} (algebraic : node.payload.phase = .algebraic)
    (state : RunState α) :
    Completes (compiled.visit node) state (node.progresses state) (state.visited node) := by
  unfold visit RunState.visited Node.progresses
  rw [completes_bind]
  refine ⟨state, state, by simp, ?_⟩
  cases fed : node.isFed state with
  | false =>
      rw [Node.isFed] at fed
      simp [fed]
  | true =>
      rw [Node.isFed] at fed
      simp only [fed, ↓reduceIte, Bool.true_and]
      rw [completes_bind]
      refine ⟨node.value state, state, completes_evaluate algebraic _ state, ?_⟩
      split
      · rename_i progress
        rw [completes_bind]
        exact ⟨(), _, completes_modify.mpr rfl, completes_pure.mpr ⟨progress, rfl⟩⟩
      · rename_i noProgress
        exact completes_pure.mpr ⟨by simpa using noProgress, rfl⟩

/-! ## Passes as functions of the state -/

variable (compiled)

/-- The state after a visit of the block at a handle. -/
def advance (state : RunState α) (handle : Nat) : RunState α :=
  match compiled.nodes[handle]? with
  | some node => state.visited node
  | none => state

/-- The state after visits of the blocks at some handles, in order. -/
def sweep (handles : List Nat) (state : RunState α) : RunState α :=
  handles.foldl compiled.advance state

/-- Whether any of the visits of a sweep is progress. -/
def progressOver : List Nat → RunState α → Bool
  | [], _ => false
  | handle :: rest, state =>
      ((compiled.nodes[handle]?).any (·.progresses state)) ||
        progressOver rest (compiled.advance state handle)

/-- The state after a pass. -/
def passed (state : RunState α) : RunState α := compiled.sweep compiled.algebraicOrder state

/-- Whether a pass is progress. -/
def hasProgress (state : RunState α) : Bool :=
  compiled.progressOver compiled.algebraicOrder state

/-- Some passes, one after the other. -/
def passTimes : Nat → Tick α Unit
  | 0 => pure ()
  | count + 1 => do
      let _ ← compiled.pass
      passTimes count

variable {compiled}

theorem advance_of_getElem? {handle : Nat} {node : Node α}
    (found : compiled.nodes[handle]? = some node) (state : RunState α) :
    compiled.advance state handle = state.visited node := by
  simp [advance, found]

theorem sweep_cons (handle : Nat) (rest : List Nat) (state : RunState α) :
    compiled.sweep (handle :: rest) state = compiled.sweep rest (compiled.advance state handle) :=
  rfl

theorem sweep_append (first second : List Nat) (state : RunState α) :
    compiled.sweep (first ++ second) state = compiled.sweep second (compiled.sweep first state) :=
  List.foldl_append

/-- Visiting algebraic blocks in order never breaks off. -/
theorem completes_passOver (wellFormed : compiled.WellFormed) {handles : List Nat}
    (algebraic : ∀ handle ∈ handles, compiled.IsAlgebraic handle) (state : RunState α) :
    Completes (compiled.passOver handles) state (compiled.progressOver handles state)
      (compiled.sweep handles state) := by
  induction handles generalizing state with
  | nil => exact completes_pure.mpr ⟨rfl, rfl⟩
  | cons handle rest ih =>
      obtain ⟨node, found, phase⟩ := algebraic handle List.mem_cons_self
      have first : Completes (compiled.visit node) state _ _ :=
        completes_visit (wellFormed.payload_phase found phase) state
      have later := ih (fun other member => algebraic other (List.mem_cons_of_mem _ member))
        (state.visited node)
      rw [passOver, sweep_cons, progressOver, advance_of_getElem? found, found]
      simp only [Option.any_some, completes_bind]
      exact ⟨_, _, first, _, _, later, completes_pure.mpr ⟨rfl, rfl⟩⟩

/-- A pass never breaks off. -/
theorem completes_pass (wellFormed : compiled.WellFormed) (state : RunState α) :
    Completes compiled.pass state (compiled.hasProgress state) (compiled.passed state) :=
  completes_passOver wellFormed (fun _ member => wellFormed.mem_algebraicOrder.mp member) state

theorem completes_passTimes (wellFormed : compiled.WellFormed) (count : Nat) (state : RunState α) :
    Completes (compiled.passTimes count) state () (compiled.passed^[count] state) := by
  induction count generalizing state with
  | zero => exact completes_pure.mpr ⟨rfl, rfl⟩
  | succ count ih =>
      rw [passTimes, completes_bind, Function.iterate_succ_apply]
      exact ⟨_, _, completes_pass wellFormed state, ih _⟩

/-- Passes are made up to the first one without progress, or as long as there is room. -/
theorem completes_settleFrom (wellFormed : compiled.WellFormed) (passes room : Nat)
    (state : RunState α) :
    (∃ count < room,
      (∀ earlier < count, compiled.hasProgress (compiled.passed^[earlier] state) = true) ∧
      compiled.hasProgress (compiled.passed^[count] state) = false ∧
      Completes (compiled.settleFrom passes room) state ⟨passes + count + 1, true⟩
        (compiled.passed^[count + 1] state)) ∨
    ((∀ earlier < room, compiled.hasProgress (compiled.passed^[earlier] state) = true) ∧
      Completes (compiled.settleFrom passes room) state ⟨passes + room, false⟩
        (compiled.passed^[room] state)) := by
  induction room generalizing passes state with
  | zero => exact .inr ⟨by simp, completes_pure.mpr ⟨rfl, rfl⟩⟩
  | succ room ih =>
      have first := completes_pass wellFormed state
      cases progress : compiled.hasProgress state with
      | false =>
          rw [progress] at first
          refine .inl ⟨0, by omega, by simp, progress, ?_⟩
          rw [settleFrom, completes_bind]
          exact ⟨_, _, first, completes_pure.mpr ⟨rfl, rfl⟩⟩
      | true =>
          rw [progress] at first
          have onward {resolution : Resolution} {after : RunState α}
              (rest : Completes (compiled.settleFrom (passes + 1) room) (compiled.passed state)
                resolution after) :
              Completes (compiled.settleFrom passes (room + 1)) state resolution after := by
            rw [settleFrom, completes_bind]
            exact ⟨_, _, first, rest⟩
          have before {count : Nat} (later : ∀ earlier < count,
              compiled.hasProgress (compiled.passed^[earlier] (compiled.passed state)) = true) :
              ∀ earlier < count + 1,
                compiled.hasProgress (compiled.passed^[earlier] state) = true := by
            intro earlier bound
            cases earlier with
            | zero => exact progress
            | succ earlier => exact later earlier (by omega)
          rcases ih (passes + 1) (compiled.passed state) with
            ⟨count, bound, moving, still, rest⟩ | ⟨moving, rest⟩
          · refine .inl ⟨count + 1, by omega, before moving, still, ?_⟩
            have number : passes + (count + 1) + 1 = passes + 1 + count + 1 := by omega
            rw [number]
            exact onward rest
          · refine .inr ⟨before moving, ?_⟩
            have number : passes + (room + 1) = passes + 1 + room := by omega
            rw [number]
            exact onward rest

end Compiled

end SignalFlow
