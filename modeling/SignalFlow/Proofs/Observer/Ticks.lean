import SignalFlow.Proofs.Observer.Passes

/-! # Ticks with a further block

The phases of a tick do the same to the blocks before, with the further block and without it. They
break off alike as well, since the further block is evaluated after all others of its phase and is
updated last, so it cannot come in between. What it may do is to break off where it is evaluated
itself; in a tick in which it does not (`Compiled.Evaluates`) the two diagrams end alike.
-/

namespace SignalFlow

variable {α : Type} [Scalar α]

/-- A sink passes on its input. -/
theorem Payload.output_of_sink {payload : Payload α} (sink : payload.phase = .sink) (time dt : α)
    (inputs : Inputs α) (memory : Memory α) :
    payload.output time dt inputs memory = .ok (Inputs.value inputs 0, memory) := by
  cases payload with
  | labelSink name => rfl
  | scope labels => rfl
  | fileSink name => rfl
  | tf num den model =>
      cases model with
      | none => cases sink
      | some model =>
          rw [Payload.phase] at sink
          split at sink <;> cases sink
  | _ => cases sink

namespace Compiled

/-- Where the output phase of a tick comes to a block, evaluating that block completes. -/
def Evaluates (compiled : Compiled α) (handle : Nat) (given : List (String × α))
    (start : RunState α) : Prop :=
  ∀ (earlier later : List Nat) (node : Node α) (opened : RunState α),
    compiled.outputOrder = earlier ++ handle :: later → compiled.nodes[handle]? = some node →
    Completes (compiled.evaluateEach earlier fun node _ => externalInput given node) start.clear ()
      opened →
    ∃ value after, Completes (compiled.evaluate node (externalInput given node)) opened value after

theorem evaluates_of_not_mem {compiled : Compiled α} {handle : Nat}
    (absent : handle ∉ compiled.outputOrder) (given : List (String × α)) (start : RunState α) :
    compiled.Evaluates handle given start := by
  intro earlier later node opened order
  rw [order] at absent
  exact absurd (List.mem_append_right earlier List.mem_cons_self) absent

/-- A sink has an output for all inputs. -/
theorem exists_yields_of_sink {compiled : Compiled α} {node : Node α}
    (sink : node.payload.phase = .sink) (time : α) (inputs : Inputs α) (memory : Memory α) :
    ∃ value next, compiled.Yields node time inputs memory value next := by
  have unused : node.payload.outputUsesStep = false := by
    cases payload : node.payload <;> rw [payload] at sink <;> first | rfl | cases sink
  obtain ⟨dt, found⟩ := compiled.exists_stepFor unused
  exact ⟨_, _, dt, found, Payload.output_of_sink sink time dt inputs memory⟩

/-- Two ticks have the same time and the same outputs. -/
def ShowsAlike (result other : TickResult α) : Prop :=
  other.time = result.time ∧ other.outputs = result.outputs

namespace Extends

variable {compiled other : Compiled α} {observer : Node α}
  (extension : compiled.Extends other observer)
include extension

theorem stepFor_eq (isUsed : Bool) : other.stepFor isUsed = compiled.stepFor isUsed := by
  rw [stepFor, extension.dt_eq, stepFor]

/-! ## Evaluating blocks once -/

theorem endsAlike_evaluate {node : Node α} (inside : node.handle < compiled.nodes.size)
    (inputs : Inputs α) (state : RunState α) :
    EndsAlike compiled.Beside (fun value other => other = value)
      (outcome (compiled.evaluate node inputs) (state.restrict compiled))
      (outcome (other.evaluate node inputs) state) := by
  unfold evaluate
  rw [outcome_get_bind, outcome_get_bind, extension.stepFor_eq, RunState.memory_restrict inside]
  refine (EndsAlike.of_value (beside_restrict state)).bind
    fun dt _ middle otherMiddle same states => ?_
  subst same
  refine (EndsAlike.of_value states).bind fun produced _ middle otherMiddle same states => ?_
  subst same
  obtain rfl := states
  exact .completes rfl (RunState.restrict_remember inside _)

/-- Blocks before are evaluated alike if their inputs are found in the restricted state. -/
theorem endsAlike_evaluateEach {order : List Nat}
    (inside : ∀ handle ∈ order, handle < compiled.nodes.size)
    {inputs : Node α → RunState α → Inputs α}
    (same : ∀ (handle : Nat) (node : Node α), compiled.nodes[handle]? = some node →
      ∀ state : RunState α, inputs node (state.restrict compiled) = inputs node state)
    (state : RunState α) :
    EndsAlike compiled.Beside (fun _ _ => True)
      (outcome (compiled.evaluateEach order inputs) (state.restrict compiled))
      (outcome (other.evaluateEach order inputs) state) := by
  unfold evaluateEach forNodes
  refine EndsAlike.forM (beside_restrict state) fun handle member before otherBefore states => ?_
  obtain rfl := states
  have bound := inside handle member
  obtain ⟨node, found⟩ : ∃ node, compiled.nodes[handle]? = some node :=
    ⟨_, Array.getElem?_eq_getElem bound⟩
  obtain rfl := extension.wellFormed.handle_eq found
  rw [extension.getElem?_of_ne (Nat.ne_of_lt bound), found]
  dsimp only
  rw [outcome_get_bind, outcome_get_bind, same _ node found]
  refine (extension.endsAlike_evaluate bound _ _).bind
    fun value _ middle otherMiddle same states => ?_
  subst same
  obtain rfl := states
  exact .completes trivial (RunState.restrict_settle bound _)

/-- The further block may be evaluated after the blocks before, which that does not show in. -/
theorem endsAlike_evaluateEach_append {order last : List Nat}
    (inside : ∀ handle ∈ order, handle < compiled.nodes.size)
    (inputs : Node α → RunState α → Inputs α)
    (same : ∀ (handle : Nat) (node : Node α), compiled.nodes[handle]? = some node →
      ∀ state : RunState α, inputs node (state.restrict compiled) = inputs node state)
    (state : RunState α)
    (yields : last = [] ∨ last = [compiled.nodes.size] ∧
      ∀ middle, Completes (other.evaluateEach order inputs) state () middle →
        ∃ value next, other.Yields observer middle.time (inputs observer middle)
          (middle.memory compiled.nodes.size) value next) :
    EndsAlike compiled.Beside (fun _ _ => True)
      (outcome (compiled.evaluateEach order inputs) (state.restrict compiled))
      (outcome (other.evaluateEach (order ++ last) inputs) state) := by
  rw [evaluateEach_append]
  refine (extension.endsAlike_evaluateEach inside same state).followed
    fun _ middle otherMiddle states completes => ?_
  obtain rfl := states
  rcases yields with rfl | ⟨rfl, yields⟩
  · exact ⟨(), otherMiddle, completes_pure.mpr ⟨rfl, rfl⟩, rfl⟩
  · obtain ⟨value, next, yields⟩ := yields otherMiddle completes
    refine ⟨(), otherMiddle.record compiled.nodes.size next value, ?_, ?_⟩
    · rw [completes_evaluateEach_cons extension.otherWellFormed extension.getElem?_observer]
      exact ⟨value, next, yields, completes_pure.mpr ⟨rfl, rfl⟩⟩
    · exact RunState.restrict_record_of_le (Nat.le_refl _) next value

/-- The output phase leaves the blocks before as it does without the further block, unless that
breaks off. -/
theorem endsAlike_outputPhase {given : List (String × α)} {start : RunState α}
    (evaluates : other.Evaluates compiled.nodes.size given start) :
    EndsAlike compiled.Beside (fun _ _ => True)
      (outcome (compiled.outputPhase given) (start.restrict compiled).clear)
      (outcome (other.outputPhase given) start.clear) := by
  obtain ⟨last, order, last_eq⟩ := extension.outputOrder_eq
  rw [outputPhase_eq, outputPhase_eq, order, ← RunState.restrict_clear]
  apply extension.endsAlike_evaluateEach_append
  · exact fun handle member => extension.wellFormed.lt_of_mem_outputOrder member
  · exact fun _ _ _ _ => rfl
  · refine last_eq.imp_right fun isLast => ⟨isLast, fun middle completes => ?_⟩
    subst isLast
    obtain ⟨value, after, evaluated⟩ :=
      evaluates compiled.outputOrder [] observer middle order extension.getElem?_observer completes
    obtain ⟨next, yields, -⟩ := completes_evaluate_iff.mp evaluated
    rw [extension.handle_observer] at yields
    exact ⟨value, next, yields⟩

/-- The sink phase leaves the blocks before as it does without the further block. -/
theorem endsAlike_sinkPhase (state : RunState α) :
    EndsAlike compiled.Beside (fun _ _ => True)
      (outcome compiled.sinkPhase (state.restrict compiled)) (outcome other.sinkPhase state) := by
  obtain ⟨last, order, last_eq⟩ := extension.sinkOrder_eq
  rw [sinkPhase_eq, sinkPhase_eq, order]
  apply extension.endsAlike_evaluateEach_append
  · exact fun handle member => extension.wellFormed.lt_of_mem_sinkOrder member
  · intro handle node found state
    exact RunState.inputs_restrict fun _ => extension.wellFormed.driver_lt found
  · exact last_eq.imp_right fun ⟨isLast, sink⟩ =>
      ⟨isLast, fun middle _ => exists_yields_of_sink sink _ _ _⟩

/-! ## Updates -/

/-- Blocks before are updated alike. -/
theorem endsAlike_updateEach (state : RunState α) :
    EndsAlike compiled.Beside (fun _ _ => True)
      (outcome (compiled.updateEach compiled.nodes.toList) (state.restrict compiled))
      (outcome (other.updateEach compiled.nodes.toList) state) := by
  unfold updateEach
  refine EndsAlike.forM (beside_restrict state) fun node member before otherBefore states => ?_
  obtain rfl := states
  obtain ⟨handle, found⟩ := List.getElem?_of_mem member
  rw [Array.getElem?_toList] at found
  obtain rfl := extension.wellFormed.handle_eq found
  have inside : node.handle < compiled.nodes.size := (Array.getElem?_eq_some_iff.mp found).1
  rw [outcome_get_bind, outcome_get_bind, extension.stepFor_eq, RunState.memory_restrict inside,
    RunState.inputs_restrict fun _ => extension.wellFormed.driver_lt found]
  refine (EndsAlike.of_value (beside_restrict otherBefore)).bind
    fun dt _ middle otherMiddle same states => ?_
  subst same
  obtain rfl := states
  exact .completes trivial (RunState.restrict_remember inside _)

/-- Updating the further block does not show in the blocks before; it breaks off only for want of a
step. -/
theorem exists_updateEach_observer (state : RunState α) :
    ∃ after, compiled.Beside (state.restrict compiled) after ∧
      (Completes (other.updateEach [observer]) state () after ∨
        ∃ cause, compiled.dt.number = .error cause ∧
          outcome (other.updateEach [observer]) state = (.error cause, after)) := by
  cases found : other.stepFor observer.payload.updateUsesStep with
  | ok dt =>
      obtain ⟨next, updates⟩ : ∃ next, other.Updates observer state.time
          (observer.inputs state.outputs) (state.memory observer.handle) next := ⟨_, dt, found, rfl⟩
      have outside := Nat.le_of_eq extension.handle_observer.symm
      refine ⟨state.remember observer.handle next, RunState.restrict_remember_of_le outside next,
        .inl ?_⟩
      exact completes_updateEach_cons.mpr ⟨next, updates, completes_pure.mpr ⟨rfl, rfl⟩⟩
  | error cause =>
      refine ⟨state, rfl, .inr ⟨cause, ?_, ?_⟩⟩
      · rw [stepFor, extension.dt_eq] at found
        split at found
        · cases found
        · rename_i number
          split at found
          · rw [number, Except.error.inj found]
          · cases found
      · rw [updateEach, List.forM_eq_forM, List.forM_cons, outcome_bind, outcome_get_bind, found]
        rfl

/-! ## Ticks -/

theorem showsAlike_results (state : RunState α) (resolution otherResolution : Resolution) :
    ShowsAlike (compiled.results (state.restrict compiled) resolution)
      (other.results state otherResolution) := by
  refine ⟨rfl, ?_⟩
  unfold results
  dsimp only
  rw [extension.outputHandles_eq]
  apply List.map_congr_left
  rintro ⟨name, handle⟩ member
  rw [RunState.outputOf_restrict (extension.lt_of_mem_outputHandles member)]

theorem endsAlike_finishPhase (state : RunState α) (resolution otherResolution : Resolution) :
    EndsAlike compiled.Beside ShowsAlike
      (outcome (compiled.finishPhase resolution) (state.restrict compiled))
      (outcome (other.finishPhase otherResolution) state) := by
  have updates : other.updatePhase = (do
      other.updateEach compiled.nodes.toList
      other.updateEach [observer]) := by
    rw [updatePhase, extension.toList_eq]
    exact List.forM_append
  unfold finishPhase
  refine (extension.endsAlike_sinkPhase state).bind fun _ _ middle otherMiddle _ states => ?_
  obtain rfl := states
  rw [outcome_get_bind, outcome_get_bind, updates, bind_assoc]
  have shown := extension.showsAlike_results otherMiddle resolution otherResolution
  refine (extension.endsAlike_updateEach otherMiddle).bind fun _ _ middle otherMiddle _ states => ?_
  obtain rfl := states
  -- The further block is updated last, so where it breaks off for want of a step the clock would.
  obtain ⟨after, beside, completes | ⟨cause, number, breaks⟩⟩ :=
    extension.exists_updateEach_observer otherMiddle
  · rw [completes.outcome_bind, extension.dt_eq]
    refine (EndsAlike.of_value beside).bind fun dt _ middle otherMiddle same states => ?_
    subst same
    obtain rfl := states
    exact .completes shown rfl
  · rw [number, outcome_bind, outcome_bind, breaks]
    exact .breaks beside

theorem endsAlike_settlePhase (limit : Nat) {given : List (String × α)} {start : RunState α}
    (evaluates : other.Evaluates compiled.nodes.size given start) :
    EndsAlike compiled.Beside (fun _ _ => True)
      (outcome (compiled.settlePhase limit given) (start.restrict compiled))
      (outcome (other.settlePhase limit given) start) := by
  have settles (diagram : Compiled α) (state : RunState α) :
      outcome (diagram.settlePhase limit given) state =
        outcome (diagram.outputPhase given >>= fun _ => diagram.resolve limit) state.clear := rfl
  rw [settles, settles]
  refine (extension.endsAlike_outputPhase evaluates).bind fun _ _ middle otherMiddle _ states => ?_
  obtain rfl := states
  exact extension.endsAlike_resolve limit otherMiddle

/-- **A tick leaves the blocks before as it does without the further block**, and shows the same
outputs. -/
theorem endsAlike_step (limit : Nat) {given : List (String × α)} {start : RunState α}
    (evaluates : other.Evaluates compiled.nodes.size given start) :
    EndsAlike compiled.Beside ShowsAlike
      (outcome (compiled.step limit given) (start.restrict compiled))
      (outcome (other.step limit given) start) := by
  unfold step
  refine (extension.endsAlike_settlePhase limit evaluates).bind
    fun resolution otherResolution middle otherMiddle _ states => ?_
  obtain rfl := states
  exact extension.endsAlike_finishPhase otherMiddle resolution otherResolution

/-! ## Runs -/

/-- The diagram with the further block starts as the one without it does. -/
theorem create_of_start [Host] {memory : Memory α} (starts : observer.payload.start = .ok memory)
    {state : RunState α} (created : RunState.create compiled = .ok state) :
    RunState.create other = .ok ⟨.replicate (compiled.nodes.size + 1) 0.0,
      .replicate (compiled.nodes.size + 1) false, state.memories.push memory, 0.0, 0⟩ := by
  obtain ⟨started, -⟩ := RunState.create_eq_ok_iff.mp created
  have size : other.nodes.size = compiled.nodes.size + 1 := by
    rw [extension.nodes_eq, Array.size_push]
  rw [RunState.create_eq_ok_iff, size, extension.toList_eq, Array.toList_push]
  exact ⟨List.rel_append started (.cons starts .nil), rfl⟩

theorem beside_of_create [Host] {state otherState : RunState α}
    (created : RunState.create compiled = .ok state)
    (otherCreated : RunState.create other = .ok otherState) : compiled.Beside state otherState := by
  obtain ⟨started, state_eq⟩ := RunState.create_eq_ok_iff.mp created
  obtain ⟨otherStarted, -⟩ := RunState.create_eq_ok_iff.mp otherCreated
  have starts := (RunState.forall₂_start_iff.mp otherStarted).2 _ _ extension.getElem?_observer
  have size : state.memories.size = compiled.nodes.size :=
    (RunState.forall₂_start_iff.mp started).1
  have same := Except.ok.inj (otherCreated.symm.trans (extension.create_of_start starts created))
  rw [Beside, same, state_eq]
  apply RunState.eq_of_fields
  · simp [RunState.restrict]
  · simp [RunState.restrict]
  · simp [RunState.restrict, ← size]
  · rfl
  · rfl

end Extends

/-- The states of a run, and beside them those of the run with a further block: both start afresh and
are given the same in each tick, and the further block never breaks off where it is evaluated. -/
inductive RunsBeside [Host] (compiled other : Compiled α) : RunState α → RunState α → Prop where
  | start {state otherState : RunState α} (created : RunState.create compiled = .ok state)
      (otherCreated : RunState.create other = .ok otherState) :
      RunsBeside compiled other state otherState
  | tick {state otherState : RunState α} (runs : RunsBeside compiled other state otherState)
      (limit : Nat) {given : List (String × α)}
      (evaluates : other.Evaluates compiled.nodes.size given otherState) :
      RunsBeside compiled other (outcome (compiled.step limit given) state).2
        (outcome (other.step limit given) otherState).2

/-- Along the two runs the blocks before are in the same states. -/
theorem RunsBeside.beside [Host] {compiled other : Compiled α} {observer : Node α}
    (extension : compiled.Extends other observer) {state otherState : RunState α}
    (runs : compiled.RunsBeside other state otherState) : compiled.Beside state otherState := by
  induction runs with
  | start created otherCreated => exact extension.beside_of_create created otherCreated
  | tick _ limit evaluates ih =>
      obtain rfl := ih
      exact (extension.endsAlike_step limit evaluates).states

end Compiled

end SignalFlow
