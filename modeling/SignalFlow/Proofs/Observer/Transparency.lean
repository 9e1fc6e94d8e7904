import SignalFlow.Host.Usual
import SignalFlow.Proofs.Observer.Compiling
import SignalFlow.Proofs.Observer.Ticks

/-! # Observers do not disturb

Ticks of a diagram and of the same diagram with an observer end alike, in runs of any length and
whether the algebraic blocks settle or not: they leave all blocks of the diagram in the same states
and show the same outputs, as long as the observer itself does not break off.
-/

namespace SignalFlow.Compiled

variable {α : Type} [Scalar α]

/-- A diagram with an observer compiles to an extension, if the parameters of the observer resolve. -/
theorem exists_extends_of_isObserved [Host] {diagram other : Diagram String} {block : Block String}
    {defaultDt defaultRuntime : Setting α} {before after : List Notice} {compiled : Compiled α}
    {payload : Payload α} (observed : diagram.IsObserved other block)
    (compiles : Completes (ofDiagram diagram defaultDt defaultRuntime) before compiled after)
    (resolves : Payload.resolved compiled.constants compiled.dt block = .ok payload) :
    ∃ otherCompiled otherAfter observer,
      Completes (ofDiagram other defaultDt defaultRuntime) before otherCompiled otherAfter ∧
      compiled.Extends otherCompiled observer ∧ observer.payload = payload := by
  obtain ⟨constants, dt, runtime, payloads, resolved, rfl⟩ :=
    completes_ofDiagram_iff.mp ⟨after, compiles⟩
  have otherResolved : IsResolved other defaultDt defaultRuntime constants dt runtime
      (payloads ++ [payload]) := by
    refine ⟨?_, ?_, ?_, ?_⟩
    · rw [observed.vars_eq, resolved.constants_eq]
    · rw [observed.dt_eq, resolved.dt_eq]
    · rw [observed.runtime_eq, resolved.runtime_eq]
    · rw [observed.blocks_eq]
      exact List.rel_append resolved.payloads_eq (.cons resolves .nil)
  obtain ⟨otherAfter, otherCompiles⟩ : ∃ otherAfter,
      Completes (ofDiagram other defaultDt defaultRuntime) before
        (assemble other constants dt runtime (payloads ++ [payload])) otherAfter :=
    completes_ofDiagram_iff.mpr ⟨constants, dt, runtime, payloads ++ [payload], otherResolved, rfl⟩
  have extension := extends_assemble observed resolved.payloads_eq.length_eq.symm constants dt runtime
    payload
  exact ⟨_, otherAfter, _, otherCompiles, extension, bind_payload _ _⟩

/-- **Observers do not disturb.** If the parameters of an observer resolve and it has a first state,
a diagram with the observer compiles and starts as well, and from there on each tick of the two
diagrams ends alike, for any limit of passes and any inputs, in which the observer does not break
off: both complete with the same outputs or both break off for the same cause, and they leave the
same outputs and persistent states of all blocks of the diagram. -/
theorem step_observed [Host] {diagram other : Diagram String} {block : Block String}
    {defaultDt defaultRuntime : Setting α} {before after : List Notice} {compiled : Compiled α}
    {payload : Payload α} {memory : Memory α} {start : RunState α}
    (observed : diagram.IsObserved other block)
    (compiles : Completes (ofDiagram diagram defaultDt defaultRuntime) before compiled after)
    (resolves : Payload.resolved compiled.constants compiled.dt block = .ok payload)
    (starts : payload.start = .ok memory) (created : RunState.create compiled = .ok start) :
    ∃ otherCompiled otherAfter otherStart,
      Completes (ofDiagram other defaultDt defaultRuntime) before otherCompiled otherAfter ∧
      RunState.create otherCompiled = .ok otherStart ∧
      ∀ state otherState, compiled.RunsBeside otherCompiled state otherState →
        ∀ (limit : Nat) (given : List (String × α)),
          otherCompiled.Evaluates compiled.nodes.size given otherState →
            EndsAlike compiled.Beside ShowsAlike (outcome (compiled.step limit given) state)
              (outcome (otherCompiled.step limit given) otherState) := by
  obtain ⟨otherCompiled, otherAfter, observer, otherCompiles, extension, rfl⟩ :=
    exists_extends_of_isObserved observed compiles resolves
  refine ⟨otherCompiled, otherAfter, _, otherCompiles, extension.create_of_start starts created, ?_⟩
  intro state otherState runs limit given evaluates
  obtain rfl := runs.beside extension
  exact extension.endsAlike_step limit evaluates

/-- A sum that is fed back to itself through a label grows with every pass. -/
def runawayDiagram : Diagram String where
  blocks := [⟨"c", "constant", []⟩, ⟨"m", "labelSource", [("name", .text "y")]⟩, ⟨"s", "sum", []⟩,
    ⟨"y", "labelSink", [("name", .text "y")]⟩]
  connections := [⟨"c", "s", 0, 0⟩, ⟨"m", "s", 0, 1⟩, ⟨"s", "y", 0, 0⟩]
  vars := []
  runtime := .null
  dt := .null
  nextId := 1

/-- The sum, observed by a gain. -/
def observedDiagram : Diagram String :=
  { runawayDiagram with
    blocks := runawayDiagram.blocks ++ [⟨"o", "gain", []⟩]
    connections := runawayDiagram.connections ++ [⟨"s", "o", 0, 0⟩] }

open Host.Usual

/-- A gain that observes a loop never disturbs it. -/
theorem step_observed_runawayDiagram :
    ∃ (compiled otherCompiled : Compiled Rat) (after otherAfter : List Notice)
      (start otherStart : RunState Rat),
      Completes (ofDiagram runawayDiagram standardDt standardRuntime) [] compiled after ∧
      Completes (ofDiagram observedDiagram standardDt standardRuntime) [] otherCompiled otherAfter ∧
      RunState.create compiled = .ok start ∧ RunState.create otherCompiled = .ok otherStart ∧
      ∀ state otherState, compiled.RunsBeside otherCompiled state otherState →
        ∀ (limit : Nat) (given : List (String × Rat)),
          EndsAlike compiled.Beside ShowsAlike (outcome (compiled.step limit given) state)
            (outcome (otherCompiled.step limit given) otherState) := by
  have observed : runawayDiagram.IsObserved observedDiagram ⟨"o", "gain", []⟩ := by
    refine ⟨rfl, ?_, ?_, ?_, ?_, rfl, rfl, rfl⟩
    · decide +kernel
    · decide +kernel
    · decide +kernel
    · decide +kernel
  have runs : (outcome (ofDiagram runawayDiagram (standardDt : Setting Rat) standardRuntime)
      []).1.toOption.any (fun compiled =>
        (RunState.create compiled).toOption.any fun _ => compiled.nodes.size == 4 &&
          (Payload.resolved compiled.constants compiled.dt ⟨"o", "gain", []⟩).toOption.any
            fun payload => payload.start.toOption.any fun _ => true) = true := by
    decide +kernel
  have apart : (outcome (ofDiagram observedDiagram (standardDt : Setting Rat) standardRuntime)
      []).1.toOption.any (fun otherCompiled => !otherCompiled.outputOrder.contains 4) = true := by
    decide +kernel
  obtain ⟨compiled, after, compiles, runs⟩ := exists_completes_of_any runs
  obtain ⟨start, created, runs⟩ := exists_of_toOption_any runs
  rw [Bool.and_eq_true, beq_iff_eq] at runs
  obtain ⟨size, runs⟩ := runs
  obtain ⟨payload, resolves, runs⟩ := exists_of_toOption_any runs
  obtain ⟨memory, starts, -⟩ := exists_of_toOption_any runs
  obtain ⟨otherCompiled, otherAfter, otherStart, otherCompiles, otherCreated, alike⟩ :=
    step_observed observed compiles resolves starts created
  obtain ⟨_, _, otherCompiles', notListed⟩ := exists_completes_of_any apart
  obtain ⟨rfl, -⟩ := otherCompiles.unique otherCompiles'
  refine ⟨compiled, otherCompiled, after, otherAfter, start, otherStart, compiles, otherCompiles,
    created, otherCreated, fun state otherState runs limit given => ?_⟩
  refine alike state otherState runs limit given (evaluates_of_not_mem ?_ given otherState)
  rw [size]
  simpa using notListed

end SignalFlow.Compiled
