import SignalFlow.Proofs.Layout
import SignalFlow.Proofs.LoadOrder.Simulation

/-! # Runs tick by tick

What a tick does to a source or a memory (`Compiled.exists_yields_of_step`): it has its output before
anything else is known, and once all outputs are known it is updated from them. What holds before
the first tick of a run, and a tick carries over to the next one, holds before every tick
(`Compiled.exists_step_of_ticks`).
-/

namespace SignalFlow.Compiled

variable {α : Type} [Scalar α] {compiled : Compiled α} {limit : Nat}

/-- A source or a memory gives its output for what it reads from outside, whatever its drivers will
give, and is updated from the outputs that the tick ends with. -/
theorem exists_yields_of_step (wellFormed : compiled.WellFormed) {given : List (String × α)}
    {start after : RunState α} {result : TickResult α} (fits : start.Fits compiled)
    (completes : Completes (compiled.step limit given) start result after) {handle : Nat}
    {node : Node α} (found : compiled.nodes[handle]? = some node)
    (early : node.phase = .source ∨ node.phase = .memory) :
    ∃ next, compiled.Yields node start.time (externalInput given node) (start.memory handle)
        (after.outputOf handle) next ∧
      compiled.Updates node start.time (node.inputs after.outputs) next (after.memory handle) := by
  obtain ⟨opened, resolution, settled, sunk, updated, dt, opens, resolves, sinks, updates, -, -,
    rfl⟩ := completes_step_iff.mp completes
  have listed : handle ∈ compiled.outputOrder := wellFormed.mem_outputOrder.mpr ⟨node, found, early⟩
  have notAlgebraic := wellFormed.not_isAlgebraic_of_mem_outputOrder listed
  have notSink : handle ∉ compiled.sinkOrder := by
    rw [(wellFormed.hasTurn found).sink_iff]
    rcases early with phase | phase <;> simp [phase]
  -- After its turn in the output phase nothing touches the block until it is updated.
  have evaluated := (completes_outputPhase_iff wellFormed fits.clear).mp opens
  have revision := isRevision_of_completes_resolve wellFormed resolves
  obtain ⟨sunkFits, sunkTime, sunkKept⟩ := kept_of_completes_evaluateEach wellFormed
    (fun _ member => wellFormed.lt_of_mem_sinkOrder member) (revision.fits evaluated.fits) sinks
  have time_eq : sunk.time = start.time := by
    rw [sunkTime, revision.time_eq, evaluated.time_eq]
    rfl
  have output_eq : sunk.outputOf handle = opened.outputOf handle := by
    rw [(sunkKept handle notSink).1, revision.outputOf_eq notAlgebraic]
  have memory_eq : sunk.memory handle = opened.memory handle := by
    rw [(sunkKept handle notSink).2, revision.memory_eq]
  have allUpdated := (completes_updatePhase_iff wellFormed sunkFits).mp updates
  have outputs_eq : updated.outputs = sunk.outputs := by rw [allUpdated.eq]
  have listedNode : node ∈ compiled.nodes.toList :=
    Array.mem_toList_iff.mpr (Array.mem_of_getElem? found)
  have updates := allUpdated.updates listedNode
  rw [wellFormed.handle_eq found, time_eq, memory_eq] at updates
  refine ⟨opened.memory handle, ?_, ?_⟩
  · have same : updated.outputOf handle = opened.outputOf handle := by
      rw [← output_eq, RunState.outputOf, outputs_eq, RunState.outputOf]
    change compiled.Yields node start.time _ _ (updated.outputOf handle) _
    rw [same]
    exact evaluated.yields listed found
  · change compiled.Updates node start.time (node.inputs updated.outputs) _ (updated.memory handle)
    rw [outputs_eq]
    exact updates

/-- What holds before the first tick, and each tick carries over to the next one, holds before every
tick of a run. -/
theorem exists_step_of_ticks (property : Nat → RunState α → Prop)
    {given : List (List (String × α))} {start final : RunState α}
    {results : List (TickResult α × RunState α)}
    (completes : Completes (compiled.ticks limit given) start results final)
    (first : property 0 start)
    (carries : ∀ (tick : Nat) (inputs : List (String × α)) (before after : RunState α)
      (result : TickResult α), results[tick]? = some (result, after) → property tick before →
        Completes (compiled.step limit inputs) before result after → property (tick + 1) after)
    {tick : Nat} {result : TickResult α} {after : RunState α}
    (found : results[tick]? = some (result, after)) :
    ∃ inputs before, property tick before ∧
      Completes (compiled.step limit inputs) before result after := by
  induction given generalizing start results property tick with
  | nil =>
      obtain ⟨rfl, -⟩ := completes_pure.mp completes
      cases found
  | cons inputs rest ih =>
      obtain ⟨firstResult, between, later, steps, others, rfl⟩ :=
        completes_ticks_cons_iff.mp completes
      cases tick with
      | zero =>
          cases found
          exact ⟨inputs, start, first, steps⟩
      | succ tick =>
          -- The remaining ticks are counted from the state that this one leaves.
          refine ih (fun tick => property (tick + 1)) others ?_ ?_ found
          · exact carries 0 inputs start _ firstResult rfl first steps
          · intro tick
            exact carries (tick + 1)

end SignalFlow.Compiled
