import SignalFlow.Host.Usual
import SignalFlow.Proofs.LoadOrder.Reordering
import SignalFlow.Proofs.LoadOrder.Simulation

/-! # Load order does not matter

Runs of a diagram whose blocks are listed in another order have the same outputs in every tick and
leave the same persistent state of every block, if the labels of its label sinks are distinct, no
connection leaves a sink and there are no cycles.
-/

namespace SignalFlow.Compiled

variable {α : Type} [Scalar α]

/-- Two ticks of a diagram in two load orders have the same outputs, and leave the same persistent
state of each id. -/
def TicksAgreeById (diagram other : Diagram String) (tick otherTick : TickResult α × RunState α) :
    Prop :=
  (∀ name, Entries.get? otherTick.1.outputs name = Entries.get? tick.1.outputs name) ∧
    ∀ (id : String) (handle otherHandle : Nat), diagram.ids[handle]? = some id →
      other.ids[otherHandle]? = some id →
        otherTick.2.memory otherHandle = tick.2.memory handle

/-- Where no connection leaves a sink, no block reads one. -/
theorem not_isSink_of_driver [Host] {diagram : Diagram String}
    {defaultDt defaultRuntime : Setting α}
    {before after : List Notice} {compiled : Compiled α}
    (compiles : Completes (ofDiagram diagram defaultDt defaultRuntime) before compiled after)
    (apart : ∀ connection ∈ diagram.connections, ∀ handle, compiled.IsSink handle →
      diagram.ids[handle]? ≠ some connection.source) {handle driver : Nat}
    (drives : driver ∈ driversOf compiled.nodes handle) : ¬ compiled.IsSink driver := by
  obtain ⟨constants, dt, runtime, payloads, -, rfl⟩ := completes_ofDiagram_iff.mp ⟨after, compiles⟩
  have inside := WellFormed.lt_of_mem_driversOf drives
  have found := Array.getElem?_eq_getElem inside
  rw [driversOf_of_getElem? found] at drives
  obtain ⟨wire, member, rfl⟩ := exists_wire_of_assemble found drives
  obtain ⟨connection, listed, source, -⟩ := exists_connection_of_mem_wires member
  intro sink
  exact apart connection listed _ sink source

/-- An output is bound to a block of the diagram. -/
theorem lt_of_mem_outputHandles {diagram : Diagram String} {constants : Constants}
    {dt runtime : Setting α} {payloads : List (Payload α)}
    (wellFormed : (assemble diagram constants dt runtime payloads).WellFormed) {name : String}
    {handle : Nat}
    (bound : handle ∈ Entries.get? (assemble diagram constants dt runtime payloads).outputHandles
      name) : handle < (assemble diagram constants dt runtime payloads).nodes.size := by
  rw [assemble, get?_outputHandles_ofNodes, Option.mem_def, Option.map_eq_some_iff] at bound
  obtain ⟨sink, found, rfl⟩ := bound
  obtain ⟨place, listed⟩ := List.getElem?_of_mem (of_sink?_eq_some found).1
  have sinkFound : (assemble diagram constants dt runtime payloads).nodes[place]? = some sink := by
    simpa [assemble, ofNodes] using listed
  rw [wellFormed.handle_eq sinkFound]
  exact (Array.getElem?_eq_some_iff.mp sinkFound).1

/-- **Load order does not matter.** With distinct labels of label sinks, no connection that leaves a
sink and no cycle, a diagram with its blocks listed in another order compiles as well, and for any
inputs its run completes if that of the diagram does, with the same outputs and the same persistent
state of each id in every tick. -/
theorem simulate_reordered [Host] [LawfulBEq α] {diagram other : Diagram String}
    {defaultDt defaultRuntime : Setting α} {before after : List Notice} {compiled : Compiled α}
    {limit : Nat} (reordered : diagram.IsReordered other) (nodup : diagram.ids.Nodup)
    (distinct : diagram.HasDistinctSinks)
    (compiles : Completes (ofDiagram diagram defaultDt defaultRuntime) before compiled after)
    (acyclic : compiled.IsAcyclic)
    (apart : ∀ connection ∈ diagram.connections, ∀ handle, compiled.IsSink handle →
      diagram.ids[handle]? ≠ some connection.source)
    (enough : compiled.mirrors.length + 2 ≤ limit) :
    ∃ otherCompiled otherAfter,
      Completes (ofDiagram other defaultDt defaultRuntime) before otherCompiled otherAfter ∧
      ∀ given : List (List (String × α)),
        (∀ results, compiled.simulate limit given = .ok results →
          ∃ otherResults, otherCompiled.simulate limit given = .ok otherResults ∧
            List.Forall₂ (TicksAgreeById diagram other) results otherResults) ∧
        ∀ otherResults, otherCompiled.simulate limit given = .ok otherResults →
          ∃ results, compiled.simulate limit given = .ok results := by
  have wellFormed := wellFormed_of_completes compiles
  have settling : compiled.IsSettling limit :=
    ⟨wellFormed, acyclic, not_isSink_of_driver compiles apart, enough⟩
  obtain ⟨constants, dt, runtime, payloads, resolved, rfl⟩ :=
    completes_ofDiagram_iff.mp ⟨after, compiles⟩
  obtain ⟨otherPayloads, otherResolved⟩ := resolved.exists_reordered reordered
  obtain ⟨otherAfter, otherCompiles⟩ : ∃ otherAfter,
      Completes (ofDiagram other defaultDt defaultRuntime) before
        (assemble other constants dt runtime otherPayloads) otherAfter :=
    completes_ofDiagram_iff.mpr ⟨constants, dt, runtime, otherPayloads, otherResolved, rfl⟩
  have otherWellFormed := wellFormed_of_completes otherCompiles
  have rearranged := rearranged_assemble reordered nodup resolved otherResolved distinct
  have otherSettling := rearranged.isSettling otherWellFormed settling
  have undone := rearranged.symm wellFormed
  have published : PublishesAlike (placeIn diagram.ids other.ids)
      (assemble diagram constants dt runtime payloads)
      (assemble other constants dt runtime otherPayloads) := fun name =>
    ⟨fun handle => lt_of_mem_outputHandles wellFormed,
      get?_outputHandles_assemble reordered nodup resolved otherResolved distinct name⟩
  have otherPublished : PublishesAlike (placeIn other.ids diagram.ids)
      (assemble other constants dt runtime otherPayloads)
      (assemble diagram constants dt runtime payloads) := fun name =>
    ⟨fun handle => lt_of_mem_outputHandles otherWellFormed,
      get?_outputHandles_assemble reordered.symm (reordered.ids_perm.nodup_iff.mpr nodup)
        otherResolved resolved (reordered.hasDistinctSinks distinct) name⟩
  refine ⟨_, otherAfter, otherCompiles, fun given => ⟨?_, ?_⟩⟩
  · intro results simulated
    obtain ⟨otherResults, otherSimulated, agree⟩ :=
      rearranged.exists_simulate settling otherSettling published simulated
    refine ⟨otherResults, otherSimulated, agree.imp ?_⟩
    rintro tick otherTick ⟨outputs, memories⟩
    refine ⟨outputs, fun id handle otherHandle found otherFound => ?_⟩
    have placed : placeIn diagram.ids other.ids handle = otherHandle := by
      have inside := (List.getElem?_eq_some_iff.mp otherFound).1
      have otherNodup := reordered.ids_perm.nodup_iff.mpr nodup
      have same := (getElem?_placeIn reordered.ids_perm found).trans otherFound.symm
      exact ((List.getElem?_inj inside otherNodup).mp same.symm).symm
    rw [← placed]
    apply memories
    rw [size_assemble _ _ _ resolved.payloads_eq.length_eq.symm]
    exact (List.getElem?_eq_some_iff.mp found).1
  · intro otherResults otherSimulated
    obtain ⟨results, simulated, -⟩ :=
      undone.exists_simulate otherSettling settling otherPublished otherSimulated
    exact ⟨results, simulated⟩

open Host.Usual

/-- A diagram with a mirror, listed backwards. -/
theorem simulate_reordered_mirrorDiagram :
    ∃ (compiled otherCompiled : Compiled Rat) (after otherAfter : List Notice),
      Completes (ofDiagram mirrorDiagram standardDt standardRuntime) [] compiled after ∧
      compiled.IsAcyclic ∧ compiled.mirrors.length = 1 ∧
      Completes (ofDiagram { mirrorDiagram with blocks := mirrorDiagram.blocks.reverse } standardDt
        standardRuntime) [] otherCompiled otherAfter ∧
      ∀ given : List (List (String × Rat)),
        (∀ results, compiled.simulate 3 given = .ok results →
          ∃ otherResults, otherCompiled.simulate 3 given = .ok otherResults ∧
            List.Forall₂ (TicksAgreeById mirrorDiagram
              { mirrorDiagram with blocks := mirrorDiagram.blocks.reverse }) results otherResults) ∧
        ∀ otherResults, otherCompiled.simulate 3 given = .ok otherResults →
          ∃ results, compiled.simulate 3 given = .ok results := by
  have compiles : (outcome (ofDiagram mirrorDiagram (standardDt : Setting Rat) standardRuntime)
      []).1.toOption.any (fun compiled =>
        compiled.mirrors.length == 1 && compiled.isLayered [2, 3, 0, 1, 2] &&
          mirrorDiagram.connections.all fun connection => compiled.sinkOrder.all fun handle =>
            mirrorDiagram.ids[handle]? != some connection.source) = true := by
    decide +kernel
  obtain ⟨compiled, after, compiles, checked⟩ := exists_completes_of_any compiles
  rw [Bool.and_eq_true, Bool.and_eq_true, beq_iff_eq] at checked
  obtain ⟨⟨single, layered⟩, apart⟩ := checked
  have wellFormed := wellFormed_of_completes compiles
  have acyclic := wellFormed.isAcyclic_of_isLayered layered
  have apart : ∀ connection ∈ mirrorDiagram.connections, ∀ handle, compiled.IsSink handle →
      mirrorDiagram.ids[handle]? ≠ some connection.source := by
    intro connection listed handle sink
    have listedApart := List.all_eq_true.mp apart connection listed
    simpa using List.all_eq_true.mp listedApart handle (wellFormed.mem_sinkOrder.mpr sink)
  have reordered : mirrorDiagram.IsReordered
      { mirrorDiagram with blocks := mirrorDiagram.blocks.reverse } :=
    ⟨List.reverse_perm _, rfl, rfl, rfl, rfl⟩
  have nodup : mirrorDiagram.ids.Nodup := by decide +kernel
  have distinct : mirrorDiagram.HasDistinctSinks := by
    unfold Diagram.HasDistinctSinks
    decide +kernel
  have enough : compiled.mirrors.length + 2 ≤ 3 := by omega
  obtain ⟨otherCompiled, otherAfter, otherCompiles, agree⟩ :=
    simulate_reordered reordered nodup distinct compiles acyclic apart enough
  exact ⟨compiled, otherCompiled, after, otherAfter, compiles, acyclic, single, otherCompiles, agree⟩

end SignalFlow.Compiled
