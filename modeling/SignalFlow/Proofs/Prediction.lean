import SignalFlow.Host.Usual
import SignalFlow.Proofs.Cycles
import SignalFlow.Proofs.Resolution.Unsettled
import SignalFlow.Validation.Check

/-! # What the validation of loops predicts

The check for loops without delay compiles the diagram for itself and searches it for cycles, and a
tick finds out by its passes what never settles. Both see the same wiring (`Node.outline`), and a
block that computes its output stays unsettled exactly if a walk back from it leads to a block that
the check reports, or to a block that is read last. Of the latter the check knows nothing.
-/

namespace SignalFlow

open Relation

variable {α : Type}

/-! ## The wiring of a diagram -/

/-- A block without its resolved parameters. -/
def Node.outline (node : Node α) : Node α := { node with payload := .unsupported }

namespace Compiled

/-- Binding does not look at resolved parameters. -/
theorem outline_bind (nodes : List (Node α)) (node : Node α) :
    (bind nodes node).outline = bind (nodes.map Node.outline) node.outline := by
  have sameKind (other : Node α) : other.outline.kind = other.kind := rfl
  have sameLabel (other : Node α) : other.outline.label = other.label := rfl
  have found := sink?_map sameKind sameLabel nodes node.label
  unfold bind
  rw [sameKind, sameLabel, found]
  by_cases isSource : node.kind = .labelSource
  · rw [isSource]
    cases sink? nodes node.label <;> rfl
  · have isOther : (node.kind == .labelSource) = false := by simpa using isSource
    rw [isOther]
    rfl

section Assemble

variable [Scalar α] {diagram : Diagram String}
  {defaultDt defaultRuntime otherDt otherRuntime : Setting α}
  {before after otherBefore otherAfter : List Notice} {compiled other : Compiled α}

theorem outline_wired {payload otherPayload : Payload α} (phase : payload.phase = otherPayload.phase)
    (wires : List Wire) (handle : Nat) (block : Block String) :
    (wired wires handle block payload).outline = (wired wires handle block otherPayload).outline := by
  simp only [Node.outline, wired, phase]

theorem outline_wiredNodes [Host] {constants : Constants} {dt runtime dt' runtime' : Setting α}
    {payloads otherPayloads : List (Payload α)}
    (resolved : IsResolved diagram defaultDt defaultRuntime constants dt runtime payloads)
    (otherResolved : IsResolved diagram otherDt otherRuntime constants dt' runtime' otherPayloads) :
    (wiredNodes diagram payloads).map Node.outline =
      (wiredNodes diagram otherPayloads).map Node.outline := by
  apply List.ext_getElem?
  intro handle
  rw [List.getElem?_map, List.getElem?_map, getElem?_wiredNodes, getElem?_wiredNodes]
  cases found : diagram.blocks[handle]? with
  | none =>
      have outside : diagram.blocks.length ≤ handle := List.getElem?_eq_none_iff.mp found
      simp [List.zip, outside]
  | some block =>
      obtain ⟨payload, payloadFound, resolves⟩ := resolved.getElem?_payloads found
      obtain ⟨otherPayload, otherFound, otherResolves⟩ := otherResolved.getElem?_payloads found
      have zipped : (diagram.blocks.zip payloads)[handle]? = some (block, payload) :=
        List.getElem?_zip_eq_some.mpr ⟨found, payloadFound⟩
      have otherZipped : (diagram.blocks.zip otherPayloads)[handle]? = some (block, otherPayload) :=
        List.getElem?_zip_eq_some.mpr ⟨found, otherFound⟩
      have phase : payload.phase = otherPayload.phase :=
        Payload.phase_of_resolved otherResolves resolves
      rw [zipped, otherZipped, Option.map_some, Option.map_some, Option.map_some, Option.map_some,
        outline_wired phase]

/-- Whatever step and duration a diagram is compiled for, its wiring is the same. -/
theorem outline_eq_of_completes [Host]
    (compiles : Completes (ofDiagram diagram defaultDt defaultRuntime) before compiled after)
    (otherCompiles : Completes (ofDiagram diagram otherDt otherRuntime) otherBefore other
      otherAfter) (handle : Nat) :
    compiled.nodes[handle]?.map Node.outline = other.nodes[handle]?.map Node.outline := by
  obtain ⟨constants, dt, runtime, payloads, resolved, rfl⟩ :=
    completes_ofDiagram_iff.mp ⟨after, compiles⟩
  obtain ⟨constants', dt', runtime', otherPayloads, otherResolved, rfl⟩ :=
    completes_ofDiagram_iff.mp ⟨otherAfter, otherCompiles⟩
  obtain rfl : constants = constants' :=
    Except.ok.inj (resolved.constants_eq.symm.trans otherResolved.constants_eq)
  have bare (some : List (Payload α)) (dt runtime : Setting α) :
      (assemble diagram constants dt runtime some).nodes[handle]?.map Node.outline =
        (((wiredNodes diagram some).map Node.outline)[handle]?).map
          (bind ((wiredNodes diagram some).map Node.outline)) := by
    simp only [assemble, ofNodes, List.getElem?_toArray, List.getElem?_map, Option.map_map]
    congr 1
    funext node
    exact outline_bind _ node
  rw [bare, bare, outline_wiredNodes resolved otherResolved]

end Assemble

/-! ## What depends on the wiring only -/

section Outline

variable {compiled other : Compiled α}
  (outline : ∀ handle : Nat,
    compiled.nodes[handle]?.map Node.outline = other.nodes[handle]?.map Node.outline)
include outline

theorem exists_of_outline {handle : Nat} {node : Node α}
    (found : compiled.nodes[handle]? = some node) :
    ∃ otherNode, other.nodes[handle]? = some otherNode ∧ otherNode.outline = node.outline := by
  have same := outline handle
  rw [found, Option.map_some, eq_comm, Option.map_eq_some_iff] at same
  exact same

theorem StepsBack.of_outline {handle driver : Nat} (step : compiled.StepsBack handle driver) :
    other.StepsBack handle driver := by
  obtain ⟨⟨node, found, algebraic, noSeed⟩, drives⟩ := step
  rw [driversOf_of_getElem? found] at drives
  obtain ⟨otherNode, otherFound, same⟩ := exists_of_outline outline found
  have phase : otherNode.phase = node.phase := (congrArg Node.phase same :)
  have seeds : otherNode.seedsLoop = node.seedsLoop := (congrArg Node.seedsLoop same :)
  have drivers : otherNode.driverHandles = node.driverHandles :=
    (congrArg Node.driverHandles same :)
  refine ⟨⟨otherNode, otherFound, ?_, ?_⟩, ?_⟩
  · rw [phase, algebraic]
  · rw [seeds, noSeed]
  · rw [driversOf_of_getElem? otherFound, drivers]
    exact drives

end Outline

theorem stepsBack_eq_of_outline {compiled other : Compiled α}
    (outline : ∀ handle : Nat,
      compiled.nodes[handle]?.map Node.outline = other.nodes[handle]?.map Node.outline) :
    compiled.StepsBack = other.StepsBack := by
  funext handle driver
  apply propext
  constructor
  · exact StepsBack.of_outline outline
  · exact StepsBack.of_outline fun handle => (outline handle).symm

/-! ## Reported loops -/

/-- The block at a handle lies on a loop for which the check has a finding. -/
def IsReported (validated : Compiled α) (handle : Nat) : Prop :=
  ∃ members ∈ Cycles.loops validated, handle ∈ members

section Reported

variable [Scalar α] {diagram : Diagram String} {defaultDt defaultRuntime : Setting α}
  {before after : List Notice} {validated : Compiled α}

theorem getElem?_ids_of_completes [Host]
    (compiles : Completes (ofDiagram diagram defaultDt defaultRuntime) before validated after)
    (handle : Nat) : validated.nodes[handle]?.map (·.id) = diagram.ids[handle]? := by
  obtain ⟨constants, dt, runtime, payloads, resolved, rfl⟩ :=
    completes_ofDiagram_iff.mp ⟨after, compiles⟩
  have size := size_assemble constants dt runtime resolved.payloads_eq.length_eq.symm
  by_cases inside : handle < diagram.ids.length
  · have found := Array.getElem?_eq_getElem (size ▸ inside)
    obtain ⟨block, payload, blockFound, -, same⟩ := exists_of_getElem?_assemble found
    rw [found, Option.map_some, same, bind_id, Diagram.ids, List.getElem?_map, blockFound]
    rfl
  · have outside : diagram.ids.length ≤ handle := by omega
    rw [List.getElem?_eq_none outside, Array.getElem?_eq_none (size ▸ outside), Option.map_none]

/-- In a diagram with unique ids the blocks reported are those whose ids the findings name. -/
theorem isReported_iff_exists_finding [Host] (nodup : diagram.ids.Nodup)
    (compiles : Completes (ofDiagram diagram defaultDt defaultRuntime) before validated after)
    {handle : Nat} :
    validated.IsReported handle ↔ ∃ finding ∈ Validation.algebraicLoops validated,
      ∃ id ∈ finding.blocks, diagram.ids[handle]? = some id := by
  have wellFormed := wellFormed_of_completes compiles
  have ids := getElem?_ids_of_completes compiles
  constructor
  · rintro ⟨members, isLoop, inside⟩
    obtain ⟨other, ⟨⟨node, found, -⟩, -⟩, -⟩ := TransGen.head'_iff.mp
      (wellFormed.exists_loop_iff.mp ⟨members, isLoop, inside⟩)
    have idFound : validated.nodes[handle]?.map (·.id) = some node.id := by
      rw [found, Option.map_some]
    refine ⟨_, List.mem_map.mpr ⟨members, isLoop, rfl⟩, node.id, ?_, ?_⟩
    · exact List.mem_filterMap.mpr ⟨handle, inside, idFound⟩
    · rw [← ids, idFound]
  · rintro ⟨finding, listed, id, member, found⟩
    obtain ⟨members, isLoop, rfl⟩ := List.mem_map.mp listed
    obtain ⟨other, inside, otherFound⟩ := List.mem_filterMap.mp member
    rw [ids] at otherFound
    obtain ⟨bound, same⟩ := List.getElem?_eq_some_iff.mp found
    obtain ⟨otherBound, otherSame⟩ := List.getElem?_eq_some_iff.mp otherFound
    obtain rfl : handle = other := nodup.getElem_inj_iff.mp (same.trans otherSame.symm)
    exact ⟨members, isLoop, inside⟩

end Reported

/-! ## Prediction -/

/-- What keeps a block from being grounded is a cycle or a sink behind it. -/
theorem not_isGrounded_iff {compiled : Compiled α} {handle : Nat} :
    ¬ compiled.IsGrounded handle ↔ ∃ origin, ReflTransGen compiled.StepsBack handle origin ∧
      (TransGen compiled.StepsBack origin origin ∨ compiled.IsSink origin) := by
  unfold IsGrounded
  push Not
  refine exists_congr fun origin => and_congr_right fun _ => ?_
  rw [← or_iff_not_imp_left, or_comm]

section Tick

variable [Scalar α] {compiled : Compiled α} (wellFormed : compiled.WellFormed)
include wellFormed

/-- A computing block is unsettled after the resolution of a tick if a walk back from it leads to a
cycle or a sink, and reads zero then. -/
theorem unsettled_iff_of_settlePhase {limit : Nat} (room : 0 < limit) {given : List (String × α)}
    {start final : RunState α} {resolution : Resolution} (fits : start.Fits compiled)
    (settles : Completes (compiled.settlePhase limit given) start resolution final) {handle : Nat}
    (computes : compiled.Computes handle) :
    (final.isSettled handle = false ↔ ∃ origin, ReflTransGen compiled.StepsBack handle origin ∧
      (TransGen compiled.StepsBack origin origin ∨ compiled.IsSink origin)) ∧
    (final.isSettled handle = false → final.outputOf handle = 0.0) := by
  obtain ⟨opened, count, settled⟩ := exists_settles wellFormed room settles
  have settles_iff : final.isSettled handle = true ↔ compiled.IsGrounded handle := by
    rw [settled.isSettled_iff wellFormed fits]
    constructor
    · exact fun settles => settles.isGrounded wellFormed
    · exact fun grounded => .inr (.inr ⟨computes, grounded⟩)
  refine ⟨?_, settled.restsAtZero wellFormed fits handle⟩
  rw [← not_isGrounded_iff, ← settles_iff, Bool.not_eq_true]

end Tick

/-- **The check for loops predicts what stays unsettled**, up to what sinks drive: a block that
computes its output is unsettled after the resolution of a tick, and reads zero, exactly if it lies
on a reported loop or is reached from one, or from a sink, through blocks that compute. The blocks
on reported loops are those whose ids the findings name. -/
theorem unsettled_iff_predicted [Host] [Scalar α] {diagram : Diagram String}
    {defaultDt defaultRuntime : Setting α} {before after validBefore validAfter : List Notice}
    {compiled validated : Compiled α} {limit : Nat} {given : List (String × α)}
    {start final : RunState α} {resolution : Resolution}
    (compiles : Completes (ofDiagram diagram defaultDt defaultRuntime) before compiled after)
    (validates : Completes (ofDiagram diagram standardDt standardRuntime) validBefore validated
      validAfter)
    (reachable : compiled.Reachable start) (room : 0 < limit)
    (settles : Completes (compiled.settlePhase limit given) start resolution final) :
    (∀ handle, compiled.Computes handle →
      (final.isSettled handle = false ↔ ∃ origin, ReflTransGen compiled.StepsBack handle origin ∧
        (validated.IsReported origin ∨ compiled.IsSink origin)) ∧
      (final.isSettled handle = false → final.outputOf handle = 0.0)) ∧
    (diagram.ids.Nodup → ∀ handle, validated.IsReported handle ↔
      ∃ finding ∈ Validation.algebraicLoops validated,
        ∃ id ∈ finding.blocks, diagram.ids[handle]? = some id) := by
  -- The check compiles with defaults of its own, which show in the parameters but not in the wiring.
  have wiring := stepsBack_eq_of_outline (outline_eq_of_completes compiles validates)
  have reported (origin : Nat) :
      validated.IsReported origin ↔ TransGen compiled.StepsBack origin origin := by
    rw [wiring]
    exact (wellFormed_of_completes validates).exists_loop_iff
  refine ⟨?_, fun nodup handle => isReported_iff_exists_finding nodup validates⟩
  intro handle computes
  simp only [reported]
  exact unsettled_iff_of_settlePhase (wellFormed_of_completes compiles) room reachable.fits settles
    computes

open Host.Usual

/-- With cycles, a sink that drives a gain and a mirror in one diagram. -/
theorem unsettled_iff_predicted_mixedDiagram :
    ∃ (compiled : Compiled Rat) (after : List Notice) (start : RunState Rat)
      (resolution : Resolution) (final : RunState Rat),
      Completes (ofDiagram mixedDiagram standardDt standardRuntime) [] compiled after ∧
      compiled.Reachable start ∧
      Completes (compiled.settlePhase 100 []) start resolution final ∧
      (∀ handle, compiled.Computes handle →
        (final.isSettled handle = false ↔ ∃ origin, ReflTransGen compiled.StepsBack handle origin ∧
          (compiled.IsReported origin ∨ compiled.IsSink origin)) ∧
        (final.isSettled handle = false → final.outputOf handle = 0.0)) ∧
      ∀ handle, compiled.IsReported handle ↔ ∃ finding ∈ Validation.algebraicLoops compiled,
        ∃ id ∈ finding.blocks, mixedDiagram.ids[handle]? = some id := by
  obtain ⟨compiled, after, start, opened, compiles, reachable, opens, -⟩ := mixedDiagram_opens
  obtain ⟨resolution, final, settles⟩ :=
    exists_completes_settlePhase (wellFormed_of_completes compiles) 100 opens
  obtain ⟨unsettled, reported⟩ :=
    unsettled_iff_predicted compiles compiles reachable (by decide) settles
  exact ⟨compiled, after, start, resolution, final, compiles, reachable, settles, unsettled,
    reported (by decide)⟩

/-- A constant feeds a scope, and the scope a gain. -/
def scopeDiagram : Diagram String where
  blocks := [⟨"c", "constant", []⟩, ⟨"s", "scope", []⟩, ⟨"t", "gain", []⟩]
  connections := [⟨"c", "s", 0, 0⟩, ⟨"s", "t", 0, 0⟩]
  vars := []
  runtime := .null
  dt := .null
  nextId := 1

/-- Behind a sink a block stays unsettled though the check reports no loop at all. -/
theorem unsettled_not_reported_scopeDiagram :
    ∃ (compiled : Compiled Rat) (after : List Notice) (start : RunState Rat)
      (resolution : Resolution) (final : RunState Rat),
      Completes (ofDiagram scopeDiagram standardDt standardRuntime) [] compiled after ∧
      compiled.Reachable start ∧
      Completes (compiled.settlePhase 100 []) start resolution final ∧ compiled.Computes 2 ∧
      ¬ (final.isSettled 2 = false ↔
        ∃ origin, ReflTransGen compiled.StepsBack 2 origin ∧ compiled.IsReported origin) := by
  have runs : (outcome (ofDiagram scopeDiagram (standardDt : Setting Rat) standardRuntime)
      []).1.toOption.any (fun compiled =>
        ((Cycles.loops compiled).isEmpty && ((compiled.nodes[1]?.any (·.phase == .sink)) &&
          compiled.nodes[2]?.any fun node => node.phase == .algebraic && !node.seedsLoop &&
            node.driverHandles.contains 1)) &&
        (RunState.create compiled).toOption.any fun start =>
          (outcome (compiled.outputPhase []) start.clear).1.toOption.any fun _ => true) = true := by
    decide +kernel
  obtain ⟨compiled, after, compiles, runs⟩ := exists_completes_of_any runs
  rw [Bool.and_eq_true, Bool.and_eq_true, Bool.and_eq_true, List.isEmpty_iff] at runs
  obtain ⟨⟨noLoop, isSink, isGain⟩, runs⟩ := runs
  obtain ⟨start, created, runs⟩ := exists_of_toOption_any runs
  obtain ⟨_, opened, opens, -⟩ := exists_completes_of_any runs
  have reachable : compiled.Reachable start := .start created
  have wellFormed := wellFormed_of_completes compiles
  obtain ⟨resolution, final, settles⟩ := exists_completes_settlePhase wellFormed 100 opens
  obtain ⟨scope, scopeFound, scopePhase⟩ := (Option.any_eq_true _ _).mp isSink
  obtain ⟨gain, gainFound, gainPasses⟩ := (Option.any_eq_true _ _).mp isGain
  rw [Bool.and_eq_true, Bool.and_eq_true, beq_iff_eq, Bool.not_eq_true',
    List.contains_iff_mem] at gainPasses
  obtain ⟨⟨algebraic, noSeed⟩, driven⟩ := gainPasses
  have computes : compiled.Computes 2 := ⟨gain, gainFound, algebraic, noSeed⟩
  have step : compiled.StepsBack 2 1 := by
    refine ⟨computes, ?_⟩
    rw [driversOf_of_getElem? gainFound]
    exact driven
  have unsettled : final.isSettled 2 = false := by
    rw [(unsettled_iff_of_settlePhase wellFormed (by decide) reachable.fits settles computes).1]
    exact ⟨1, .single step, .inr ⟨scope, scopeFound, beq_iff_eq.mp scopePhase⟩⟩
  refine ⟨compiled, after, start, resolution, final, compiles, reachable, settles, computes,
    fun predicted => ?_⟩
  obtain ⟨origin, -, members, isLoop, -⟩ := predicted.mp unsettled
  rw [noLoop] at isLoop
  cases isLoop

end Compiled

end SignalFlow
