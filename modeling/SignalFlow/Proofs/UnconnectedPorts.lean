import SignalFlow.Host.Usual
import SignalFlow.Proofs.Connections

/-! # Ports without a driver

Validating reports an input port that no connection of the diagram ends at; compiling leaves a port
without a driver if no connection to it is kept. The two differ at ports that a connection from a
block outside the diagram ends at (`Diagram.Dangles`): it is dropped, yet hides its port from the
validation (`Compiled.not_reported_danglingDiagram`). At every other port a finding and a
missing driver come together (`Compiled.unconnected_agree`), and a port without a driver reads the
fallback of its kind in every tick (`Node.ReadsFallback`).
-/

namespace SignalFlow

variable {α : Type}

/-! ## Connections that dangle -/

namespace Diagram

variable {diagram : Diagram String} {target : String} {port : Nat}

/-- A connection to a port starts at no block of the diagram. -/
def Dangles (diagram : Diagram String) (target : String) (port : Nat) : Prop :=
  ∃ connection ∈ Validation.connectionsTo diagram.connections target port,
    connection.source ∉ diagram.ids

/-- A connection to a port of a block is dropped if and only if it starts at no block. -/
theorem mem_keptTo (isBlock : target ∈ diagram.ids) {connection : Connection String} :
    connection ∈ diagram.keptTo target port ↔
      connection ∈ Validation.connectionsTo diagram.connections target port ∧
        connection.source ∈ diagram.ids := by
  rw [keptTo, Validation.mem_connectionsTo, Validation.mem_connectionsTo, mem_kept, drops_iff]
  constructor
  · rintro ⟨⟨listed, notDropped⟩, aimed⟩
    exact ⟨⟨listed, aimed⟩, by_contra fun unknown => notDropped (.inl unknown)⟩
  · rintro ⟨⟨listed, sameTarget, samePort⟩, known⟩
    refine ⟨⟨listed, ?_⟩, sameTarget, samePort⟩
    rintro (unknown | unknown | negative)
    · exact unknown known
    · exact unknown (sameTarget ▸ isBlock)
    · rw [samePort] at negative
      exact absurd negative (Int.not_lt.mpr (Int.natCast_nonneg port))

/-- No connection ends at a port if none is kept and none dangles there. -/
theorem connectionsTo_eq_nil_iff (isBlock : target ∈ diagram.ids) :
    Validation.connectionsTo diagram.connections target port = [] ↔
      diagram.keptTo target port = [] ∧ ¬ diagram.Dangles target port := by
  simp only [List.eq_nil_iff_forall_not_mem, mem_keptTo isBlock, Dangles]
  constructor
  · intro absent
    refine ⟨fun connection kept => absent connection kept.1, ?_⟩
    rintro ⟨connection, listed, -⟩
    exact absent connection listed
  · rintro ⟨noneKept, noneDangles⟩ connection listed
    by_cases known : connection.source ∈ diagram.ids
    · exact noneKept connection ⟨listed, known⟩
    · exact noneDangles ⟨connection, listed, known⟩

end Diagram

/-! ## What is found about input ports -/

namespace Validation

variable {diagram : Diagram String} {findings : List Finding}

theorem mem_unconnectedPorts {finding : Finding} : finding ∈ unconnectedPorts diagram ↔
    ∃ block ∈ diagram.blocks, block.kind.requiresInputs = true ∧
      ∃ port < block.kind.inputs.length, connectionsTo diagram.connections block.id port = [] ∧
        finding = .unconnected block.id port (Payload.fallback block.kind) := by
  rw [unconnectedPorts, List.mem_flatMap]
  refine exists_congr fun block => and_congr_right fun _ => ?_
  simp only [List.mem_ite_nil_right, List.mem_map, List.mem_filter, List.mem_range,
    List.isEmpty_iff, and_assoc, @eq_comm _ finding]

/-- The ports that are found without a connection are those without one. -/
theorem unconnected_iff_of_findingsOf [Host] {compiled : Compiled α}
    (found : findingsOf diagram compiled = .ok findings) {id : String} {port : Nat}
    {reads : Float} : .unconnected id port reads ∈ findings ↔
      ∃ block ∈ diagram.blocks, block.id = id ∧ block.kind.requiresInputs = true ∧
        port < block.kind.inputs.length ∧
        connectionsTo diagram.connections id port = [] ∧
        reads = Payload.fallback block.kind := by
  have listed : .unconnected id port reads ∈ findings ↔
      .unconnected id port reads ∈ unconnectedPorts diagram := by
    rw [← filter_input_of_findingsOf found, List.mem_filter]
    exact (and_iff_left rfl).symm
  rw [listed, mem_unconnectedPorts]
  constructor
  · rintro ⟨block, isBlock, requires, place, inside, unconnected, same⟩
    obtain ⟨rfl, rfl, rfl⟩ := Finding.unconnected.inj same
    exact ⟨block, isBlock, rfl, requires, inside, unconnected, rfl⟩
  · rintro ⟨block, isBlock, rfl, requires, inside, unconnected, rfl⟩
    exact ⟨block, isBlock, requires, port, inside, unconnected, rfl⟩

end Validation

/-! ## What ports read -/

namespace Node

variable [Scalar α] {node : Node α} {port : Nat}

/-- A block reads the fallback of its kind at a port, whatever the outputs of a tick are. -/
def ReadsFallback (node : Node α) (port : Nat) : Prop :=
  ∀ (outputs : Array α) (value : α),
    ((port : Int), value) ∈ node.inputs outputs ↔ value = Payload.fallback node.kind

theorem readsFallback_of_driver? (isPort : port ∈ node.ports)
    (undriven : node.driver? port = none) : node.ReadsFallback port := by
  intro outputs value
  rw [inputs, List.mem_map]
  constructor
  · rintro ⟨other, -, same⟩
    obtain rfl : other = port := by
      have := congrArg Prod.fst same
      split at this <;> exact Int.ofNat_inj.mp this
    rw [undriven] at same
    exact (congrArg Prod.snd same).symm
  · rintro rfl
    exact ⟨port, isPort, by rw [undriven]⟩

end Node

/-! ## Agreement -/

namespace Compiled

/-- What is found about input ports agrees with the drivers that compiling gives them. -/
structure PortsAgree [Scalar α] (diagram : Diagram String) (compiled : Compiled α)
    (findings : List Finding) : Prop where
  about {id : String} {port : Nat} {reads : Float} : .unconnected id port reads ∈ findings →
    ∃ block ∈ diagram.blocks, block.id = id ∧ block.kind.requiresInputs = true ∧
      port < block.kind.inputs.length ∧ reads = Payload.fallback block.kind
  port {handle port : Nat} {block : Block String} : diagram.blocks[handle]? = some block →
    block.kind.requiresInputs = true → port < block.kind.inputs.length →
      ∃ node, compiled.nodes[handle]? = some node ∧ node.id = block.id ∧ node.kind = block.kind ∧
        ((∃ reads, .unconnected block.id port reads ∈ findings) ↔
          node.driver? port = none ∧ ¬ diagram.Dangles block.id port) ∧
        (node.driver? port = none → node.ReadsFallback port)

section Agreement

variable [Host] [Scalar α] {diagram : Diagram String} {defaultDt defaultRuntime : Setting α}
  {before after : List Notice} {compiled : Compiled α}
  (compiles : Completes (ofDiagram diagram defaultDt defaultRuntime) before compiled after)
  (nodup : diagram.ids.Nodup) {handle port : Nat} {block : Block String}
  (isBlock : diagram.blocks[handle]? = some block) (inside : port < block.kind.inputs.length)
include compiles nodup isBlock inside

/-- An input port of a block has no driver if and only if no connection to it is kept, and then it
reads the fallback. -/
theorem exists_port_of_completes :
    ∃ node, compiled.nodes[handle]? = some node ∧ node.id = block.id ∧ node.kind = block.kind ∧
      (node.driver? port = none ↔ diagram.keptTo block.id port = []) ∧
      (node.driver? port = none → node.ReadsFallback port) := by
  obtain ⟨constants, dt, runtime, payloads, resolved, rfl⟩ :=
    completes_ofDiagram_iff.mp ⟨after, compiles⟩
  -- A label source has no input port, so binding leaves the drivers of the block alone.
  have isOther : block.kind ≠ .labelSource := by
    intro isSource
    rw [isSource] at inside
    exact absurd inside (Nat.not_lt_zero port)
  obtain ⟨node, nodeFound, -, drivers⟩ := driver?_assemble resolved.payloads_eq.length_eq.symm
    isBlock fun matched => isOther matched.1
  have isNode := isNodeOf_assemble resolved isBlock nodeFound
  refine ⟨node, nodeFound, isNode.id_eq, isNode.kind_eq, ?_, ?_⟩
  · have related := rel_driver?_keptTo nodup isBlock port
    rw [drivers, ← List.getLast?_eq_none_iff]
    generalize Wiring.driver? _ handle port = driver? at related ⊢
    generalize List.getLast? _ = last? at related ⊢
    cases related <;> simp
  · refine Node.readsFallback_of_driver? (mem_ports_assemble nodeFound ?_ ?_)
    · rwa [isNode.kind_eq]
    · rwa [isNode.kind_eq]

end Agreement

/-- **A port is reported if it has no driver**, unless a connection from a block outside the diagram
ends at it: of the input ports of the blocks that require inputs, those and no others are reported
as not connected, each with the fallback that it reads in every tick for want of a driver. Only
poles that are not found keep validating from telling so. -/
theorem unconnected_agree [Host] [Scalar α] {diagram : Diagram String}
    {defaultDt defaultRuntime : Setting α} {before after validBefore validAfter : List Notice}
    {compiled : Compiled α} {validated : Compiled Float}
    (compiles : Completes (ofDiagram diagram defaultDt defaultRuntime) before compiled after)
    (validates : Completes (ofDiagram diagram standardDt standardRuntime) validBefore validated
      validAfter) (nodup : diagram.ids.Nodup) :
    ((∃ findings, Completes (Validation.findings diagram) validBefore findings validAfter) ↔
      Validation.FindsPoles diagram validated.constants) ∧
    ∀ findings later, Completes (Validation.findings diagram) validBefore findings later →
      PortsAgree diagram compiled findings := by
  refine ⟨Validation.exists_completes_findings_iff validates, fun findings later tells => ?_⟩
  have found := ((Validation.completes_findings_iff validates).mp tells).1
  constructor
  · intro id port reads reported
    obtain ⟨block, isBlock, same, requires, inside, -, isFallback⟩ :=
      (Validation.unconnected_iff_of_findingsOf found).mp reported
    exact ⟨block, isBlock, same, requires, inside, isFallback⟩
  · intro handle port block isBlock requires inside
    obtain ⟨node, nodeFound, id_eq, kind_eq, undriven, reads⟩ :=
      exists_port_of_completes compiles nodup isBlock inside
    have member := List.mem_of_getElem? isBlock
    refine ⟨node, nodeFound, id_eq, kind_eq, ?_, reads⟩
    rw [undriven, ← Diagram.connectionsTo_eq_nil_iff (List.mem_map_of_mem member)]
    constructor
    · rintro ⟨value, reported⟩
      obtain ⟨_, -, -, -, -, unconnected, -⟩ :=
        (Validation.unconnected_iff_of_findingsOf found).mp reported
      exact unconnected
    · intro unconnected
      exact ⟨_, (Validation.unconnected_iff_of_findingsOf found).mpr
        ⟨block, member, rfl, requires, inside, unconnected, rfl⟩⟩

/-- The gain `g` is driven, `free` has no connection but a dropped one to a negative port, and
`lost` has no connection but one from a block outside the diagram. -/
def danglingDiagram : Diagram String where
  blocks := [⟨"c", "constant", []⟩, ⟨"g", "gain", []⟩, ⟨"lost", "gain", []⟩, ⟨"free", "gain", []⟩]
  connections := [⟨"c", "g", 0, 0⟩, ⟨"ghost", "lost", 0, 0⟩, ⟨"c", "free", 0, -1⟩,
    ⟨"free", "ghost", 0, 0⟩]
  vars := []
  runtime := .null
  dt := .null
  nextId := 1

open Host.Usual

theorem unconnected_agree_danglingDiagram :
    ∃ (compiled : Compiled Rat) (after : List Notice) (validated : Compiled Float)
      (validAfter : List Notice) (findings : List Finding),
      Completes (ofDiagram danglingDiagram standardDt standardRuntime) [] compiled after ∧
      Completes (ofDiagram danglingDiagram standardDt standardRuntime) [] validated validAfter ∧
      danglingDiagram.ids.Nodup ∧
      compiled.nodes.toList.map (·.driver? 0) = [none, some 0, none, none] ∧
      Completes (Validation.findings danglingDiagram) [] findings validAfter ∧
      PortsAgree danglingDiagram compiled findings := by
  have runs : (outcome (ofDiagram danglingDiagram (standardDt : Setting Rat) standardRuntime)
      []).1.toOption.any (fun compiled =>
        compiled.nodes.toList.map (·.driver? 0) == [none, some 0, none, none]) = true := by
    decide +kernel
  have validRuns : (outcome (ofDiagram danglingDiagram (standardDt : Setting Float) standardRuntime)
      []).1.toOption.any (fun _ => true) = true := by
    decide +kernel
  obtain ⟨compiled, after, compiles, undriven⟩ := exists_completes_of_any runs
  obtain ⟨validated, validAfter, validates, -⟩ := exists_completes_of_any validRuns
  have nodup : danglingDiagram.ids.Nodup := by decide
  obtain ⟨complete, agree⟩ := unconnected_agree compiles validates nodup
  obtain ⟨findings, tells⟩ := complete.mpr (Validation.findsPoles_of_noTransfer (by decide) _)
  exact ⟨compiled, after, validated, validAfter, findings, compiles, validates, nodup,
    beq_iff_eq.mp undriven, tells, agree findings validAfter tells⟩

/-- The port of the gain `lost` has no driver, yet is not reported. -/
theorem not_reported_danglingDiagram :
    ∃ (compiled : Compiled Float) (after : List Notice) (findings : List Finding),
      Completes (ofDiagram danglingDiagram standardDt standardRuntime) [] compiled after ∧
      Completes (Validation.findings danglingDiagram) [] findings after ∧
      danglingDiagram.blocks[2]? = some ⟨"lost", "gain", []⟩ ∧
      Kind.gain.requiresInputs = true ∧ 0 < Kind.gain.inputs.length ∧
      (compiled.nodes[2]?.map (·.driver? 0)) = some none ∧
      ∀ reads, .unconnected "lost" 0 reads ∉ findings := by
  have runs : (outcome (ofDiagram danglingDiagram (standardDt : Setting Float) standardRuntime)
      []).1.toOption.any (fun compiled =>
        compiled.nodes[2]?.map (·.driver? 0) == some none) = true := by
    decide +kernel
  obtain ⟨compiled, after, compiles, undriven⟩ := exists_completes_of_any runs
  obtain ⟨findings, tells⟩ := (Validation.exists_completes_findings_iff compiles).mpr
    (Validation.findsPoles_of_noTransfer (by decide) _)
  have found := ((Validation.completes_findings_iff compiles).mp tells).1
  refine ⟨compiled, after, findings, compiles, tells, rfl, by decide, by decide,
    beq_iff_eq.mp undriven, ?_⟩
  intro reads reported
  obtain ⟨_, -, -, -, -, unconnected, -⟩ :=
    (Validation.unconnected_iff_of_findingsOf found).mp reported
  exact absurd unconnected (by decide)

end Compiled

end SignalFlow
