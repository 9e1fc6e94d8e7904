import SignalFlow.Code.Program
import SignalFlow.Host.Usual
import SignalFlow.Proofs.Dependency

/-! # The layout of a compiled diagram

Every block of a diagram keeps its place when the diagram is compiled, and gets its turn in exactly
one of the three orders of a tick, the one that its phase demands (`Compiled.IsLayoutOf`). That
holds of what the engine visits as well as of what a generated program is made of. Transfer
functions choose their phase by their payload, and binding label sources to label sinks replaces
phases, drivers and ports afterwards; none of that disturbs the layout.
-/

namespace SignalFlow

variable {α : Type}

namespace Compiled

/-! ## Ports and drivers -/

theorem exists_connection_of_driver? {ids : List String} {connections : List (Connection String)}
    {target port driver : Nat}
    (driven : Wiring.driver? (Wiring.wires ids connections) target port = some driver) :
    ∃ connection ∈ connections, ids[driver]? = some connection.source ∧
      connection.targetPort = port := by
  obtain ⟨wire, last, rfl⟩ := Option.map_eq_some_iff.mp driven
  obtain ⟨member, aimed⟩ := List.mem_filter.mp (List.mem_of_getLast? last)
  rw [Bool.and_eq_true, beq_iff_eq, beq_iff_eq] at aimed
  obtain ⟨connection, listed, wired⟩ := exists_wire?_of_mem_wires member
  obtain ⟨source, -, targetPort⟩ := wire?_eq_ok_iff.mp wired
  obtain ⟨inside, found, -⟩ := List.idxOf?_eq_some_iff.mp source
  refine ⟨connection, listed, List.getElem?_eq_some_iff.mpr ⟨inside, found⟩, ?_⟩
  rw [targetPort, aimed.2]
  rfl

section Drivers

variable [Scalar α] {wires : List Wire} {handle port driver : Nat} {block : Block String}
  {payload : Payload α}

theorem mem_drivers_wired :
    (port, driver) ∈ (wired wires handle block payload).drivers ↔
      port ∈ Wiring.ports wires block.kind handle ∧
        Wiring.driver? wires handle port = some driver := by
  simp only [wired, List.mem_filterMap, Option.map_eq_some_iff, Prod.mk.injEq]
  constructor
  · rintro ⟨other, listed, found, driven, rfl, rfl⟩
    exact ⟨listed, driven⟩
  · rintro ⟨listed, driven⟩
    exact ⟨port, listed, driver, driven, rfl, rfl⟩

/-- A wired label source carries the name of its signal. -/
theorem label_wired (isSource : block.kind = .labelSource) :
    (wired wires handle block payload).label = some (labelName block) := by
  simp [wired, isSource]

end Drivers

section Assemble

variable [Scalar α] {diagram : Diagram String} {constants : Constants} {dt runtime : Setting α}
  {payloads : List (Payload α)}

/-- Among the wired blocks of a diagram a name has a label sink if a block is one of that name. -/
theorem sink?_wiredNodes_eq_none_iff (length_eq : payloads.length = diagram.blocks.length)
    {name : String} :
    sink? (wiredNodes diagram payloads) (some name) = none ↔
      ∀ block ∈ diagram.blocks, block.kind = .labelSink → labelName block ≠ name := by
  rw [sink?_eq_none_iff]
  constructor
  · intro absent block member isSink
    obtain ⟨handle, inside, rfl⟩ := List.getElem_of_mem member
    have payloadInside : handle < payloads.length := length_eq ▸ inside
    have found : (wiredNodes diagram payloads)[handle]? = some (wired
        (Wiring.wires diagram.ids diagram.connections) handle diagram.blocks[handle]
        payloads[handle]) := by
      simp [getElem?_wiredNodes, inside, payloadInside]
    have different := absent _ (List.mem_of_getElem? found) isSink
    simpa [wired, isSink] using different
  · intro absent node member isSink
    obtain ⟨handle, found⟩ := List.getElem?_of_mem member
    rw [getElem?_wiredNodes, Option.map_eq_some_iff] at found
    obtain ⟨⟨block, payload⟩, zipped, rfl⟩ := found
    have blockIsSink : block.kind = .labelSink := isSink
    have blockFound := (List.getElem?_zip_eq_some.mp zipped).1
    have different := absent block (List.mem_of_getElem? blockFound) blockIsSink
    simpa [wired, blockIsSink] using different

variable {handle : Nat} {node : Node α}
  (found : (assemble diagram constants dt runtime payloads).nodes[handle]? = some node)
include found

theorem ports_assemble : node.ports.Pairwise (· < ·) := by
  obtain ⟨block, payload, -, -, rfl⟩ := exists_of_getElem?_assemble found
  rcases bind_drivers_cases (wiredNodes diagram payloads) (wired _ handle block payload) with
    ⟨-, same⟩ | ⟨single, -⟩
  · rw [same]
    exact pairwise_lt_mergeSort_eraseDups _
  · rw [single]
    exact List.pairwise_singleton _ _

/-- A block has the ports of its kind, whether they are driven or not. -/
theorem mem_ports_assemble (isOther : node.kind ≠ .labelSource) {port : Nat}
    (inside : port < node.kind.inputs.length) : port ∈ node.ports := by
  obtain ⟨block, payload, -, -, rfl⟩ := exists_of_getElem?_assemble found
  rw [bind_kind] at isOther inside
  rw [bind_of_kind_ne isOther]
  have listed : port < block.kind.inputs.length := inside
  simp [wired, Wiring.ports, listed]

theorem drivers_assemble {port driver : Nat} (drives : (port, driver) ∈ node.drivers) :
    port ∈ node.ports ∧ ∃ connection ∈ diagram.connections,
      diagram.ids[driver]? = some connection.source ∧ connection.targetPort = port := by
  obtain ⟨block, payload, -, -, rfl⟩ := exists_of_getElem?_assemble found
  rcases bind_drivers_cases (wiredNodes diagram payloads) (wired _ handle block payload) with
    ⟨drivers, ports⟩ | ⟨ports, sink, member, drivers⟩
  · rw [drivers, mem_drivers_wired] at drives
    rw [ports]
    exact ⟨drives.1, exists_connection_of_driver? drives.2⟩
  · -- A bound label source has the one port whose driver it takes over from the label sink.
    rw [drivers, Option.mem_toList, Option.map_eq_some_iff] at drives
    obtain ⟨sinkDriver, driven, same⟩ := drives
    obtain ⟨rfl, rfl⟩ := Prod.mk.inj same
    obtain ⟨place, sinkFound⟩ := List.getElem?_of_mem member
    rw [getElem?_wiredNodes, Option.map_eq_some_iff] at sinkFound
    obtain ⟨pair, -, rfl⟩ := sinkFound
    refine ⟨by simp [ports], ?_⟩
    exact exists_connection_of_driver? (mem_drivers_wired.mp (mem_drivers_of_driver? driven)).2

end Assemble

/-! ## Turns -/

/-- The handles that have their turn in a tick, one after the other. -/
def turns (compiled : Compiled α) : List Nat :=
  compiled.outputOrder ++ compiled.algebraicOrder ++ compiled.sinkOrder

/-- A block has its turn in the order that its phase demands, and in no other. -/
structure HasTurn (compiled : Compiled α) (handle : Nat) (phase : Phase) : Prop where
  output_iff : handle ∈ compiled.outputOrder ↔ phase = .source ∨ phase = .memory
  algebraic_iff : handle ∈ compiled.algebraicOrder ↔ phase = .algebraic
  sink_iff : handle ∈ compiled.sinkOrder ↔ phase = .sink

namespace WellFormed

variable [Scalar α] {compiled : Compiled α} (wellFormed : compiled.WellFormed)
include wellFormed

theorem hasTurn {handle : Nat} {node : Node α} (found : compiled.nodes[handle]? = some node) :
    compiled.HasTurn handle node.phase := by
  refine ⟨?_, ?_, ?_⟩
  · rw [wellFormed.mem_outputOrder]
    simp [found]
  · rw [wellFormed.mem_algebraicOrder, IsAlgebraic]
    simp [found]
  · rw [wellFormed.mem_sinkOrder]
    simp [found]

theorem lt_of_mem_turns {handle : Nat} (member : handle ∈ compiled.turns) :
    handle < compiled.nodes.size := by
  rw [turns, List.mem_append, List.mem_append, wellFormed.mem_algebraicOrder] at member
  rcases member with (listed | ⟨node, found, -⟩) | listed
  · exact wellFormed.lt_of_mem_outputOrder listed
  · exact (Array.getElem?_eq_some_iff.mp found).1
  · exact wellFormed.lt_of_mem_sinkOrder listed

theorem turns_nodup : compiled.turns.Nodup := by
  -- A handle that two orders share would be that of a block in two phases.
  have apart {handle : Nat} (inside : handle < compiled.nodes.size) :=
    wellFormed.hasTurn (Array.getElem?_eq_getElem inside)
  rw [turns, List.nodup_append, List.nodup_append]
  refine ⟨⟨wellFormed.outputOrder_nodup, wellFormed.algebraicOrder_nodup, ?_⟩,
    wellFormed.sinkOrder_nodup, ?_⟩
  · rintro handle first other second rfl
    have turn := apart (wellFormed.lt_of_mem_outputOrder first)
    rcases turn.output_iff.mp first with phase | phase <;>
      cases phase.symm.trans (turn.algebraic_iff.mp second)
  · rintro handle first other second rfl
    have turn := apart (wellFormed.lt_of_mem_sinkOrder second)
    have phase := turn.sink_iff.mp second
    rcases List.mem_append.mp first with listed | listed
    · rcases turn.output_iff.mp listed with other | other <;> cases phase.symm.trans other
    · cases phase.symm.trans (turn.algebraic_iff.mp listed)

theorem turns_perm : compiled.turns.Perm (List.range compiled.nodes.size) := by
  rw [List.perm_ext_iff_of_nodup wellFormed.turns_nodup List.nodup_range]
  intro handle
  rw [List.mem_range]
  refine ⟨wellFormed.lt_of_mem_turns, fun inside => ?_⟩
  rw [turns, List.mem_append, List.mem_append, wellFormed.mem_algebraicOrder,
    wellFormed.mem_sinkOrder, or_assoc]
  exact wellFormed.phase_cases inside

end WellFormed

theorem filterMap_getElem?_range {β : Type} (items : List β) :
    (List.range items.length).filterMap (items[·]?) = items := by
  induction items with
  | nil => rfl
  | cons item rest ih =>
      rw [List.length_cons, List.range_succ_eq_map, List.filterMap_cons, List.filterMap_map]
      simpa [Function.comp_def] using ih

/-! ## Layouts -/

/-- The parts of a generated tick are made of the code of the blocks, that of each block in the part
that its phase demands. -/
structure SplitsCode [Scalar α] (tick : Code.Tick α) (compiled : Compiled α)
    (coded outputs algebraic sinks : List (Node α × Code.BlockCode α)) : Prop where
  perm : (outputs ++ algebraic ++ sinks).Perm coded
  outputs_phase : ∀ item ∈ outputs, item.1.phase = .source ∨ item.1.phase = .memory
  algebraic_phase : ∀ item ∈ algebraic, item.1.phase = .algebraic
  sinks_phase : ∀ item ∈ sinks, item.1.phase = .sink
  outputs_eq : tick.outputs = outputs.flatMap fun item => Code.Program.readOutput item.1 item.2
  pass_eq : tick.pass = algebraic.flatMap fun item => Code.Program.visit item.1 item.2
  sinks_eq : tick.sinks = (sinks.flatMap fun item => Code.Program.readOutput item.1 item.2) ++
    compiled.outputHandles.map fun output => .publish output.1 output.2

/-- A compiled block is that of a block of a diagram: it has its parameters, resolved, and the phase
that these demand, unless it is a label source without a label sink. -/
structure IsNodeOf [Host] [Scalar α] (compiled : Compiled α) (diagram : Diagram String)
    (handle : Nat)
    (block : Block String) (node : Node α) : Prop where
  handle_eq : node.handle = handle
  id_eq : node.id = block.id
  type_eq : node.type = block.type
  kind_eq : node.kind = block.kind
  payload_eq : Payload.resolved compiled.constants compiled.dt block = .ok node.payload
  phase_eq : node.phase = if node.external then .source else node.payload.phase
  external_iff : node.external = true ↔ block.kind = .labelSource ∧
    ∀ other ∈ diagram.blocks, other.kind = .labelSink → labelName other ≠ labelName block

namespace IsNodeOf

variable [Host] [Scalar α] {compiled : Compiled α} {diagram : Diagram String} {handle : Nat}
  {block : Block String} {node : Node α} (isNode : IsNodeOf compiled diagram handle block node)
include isNode

theorem payload_kind : node.payload.kind = node.kind :=
  (Payload.kind_of_resolved isNode.payload_eq).trans isNode.kind_eq.symm

/-- Only label sources are inputs of the diagram. -/
theorem external_eq_false (isOther : node.kind ≠ .labelSource) : node.external = false := by
  rw [Bool.eq_false_iff, Ne, isNode.external_iff, ← isNode.kind_eq]
  exact fun isSource => isOther isSource.1

/-- The phase of a block is that of its payload, unless it is an input of the diagram. -/
theorem payload_phase (inner : node.external = false) : node.payload.phase = node.phase := by
  rw [isNode.phase_eq, inner, if_neg Bool.false_ne_true]

end IsNodeOf

/-- Each block of a diagram has its place in a compiled diagram and its turn in a tick. -/
structure IsLayoutOf [Host] [Scalar α] (compiled : Compiled α) (diagram : Diagram String) :
    Prop where
  size_eq : compiled.nodes.size = diagram.blocks.length
  block {handle : Nat} {block : Block String} : diagram.blocks[handle]? = some block →
    diagram.ids.idxOf? block.id = some handle ∧
      ∃ node, compiled.nodes[handle]? = some node ∧ IsNodeOf compiled diagram handle block node
  turns_perm : compiled.turns.Perm (List.range compiled.nodes.size)
  turn {handle : Nat} {node : Node α} : compiled.nodes[handle]? = some node →
    compiled.HasTurn handle node.phase
  driver {handle port driver : Nat} {node : Node α} : compiled.nodes[handle]? = some node →
    (port, driver) ∈ node.drivers → driver < compiled.nodes.size ∧ port ∈ node.ports ∧
      ∃ connection ∈ diagram.connections, diagram.ids[driver]? = some connection.source ∧
        connection.targetPort = port
  ports {handle : Nat} {node : Node α} : compiled.nodes[handle]? = some node →
    node.ports.Pairwise (· < ·)
  visits : (compiled.turns.filterMap (compiled.nodes[·]?)).Perm compiled.nodes.toList
  programs {codes : List (Code.BlockCode α)} : codes.length = compiled.nodes.size →
    ∃ outputs algebraic sinks,
      SplitsCode (Code.Program.tickOf compiled (compiled.nodes.toList.zip codes)) compiled
        (compiled.nodes.toList.zip codes) outputs algebraic sinks

section Visits

variable [Scalar α] {compiled : Compiled α} (wellFormed : compiled.WellFormed)
include wellFormed

/-- Turns take each item of a list that has one for each block exactly once. -/
theorem filterMap_turns_perm {β : Type} {items : List β}
    (length_eq : items.length = compiled.nodes.size) :
    (compiled.turns.filterMap (items[·]?)).Perm items := by
  have all := wellFormed.turns_perm.filterMap (items[·]?)
  rwa [← length_eq, filterMap_getElem?_range] at all

theorem splitsCode_tickOf {codes : List (Code.BlockCode α)}
    (length_eq : codes.length = compiled.nodes.size) :
    let coded := compiled.nodes.toList.zip codes
    SplitsCode (Code.Program.tickOf compiled coded) compiled coded
      (compiled.outputOrder.filterMap (coded[·]?)) (compiled.algebraicOrder.filterMap (coded[·]?))
      (compiled.sinkOrder.filterMap (coded[·]?)) := by
  intro coded
  have turn {handles : List Nat} {item : Node α × Code.BlockCode α}
      (member : item ∈ handles.filterMap (coded[·]?)) :
      ∃ handle ∈ handles, compiled.HasTurn handle item.1.phase := by
    obtain ⟨handle, listed, found⟩ := List.mem_filterMap.mp member
    have nodeFound := (List.getElem?_zip_eq_some.mp found).1
    rw [Array.getElem?_toList] at nodeFound
    exact ⟨handle, listed, wellFormed.hasTurn nodeFound⟩
  refine ⟨?_, ?_, ?_, ?_, rfl, rfl, rfl⟩
  · rw [← List.filterMap_append, ← List.filterMap_append]
    apply filterMap_turns_perm wellFormed
    simp [coded, length_eq]
  · intro item member
    obtain ⟨handle, listed, turn⟩ := turn member
    exact turn.output_iff.mp listed
  · intro item member
    obtain ⟨handle, listed, turn⟩ := turn member
    exact turn.algebraic_iff.mp listed
  · intro item member
    obtain ⟨handle, listed, turn⟩ := turn member
    exact turn.sink_iff.mp listed

end Visits

theorem isNodeOf_assemble [Host] [Scalar α] {diagram : Diagram String}
    {defaultDt defaultRuntime dt runtime : Setting α} {constants : Constants}
    {payloads : List (Payload α)} {handle : Nat} {block : Block String} {node : Node α}
    (resolved : IsResolved diagram defaultDt defaultRuntime constants dt runtime payloads)
    (blockFound : diagram.blocks[handle]? = some block)
    (found : (assemble diagram constants dt runtime payloads).nodes[handle]? = some node) :
    IsNodeOf (assemble diagram constants dt runtime payloads) diagram handle block node := by
  have length_eq := resolved.payloads_eq.length_eq.symm
  have wellFormed := wellFormed_assemble constants dt runtime length_eq
  have handle_eq := wellFormed.handle_eq found
  obtain ⟨other, payload, otherFound, payloadFound, rfl⟩ := exists_of_getElem?_assemble found
  obtain rfl : block = other := Option.some.inj (blockFound.symm.trans otherFound)
  obtain ⟨otherPayload, otherPayloadFound, payload_eq⟩ := resolved.getElem?_payloads blockFound
  obtain rfl : payload = otherPayload :=
    Option.some.inj (payloadFound.symm.trans otherPayloadFound)
  have unbound : (wired (Wiring.wires diagram.ids diagram.connections) handle block
      payload).external = false := rfl
  obtain ⟨external_iff, phase_eq⟩ := bind_external (wiredNodes diagram payloads) unbound
  refine ⟨handle_eq, bind_id _ _, bind_type _ _, bind_kind _ _, ?_, ?_, ?_⟩
  · rw [bind_payload]
    exact payload_eq
  · rw [bind_payload]
    exact phase_eq
  · rw [external_iff, ← sink?_wiredNodes_eq_none_iff length_eq]
    refine and_congr_right fun isSource => ?_
    rw [label_wired isSource]

/-- **A compiled diagram is a layout of the diagram**: each block has its place and its turn. -/
theorem isLayoutOf_of_completes [Host] [Scalar α] {diagram : Diagram String}
    {defaultDt defaultRuntime : Setting α} {before after : List Notice} {compiled : Compiled α}
    (nodup : diagram.ids.Nodup)
    (compiles : Completes (ofDiagram diagram defaultDt defaultRuntime) before compiled after) :
    compiled.IsLayoutOf diagram := by
  have wellFormed := wellFormed_of_completes compiles
  obtain ⟨constants, dt, runtime, payloads, resolved, rfl⟩ :=
    completes_ofDiagram_iff.mp ⟨after, compiles⟩
  have size := size_assemble constants dt runtime resolved.payloads_eq.length_eq.symm
  refine ⟨?_, ?_, wellFormed.turns_perm, wellFormed.hasTurn, ?_, ports_assemble, ?_, ?_⟩
  · rw [size, Diagram.ids, List.length_map]
  · intro handle block found
    have idFound : diagram.ids[handle]? = some block.id := by simp [Diagram.ids, found]
    obtain ⟨inside, same⟩ := List.getElem?_eq_some_iff.mp idFound
    refine ⟨?_, ?_⟩
    · rw [← same, List.idxOf?_eq_some_iff]
      refine ⟨inside, rfl, fun earlier before => ?_⟩
      have different : diagram.ids[earlier] ≠ diagram.ids[handle] := by
        rw [Ne, nodup.getElem_inj_iff]
        omega
      simpa using different
    · have node := Array.getElem?_eq_getElem (size ▸ inside)
      exact ⟨_, node, isNodeOf_assemble resolved found node⟩
  · intro handle port driver node found drives
    have driverMember : driver ∈ node.driverHandles := List.mem_map_of_mem drives
    exact ⟨wellFormed.driver_lt found driverMember, drivers_assemble found drives⟩
  · have visited := filterMap_turns_perm wellFormed (Array.length_toList)
    simpa using visited
  · intro codes length_eq
    exact ⟨_, _, _, splitsCode_tickOf wellFormed length_eq⟩

/-- A diagram in which late edits and dropped connections meet: the product `g` and the gain `h` form
a cycle through a label, two label sinks have its name, an input of the diagram drives a memory, and
of the other connections one dangles, one ends at a negative port and one is driven out by a later
one. -/
def tangledDiagram : Diagram String where
  blocks := [⟨"m", "labelSource", [("name", .text "y")]⟩, ⟨"s", "scope", []⟩,
    ⟨"x", "labelSource", [("name", .text "x")]⟩, ⟨"g", "mult", []⟩, ⟨"h", "gain", []⟩,
    ⟨"i", "integrator", []⟩, ⟨"first", "labelSink", [("name", .text "y")]⟩,
    ⟨"last", "labelSink", [("name", .text "y")]⟩]
  connections := [⟨"m", "g", 0, 1⟩, ⟨"g", "h", 0, 0⟩, ⟨"x", "last", 0, 0⟩, ⟨"h", "last", 0, 0⟩,
    ⟨"x", "i", 0, 0⟩, ⟨"i", "first", 0, 0⟩, ⟨"s", "i", 0, -1⟩, ⟨"nobody", "s", 0, 0⟩,
    ⟨"g", "s", 0, 7⟩]
  vars := []
  runtime := .null
  dt := .null
  nextId := 1

open Host.Usual

theorem isLayoutOf_tangledDiagram :
    ∃ (compiled : Compiled Rat) (after : List Notice), tangledDiagram.ids.Nodup ∧
      Completes (ofDiagram tangledDiagram standardDt standardRuntime) [] compiled after ∧
      compiled.outputOrder = [2, 5] ∧ compiled.sinkOrder = [1, 6, 7] ∧
      compiled.nodes[0]?.map (·.drivers) = some [(0, 4)] ∧
      compiled.IsLayoutOf tangledDiagram := by
  have runs : (outcome (ofDiagram tangledDiagram (standardDt : Setting Rat) standardRuntime)
      []).1.toOption.any (fun compiled =>
        compiled.outputOrder == [2, 5] && (compiled.sinkOrder == [1, 6, 7] &&
          compiled.nodes[0]?.map (·.drivers) == some [(0, 4)])) = true := by
    decide +kernel
  obtain ⟨compiled, after, compiles, runs⟩ := exists_completes_of_any runs
  rw [Bool.and_eq_true, Bool.and_eq_true, beq_iff_eq, beq_iff_eq, beq_iff_eq] at runs
  obtain ⟨outputs, sinks, drivers⟩ := runs
  have nodup : tangledDiagram.ids.Nodup := by decide
  exact ⟨compiled, after, nodup, compiles, outputs, sinks, drivers,
    isLayoutOf_of_completes nodup compiles⟩

end Compiled

end SignalFlow
