import SignalFlow.Proofs.Compiling
import SignalFlow.Proofs.EvaluationOrder
import SignalFlow.Proofs.Labels

/-! # Well-formed compiled diagrams

What every compiled diagram is like (`Compiled.WellFormed`): blocks are found at their handles,
drivers are blocks of the diagram, an algebraic block computes as its payload says, and the orders
of evaluation list the blocks of their phases.
-/

namespace SignalFlow.Compiled

variable {α : Type}

/-- What compiling guarantees. -/
structure WellFormed [Scalar α] (compiled : Compiled α) : Prop where
  handle_eq {handle : Nat} {node : Node α} :
    compiled.nodes[handle]? = some node → node.handle = handle
  driver_lt {handle driver : Nat} {node : Node α} :
    compiled.nodes[handle]? = some node → driver ∈ node.driverHandles →
      driver < compiled.nodes.size
  payload_phase {handle : Nat} {node : Node α} :
    compiled.nodes[handle]? = some node → node.phase = .algebraic →
      node.payload.phase = .algebraic
  outputOrder_eq : compiled.outputOrder =
    handles compiled.nodes.toList fun node => node.phase == .source || node.phase == .memory
  algebraicOrder_eq : compiled.algebraicOrder =
    handles compiled.nodes.toList (·.seedsLoop) ++
      stableOrder (driversOf compiled.nodes)
        (handles compiled.nodes.toList fun node => node.phase == .algebraic && !node.seedsLoop)
  sinkOrder_eq : compiled.sinkOrder = handles compiled.nodes.toList (·.phase == .sink)

/-- The label sources that mirror sinks, and then the computing blocks as they get ready, without
sorting them first. -/
def seedsAndPending (compiled : Compiled α) : List Nat :=
  handles compiled.nodes.toList (·.seedsLoop) ++ orderPending (driversOf compiled.nodes)
    (handles compiled.nodes.toList fun node => node.phase == .algebraic && !node.seedsLoop)

/-! ## Handles of a list of blocks -/

section Handles

variable {nodes : List (Node α)}
  (places : ∀ {handle : Nat} {node : Node α}, nodes[handle]? = some node → node.handle = handle)
include places

/-- The handles of blocks that stand at their handles are those at which the test accepts. -/
theorem mem_handles_iff {test : Node α → Bool} {handle : Nat} :
    handle ∈ handles nodes test ↔ ∃ node, nodes[handle]? = some node ∧ test node = true := by
  simp only [handles, List.mem_map, List.mem_filter]
  constructor
  · rintro ⟨node, ⟨member, accepted⟩, rfl⟩
    obtain ⟨place, found⟩ := List.getElem?_of_mem member
    rw [places found]
    exact ⟨node, found, accepted⟩
  · rintro ⟨node, found, accepted⟩
    exact ⟨node, ⟨List.mem_of_getElem? found, accepted⟩, places found⟩

/-- Blocks that stand at their handles have the handles from zero on. -/
theorem map_handle_eq_range : nodes.map (·.handle) = List.range nodes.length := by
  apply List.ext_getElem?
  intro place
  rw [List.getElem?_map]
  cases found : nodes[place]? with
  | none => simpa using found
  | some node =>
      have inside : place < nodes.length := (List.getElem?_eq_some_iff.mp found).1
      simp [places found, inside]

/-- The handles of blocks that stand at their handles ascend. -/
theorem handles_pairwise (test : Node α → Bool) : (handles nodes test).Pairwise (· < ·) := by
  have all : (nodes.map (·.handle)).Pairwise (· < ·) := by
    rw [map_handle_eq_range places]
    exact List.pairwise_lt_range
  exact all.sublist (List.filter_sublist.map _)

theorem handles_nodup (test : Node α → Bool) : (handles nodes test).Nodup :=
  (handles_pairwise places test).imp Nat.ne_of_lt

end Handles

/-! ## Drivers of wired and bound blocks -/

/-- A connection is wired between the places of its ends, if both are found. -/
theorem wire?_eq_ok_iff {ids : List String} {connection : Connection String} {wire : Wire} :
    Wiring.wire? ids connection = .ok wire ↔ ids.idxOf? connection.source = some wire.source ∧
      ids.idxOf? connection.target = some wire.target ∧
        connection.targetPort = .ofNat wire.port := by
  unfold Wiring.wire?
  cases ids.idxOf? connection.source with
  | none => simp
  | some source =>
      cases ids.idxOf? connection.target with
      | none => simp
      | some target =>
          cases connection.targetPort with
          | ofNat port =>
              cases wire
              simp only [Except.ok.injEq, Wire.mk.injEq, Option.some.injEq, Int.ofNat.injEq]
          | negSucc _ => simp

/-- Each wire is that of a connection. -/
theorem exists_wire?_of_mem_wires {ids : List String} {connections : List (Connection String)}
    {wire : Wire} (member : wire ∈ Wiring.wires ids connections) :
    ∃ connection ∈ connections, Wiring.wire? ids connection = .ok wire := by
  obtain ⟨connection, listed, made⟩ := List.mem_filterMap.mp member
  refine ⟨connection, listed, ?_⟩
  cases ended : Wiring.wire? ids connection with
  | error notice =>
      rw [ended] at made
      cases made
  | ok other =>
      rw [ended] at made
      exact congrArg Except.ok (Option.some.inj made)

/-- A wire starts at the place of the source of a connection and ends at that of its target. -/
theorem exists_connection_of_mem_wires {ids : List String}
    {connections : List (Connection String)} {wire : Wire}
    (member : wire ∈ Wiring.wires ids connections) : ∃ connection ∈ connections,
      ids[wire.source]? = some connection.source ∧ ids[wire.target]? = some connection.target := by
  obtain ⟨connection, listed, wired⟩ := exists_wire?_of_mem_wires member
  obtain ⟨source, target, -⟩ := wire?_eq_ok_iff.mp wired
  obtain ⟨sourceInside, sourceFound, -⟩ := List.idxOf?_eq_some_iff.mp source
  obtain ⟨targetInside, targetFound, -⟩ := List.idxOf?_eq_some_iff.mp target
  exact ⟨connection, listed, List.getElem?_eq_some_iff.mpr ⟨sourceInside, sourceFound⟩,
    List.getElem?_eq_some_iff.mpr ⟨targetInside, targetFound⟩⟩

/-- The drivers of a wired block are the sources of wires. -/
theorem exists_wire_of_wired [Scalar α] {wires : List Wire} {handle driver : Nat}
    {block : Block String} {payload : Payload α}
    (drives : driver ∈ (wired wires handle block payload).driverHandles) :
    ∃ wire ∈ wires, wire.source = driver := by
  obtain ⟨⟨port, source⟩, entry, rfl⟩ := List.mem_map.mp drives
  obtain ⟨other, -, made⟩ := List.mem_filterMap.mp entry
  obtain ⟨found, driven, same⟩ := Option.map_eq_some_iff.mp made
  obtain rfl : found = source := (Prod.mk.inj same).2
  obtain ⟨wire, last, rfl⟩ := Option.map_eq_some_iff.mp driven
  exact ⟨wire, (List.mem_filter.mp (List.mem_of_getLast? last)).1, rfl⟩

/-! ## Assembled diagrams -/

section Assemble

variable [Scalar α] {diagram : Diagram String} {payloads : List (Payload α)}

/-- The block at a handle of a wired diagram. -/
theorem getElem?_wiredNodes {handle : Nat} :
    (wiredNodes diagram payloads)[handle]? = (diagram.blocks.zip payloads)[handle]?.map
      fun pair => wired (Wiring.wires diagram.ids diagram.connections) handle pair.1 pair.2 := by
  simp [wiredNodes, wiredFrom, List.getElem?_mapIdx]

theorem length_wiredNodes (resolved : payloads.length = diagram.blocks.length) :
    (wiredNodes diagram payloads).length = diagram.blocks.length := by
  simp [wiredNodes, wiredFrom, resolved]

theorem size_assemble (constants : Constants) (dt runtime : Setting α)
    (resolved : payloads.length = diagram.blocks.length) :
    (assemble diagram constants dt runtime payloads).nodes.size = diagram.ids.length := by
  simp [assemble, ofNodes, length_wiredNodes resolved, Diagram.ids]

theorem dt_assemble (constants : Constants) (dt runtime : Setting α) :
    (assemble diagram constants dt runtime payloads).dt = dt := rfl

/-- What an assembled diagram has at a handle is a wired block, bound to its label. -/
theorem exists_of_getElem?_assemble {constants : Constants} {dt runtime : Setting α} {handle : Nat}
    {node : Node α}
    (found : (assemble diagram constants dt runtime payloads).nodes[handle]? = some node) :
    ∃ block payload, diagram.blocks[handle]? = some block ∧ payloads[handle]? = some payload ∧
      node = bind (wiredNodes diagram payloads)
        (wired (Wiring.wires diagram.ids diagram.connections) handle block payload) := by
  simp only [assemble, ofNodes, List.getElem?_toArray, List.getElem?_map, getElem?_wiredNodes,
    Option.map_map, Option.map_eq_some_iff, List.getElem?_zip_eq_some] at found
  obtain ⟨⟨block, payload⟩, ⟨blockFound, payloadFound⟩, rfl⟩ := found
  exact ⟨block, payload, blockFound, payloadFound, rfl⟩

/-- The drivers of the blocks of an assembled diagram are the sources of wires. -/
theorem exists_wire_of_assemble {constants : Constants} {dt runtime : Setting α}
    {handle driver : Nat} {node : Node α}
    (found : (assemble diagram constants dt runtime payloads).nodes[handle]? = some node)
    (drives : driver ∈ node.driverHandles) :
    ∃ wire ∈ Wiring.wires diagram.ids diagram.connections, wire.source = driver := by
  obtain ⟨block, payload, -, -, rfl⟩ := exists_of_getElem?_assemble found
  rcases driver_of_bind drives with own | ⟨sink, member, drives⟩
  · exact exists_wire_of_wired own
  · obtain ⟨place, sinkFound⟩ := List.getElem?_of_mem member
    rw [getElem?_wiredNodes, Option.map_eq_some_iff] at sinkFound
    obtain ⟨pair, -, rfl⟩ := sinkFound
    exact exists_wire_of_wired drives

/-- An assembled diagram is well-formed. -/
theorem wellFormed_assemble (constants : Constants) (dt runtime : Setting α)
    (resolved : payloads.length = diagram.blocks.length) :
    (assemble diagram constants dt runtime payloads).WellFormed where
  handle_eq := by
    intro handle node found
    obtain ⟨block, payload, -, -, rfl⟩ := exists_of_getElem?_assemble found
    rw [bind_handle]
    rfl
  driver_lt := by
    intro handle driver node found drives
    obtain ⟨wire, member, rfl⟩ := exists_wire_of_assemble found drives
    obtain ⟨connection, -, source, -⟩ := exists_connection_of_mem_wires member
    rw [size_assemble constants dt runtime resolved]
    exact (List.getElem?_eq_some_iff.mp source).1
  payload_phase := by
    intro handle node found algebraic
    obtain ⟨block, payload, -, -, rfl⟩ := exists_of_getElem?_assemble found
    rw [bind_payload]
    rcases bind_phase (wiredNodes diagram payloads) (wired _ handle block payload) with own | source
    · rw [own] at algebraic
      exact algebraic
    · rw [source] at algebraic
      cases algebraic
  outputOrder_eq := rfl
  algebraicOrder_eq := rfl
  sinkOrder_eq := rfl

/-- **Compiled diagrams are well-formed.** -/
theorem wellFormed_of_completes [Host] {defaultDt defaultRuntime : Setting α}
    {compiled : Compiled α}
    {before after : List Notice}
    (compiles : Completes (ofDiagram diagram defaultDt defaultRuntime) before compiled after) :
    compiled.WellFormed := by
  obtain ⟨constants, dt, runtime, payloads, resolved, rfl⟩ :=
    completes_ofDiagram_iff.mp ⟨after, compiles⟩
  exact wellFormed_assemble constants dt runtime resolved.payloads_eq.length_eq.symm

end Assemble

/-! ## The orders of a well-formed diagram -/

namespace WellFormed

variable [Scalar α] {compiled : Compiled α} (wellFormed : compiled.WellFormed)
include wellFormed

theorem handle_eq_of_toList {handle : Nat} {node : Node α}
    (found : compiled.nodes.toList[handle]? = some node) : node.handle = handle :=
  wellFormed.handle_eq (by simpa using found)

theorem getElem?_handle {node : Node α} (member : node ∈ compiled.nodes) :
    compiled.nodes[node.handle]? = some node := by
  obtain ⟨place, inside, same⟩ := Array.getElem_of_mem member
  have found : compiled.nodes[place]? = some node := by
    rw [Array.getElem?_eq_getElem inside, same]
  rw [wellFormed.handle_eq found, found]

theorem mem_handles {test : Node α → Bool} {handle : Nat} :
    handle ∈ handles compiled.nodes.toList test ↔
      ∃ node, compiled.nodes[handle]? = some node ∧ test node = true := by
  rw [mem_handles_iff wellFormed.handle_eq_of_toList]
  simp

theorem mem_outputOrder {handle : Nat} : handle ∈ compiled.outputOrder ↔
    ∃ node, compiled.nodes[handle]? = some node ∧ (node.phase = .source ∨ node.phase = .memory) := by
  rw [wellFormed.outputOrder_eq, wellFormed.mem_handles]
  simp

theorem mem_sinkOrder {handle : Nat} : handle ∈ compiled.sinkOrder ↔
    ∃ node, compiled.nodes[handle]? = some node ∧ node.phase = .sink := by
  rw [wellFormed.sinkOrder_eq, wellFormed.mem_handles]
  simp

theorem lt_of_mem_outputOrder {handle : Nat} (member : handle ∈ compiled.outputOrder) :
    handle < compiled.nodes.size := by
  obtain ⟨node, found, -⟩ := wellFormed.mem_outputOrder.mp member
  exact (Array.getElem?_eq_some_iff.mp found).1

theorem lt_of_mem_sinkOrder {handle : Nat} (member : handle ∈ compiled.sinkOrder) :
    handle < compiled.nodes.size := by
  obtain ⟨node, found, -⟩ := wellFormed.mem_sinkOrder.mp member
  exact (Array.getElem?_eq_some_iff.mp found).1

/-- The computing blocks are in the order of their handles to begin with. -/
theorem algebraicOrder_eq_seedsAndPending : compiled.algebraicOrder = compiled.seedsAndPending := by
  rw [wellFormed.algebraicOrder_eq,
    stableOrder_of_pairwise (handles_pairwise wellFormed.handle_eq_of_toList _), seedsAndPending]

theorem outputOrder_nodup : compiled.outputOrder.Nodup := by
  rw [wellFormed.outputOrder_eq]
  exact handles_nodup wellFormed.handle_eq_of_toList _

theorem sinkOrder_pairwise : compiled.sinkOrder.Pairwise (· < ·) := by
  rw [wellFormed.sinkOrder_eq]
  exact handles_pairwise wellFormed.handle_eq_of_toList _

theorem sinkOrder_nodup : compiled.sinkOrder.Nodup :=
  wellFormed.sinkOrder_pairwise.imp Nat.ne_of_lt

end WellFormed

end SignalFlow.Compiled
