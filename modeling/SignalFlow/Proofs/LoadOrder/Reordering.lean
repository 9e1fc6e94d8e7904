import SignalFlow.Proofs.LoadOrder.Placement

/-! # Compiling diagrams in another load order

A diagram and the same diagram with its blocks listed in another order (`Diagram.IsReordered`)
resolve alike and compile to rearrangements of each other, provided ids are unique and no two label
sinks share a name.
-/

namespace SignalFlow

variable {α : Type}

/-- Two diagrams that differ only in the order in which their blocks are listed. -/
structure Diagram.IsReordered (diagram other : Diagram String) : Prop where
  blocks_perm : other.blocks.Perm diagram.blocks
  connections_eq : other.connections = diagram.connections
  vars_eq : other.vars = diagram.vars
  runtime_eq : other.runtime = diagram.runtime
  dt_eq : other.dt = diagram.dt

/-- The names of the label sinks of a diagram are pairwise distinct. -/
def Diagram.HasDistinctSinks (diagram : Diagram String) : Prop :=
  ((diagram.blocks.filter (·.kind == .labelSink)).map Compiled.labelName).Nodup

namespace Diagram.IsReordered

variable {diagram other : Diagram String} (reordered : diagram.IsReordered other)
include reordered

theorem symm : other.IsReordered diagram :=
  ⟨reordered.blocks_perm.symm, reordered.connections_eq.symm, reordered.vars_eq.symm,
    reordered.runtime_eq.symm, reordered.dt_eq.symm⟩

theorem ids_perm : other.ids.Perm diagram.ids := reordered.blocks_perm.map _

theorem hasDistinctSinks (distinct : diagram.HasDistinctSinks) : other.HasDistinctSinks :=
  ((reordered.blocks_perm.filter _).map _).nodup_iff.mpr distinct

/-- A block stands in the other diagram at the place of its id. -/
theorem getElem?_blocks (nodup : diagram.ids.Nodup) {handle : Nat} {block : Block String}
    (found : diagram.blocks[handle]? = some block) :
    other.blocks[placeIn diagram.ids other.ids handle]? = some block := by
  have idFound : diagram.ids[handle]? = some block.id := by simp [Diagram.ids, found]
  have placed : (other.blocks.map (·.id))[placeIn diagram.ids other.ids handle]? = some block.id :=
    getElem?_placeIn reordered.ids_perm idFound
  rw [List.getElem?_map, Option.map_eq_some_iff] at placed
  obtain ⟨same, sameFound, sameId⟩ := placed
  have sameMember := reordered.blocks_perm.subset (List.mem_of_getElem? sameFound)
  rw [sameFound, List.inj_on_of_nodup_map nodup sameMember (List.mem_of_getElem? found) sameId]

end Diagram.IsReordered

namespace Compiled

variable [Scalar α] {diagram other : Diagram String} {defaultDt defaultRuntime dt runtime : Setting α}
  {constants : Constants} {payloads otherPayloads : List (Payload α)}

/-- A diagram resolves if it does in another order. -/
theorem IsResolved.exists_reordered [Host] (reordered : diagram.IsReordered other)
    (resolved : IsResolved diagram defaultDt defaultRuntime constants dt runtime payloads) :
    ∃ otherPayloads,
      IsResolved other defaultDt defaultRuntime constants dt runtime otherPayloads := by
  obtain ⟨otherPayloads, payloads_eq, -⟩ :=
    List.perm_comp_forall₂ reordered.blocks_perm resolved.payloads_eq
  refine ⟨otherPayloads, ?_, ?_, ?_, payloads_eq⟩
  · rw [reordered.vars_eq, resolved.constants_eq]
  · rw [reordered.dt_eq, resolved.dt_eq]
  · rw [reordered.runtime_eq, resolved.runtime_eq]

section Reordered

variable [Host] (reordered : diagram.IsReordered other) (nodup : diagram.ids.Nodup)
  (resolved : IsResolved diagram defaultDt defaultRuntime constants dt runtime payloads)
  (otherResolved : IsResolved other defaultDt defaultRuntime constants dt runtime otherPayloads)
include reordered nodup resolved otherResolved

/-- A wired block stands in the other diagram at the place of its id, moved. -/
theorem getElem?_wiredNodes_placeIn {handle : Nat} {node : Node α}
    (found : (wiredNodes diagram payloads)[handle]? = some node) :
    (wiredNodes other otherPayloads)[placeIn diagram.ids other.ids handle]? =
      some (node.moved (placeIn diagram.ids other.ids)) := by
  rw [getElem?_wiredNodes, Option.map_eq_some_iff] at found
  obtain ⟨⟨block, payload⟩, pairFound, rfl⟩ := found
  rw [List.getElem?_zip_eq_some] at pairFound
  obtain ⟨blockFound, payloadFound⟩ := pairFound
  obtain ⟨same, sameFound, blockResolved⟩ := resolved.getElem?_payloads blockFound
  obtain rfl : same = payload := Option.some.inj (sameFound.symm.trans payloadFound)
  have otherFound := reordered.getElem?_blocks nodup blockFound
  obtain ⟨otherPayload, otherPayloadFound, otherBlockResolved⟩ :=
    otherResolved.getElem?_payloads otherFound
  obtain rfl : same = otherPayload :=
    Except.ok.inj (blockResolved.symm.trans otherBlockResolved)
  have pair : (other.blocks.zip otherPayloads)[placeIn diagram.ids other.ids handle]? =
      some (block, same) := List.getElem?_zip_eq_some.mpr ⟨otherFound, otherPayloadFound⟩
  have inside : handle < diagram.ids.length := by
    simpa [Diagram.ids] using (List.getElem?_eq_some_iff.mp blockFound).1
  rw [getElem?_wiredNodes, pair, Option.map_some, reordered.connections_eq,
    wires_placeIn reordered.ids_perm, wired_moved]
  intro wire member
  obtain ⟨connection, -, -, targetFound⟩ := exists_connection_of_mem_wires member
  have targetInside := (List.getElem?_eq_some_iff.mp targetFound).1
  constructor
  · intro same
    rw [← placeIn_placeIn reordered.ids_perm nodup targetInside, same,
      placeIn_placeIn reordered.ids_perm nodup inside]
  · intro same
    rw [same]

/-- The wired blocks of the other diagram are the moved ones. -/
theorem mem_wiredNodes_iff (otherNode : Node α) :
    otherNode ∈ wiredNodes other otherPayloads ↔
      ∃ node ∈ wiredNodes diagram payloads,
        node.moved (placeIn diagram.ids other.ids) = otherNode := by
  have back := reordered.ids_perm.symm
  have length : other.blocks.length = diagram.blocks.length := reordered.blocks_perm.length_eq
  constructor
  · intro member
    obtain ⟨handle, found⟩ := List.getElem?_of_mem member
    have inside : handle < other.ids.length := by
      have bound := (List.getElem?_eq_some_iff.mp found).1
      rw [length_wiredNodes otherResolved.payloads_eq.length_eq.symm] at bound
      simpa [Diagram.ids] using bound
    have origin : placeIn other.ids diagram.ids handle < (wiredNodes diagram payloads).length := by
      rw [length_wiredNodes resolved.payloads_eq.length_eq.symm]
      simpa [Diagram.ids] using placeIn_lt back inside
    have moved := getElem?_wiredNodes_placeIn reordered nodup resolved otherResolved
      (List.getElem?_eq_getElem origin)
    rw [placeIn_placeIn back (reordered.ids_perm.nodup_iff.mpr nodup) inside, found] at moved
    exact ⟨_, List.getElem_mem origin, (Option.some.inj moved).symm⟩
  · rintro ⟨node, member, rfl⟩
    obtain ⟨handle, found⟩ := List.getElem?_of_mem member
    exact List.mem_of_getElem?
      (getElem?_wiredNodes_placeIn reordered nodup resolved otherResolved found)

omit [Host] in
omit reordered resolved otherResolved in
/-- Label sinks with distinct names are told apart by their labels. -/
theorem haveDistinctSinks_wiredNodes (distinct : diagram.HasDistinctSinks) :
    HaveDistinctSinks (wiredNodes diagram payloads) := by
  have origin {node : Node α} (member : node ∈ wiredNodes diagram payloads)
      (isSink : node.kind = .labelSink) : ∃ (handle : Nat) (block : Block String),
        (wiredNodes diagram payloads)[handle]? = some node ∧
        diagram.blocks[handle]? = some block ∧
        block ∈ diagram.blocks.filter (·.kind == .labelSink) ∧
        node.label = some (labelName block) := by
    obtain ⟨handle, found⟩ := List.getElem?_of_mem member
    have wiredFound := found
    rw [getElem?_wiredNodes, Option.map_eq_some_iff] at found
    obtain ⟨⟨block, payload⟩, pairFound, rfl⟩ := found
    have blockFound := (List.getElem?_zip_eq_some.mp pairFound).1
    have blockIsSink : block.kind = .labelSink := isSink
    refine ⟨handle, block, wiredFound, blockFound, ?_, ?_⟩
    · rw [List.mem_filter, beq_iff_eq]
      exact ⟨List.mem_of_getElem? blockFound, blockIsSink⟩
    · simp [wired, blockIsSink]
  have blocksNodup : diagram.blocks.Nodup := nodup.of_map _
  intro first firstMember second secondMember firstIsSink secondIsSink same
  obtain ⟨handle, block, firstFound, blockFound, listed, label⟩ := origin firstMember firstIsSink
  obtain ⟨otherHandle, otherBlock, secondFound, otherFound, otherListed, otherLabel⟩ :=
    origin secondMember secondIsSink
  rw [label, otherLabel, Option.some.injEq] at same
  obtain rfl : block = otherBlock := List.inj_on_of_nodup_map distinct listed otherListed same
  have inside := (List.getElem?_eq_some_iff.mp blockFound).1
  obtain rfl : handle = otherHandle :=
    (List.getElem?_inj inside blocksNodup).mp (blockFound.trans otherFound.symm)
  exact Option.some.inj (firstFound.symm.trans secondFound)

variable (distinct : diagram.HasDistinctSinks)
include distinct

/-- A diagram in another load order compiles to a rearrangement. -/
theorem rearranged_assemble :
    (assemble diagram constants dt runtime payloads).Rearranged (placeIn diagram.ids other.ids)
      (placeIn other.ids diagram.ids) (assemble other constants dt runtime otherPayloads) := by
  have perm := reordered.ids_perm
  have size : (assemble diagram constants dt runtime payloads).nodes.size = diagram.ids.length :=
    size_assemble _ _ _ resolved.payloads_eq.length_eq.symm
  have otherSize : (assemble other constants dt runtime otherPayloads).nodes.size =
      other.ids.length := size_assemble _ _ _ otherResolved.payloads_eq.length_eq.symm
  have length : other.ids.length = diagram.ids.length := perm.length_eq
  have otherNodup := perm.nodup_iff.mpr nodup
  refine ⟨?_, ?_, ?_, ?_, ?_, ?_, by rw [dt_assemble, dt_assemble]⟩
  · rw [size, otherSize, length]
  · intro handle inside
    rw [size] at inside ⊢
    exact length ▸ placeIn_lt perm inside
  · intro handle inside
    rw [size] at inside ⊢
    exact placeIn_lt perm.symm (length ▸ inside)
  · intro handle inside
    rw [size] at inside
    exact placeIn_placeIn perm nodup inside
  · intro handle inside
    rw [size] at inside
    exact placeIn_placeIn perm.symm otherNodup (length ▸ inside)
  · intro handle node found
    simp only [assemble, ofNodes, List.getElem?_toArray, List.getElem?_map,
      Option.map_eq_some_iff] at found ⊢
    obtain ⟨origin, originFound, rfl⟩ := found
    refine ⟨_, getElem?_wiredNodes_placeIn reordered nodup resolved otherResolved originFound, ?_⟩
    exact bind_moved (haveDistinctSinks_wiredNodes nodup distinct)
      (mem_wiredNodes_iff reordered nodup resolved otherResolved) origin

/-- A diagram in another load order binds outputs alike. -/
theorem get?_outputHandles_assemble (name : String) :
    Entries.get? (assemble other constants dt runtime otherPayloads).outputHandles name =
      (Entries.get? (assemble diagram constants dt runtime payloads).outputHandles name).map
        (placeIn diagram.ids other.ids) := by
  have distinctSinks : HaveDistinctSinks (wiredNodes diagram payloads) :=
    haveDistinctSinks_wiredNodes nodup distinct
  have members := mem_wiredNodes_iff reordered nodup resolved otherResolved
  have boundMembers (otherNode : Node α) :
      otherNode ∈ (wiredNodes other otherPayloads).map (bind (wiredNodes other otherPayloads)) ↔
        ∃ node ∈ (wiredNodes diagram payloads).map (bind (wiredNodes diagram payloads)),
          node.moved (placeIn diagram.ids other.ids) = otherNode := by
    simp only [List.mem_map, members]
    constructor
    · rintro ⟨_, ⟨node, member, rfl⟩, rfl⟩
      exact ⟨_, ⟨node, member, rfl⟩, (bind_moved distinctSinks members node).symm⟩
    · rintro ⟨_, ⟨node, member, rfl⟩, rfl⟩
      exact ⟨_, ⟨node, member, rfl⟩, bind_moved distinctSinks members node⟩
  rw [assemble, assemble, get?_outputHandles_ofNodes, get?_outputHandles_ofNodes,
    sink?_moved distinctSinks.bind boundMembers, Option.map_map, Option.map_map]
  rfl

end Reordered

end Compiled

end SignalFlow
