import SignalFlow.Proofs.LoadOrder.Rearrangement

/-! # Diagrams in another load order

A diagram whose blocks are listed in another order compiles to a rearrangement of what the diagram
compiles to: handles are places of ids, so wires, drivers and ports are led along, payloads do not
depend on the order, and with distinct names of label sinks neither does what a label is bound to.
-/

namespace SignalFlow

variable {α : Type}

/-! ## Places of ids -/

/-- The place in another list of the id at a place of a list. -/
def placeIn (ids other : List String) (place : Nat) : Nat := other.idxOf (ids.getD place "")

section Places

variable {ids other : List String}

theorem placeIn_of_getElem? {place : Nat} {id : String} (found : ids[place]? = some id) :
    placeIn ids other place = other.idxOf id := by
  simp [placeIn, List.getD_eq_getElem?_getD, found]

variable (perm : other.Perm ids)
include perm

theorem getElem?_placeIn {place : Nat} {id : String} (found : ids[place]? = some id) :
    other[placeIn ids other place]? = some id := by
  have member : id ∈ other := perm.mem_iff.mpr (List.mem_of_getElem? found)
  rw [placeIn_of_getElem? found]
  exact List.getElem?_idxOf member

theorem placeIn_lt {place : Nat} (inside : place < ids.length) :
    placeIn ids other place < other.length := by
  have found := getElem?_placeIn perm (List.getElem?_eq_getElem inside)
  exact (List.getElem?_eq_some_iff.mp found).1

/-- The places lead back. -/
theorem placeIn_placeIn (nodup : ids.Nodup) {place : Nat} (inside : place < ids.length) :
    placeIn other ids (placeIn ids other place) = place := by
  rw [placeIn_of_getElem? (getElem?_placeIn perm (List.getElem?_eq_getElem inside))]
  exact nodup.idxOf_getElem place inside

/-- An id that is found in a list is found in another order of it, at its place. -/
theorem idxOf?_placeIn (id : String) :
    other.idxOf? id = (ids.idxOf? id).map (placeIn ids other) := by
  cases found : ids.idxOf? id with
  | none =>
      rw [List.idxOf?_eq_none_iff] at found
      rw [Option.map_none, List.idxOf?_eq_none_iff, perm.mem_iff]
      exact found
  | some place =>
      obtain ⟨inside, same, -⟩ := List.idxOf?_eq_some_iff.mp found
      have isFound : ids[place]? = some id := List.getElem?_eq_some_iff.mpr ⟨inside, same⟩
      have member : id ∈ other := perm.mem_iff.mpr (List.mem_of_getElem? isFound)
      obtain ⟨otherPlace, otherFound⟩ :=
        Option.isSome_iff_exists.mp (List.isSome_idxOf?.mpr member)
      rw [Option.map_some, placeIn_of_getElem? isFound, List.idxOf_eq_getD_idxOf?, otherFound,
        Option.getD_some]

end Places

/-! ## Moved wires -/

/-- A wire between other places. -/
def Wire.moved (place : Nat → Nat) (wire : Wire) : Wire :=
  ⟨place wire.source, place wire.target, wire.port⟩

/-- The wires of a list of ids in another order. -/
theorem wires_placeIn {ids other : List String} (perm : other.Perm ids)
    (connections : List (Connection String)) :
    Wiring.wires other connections =
      (Wiring.wires ids connections).map (Wire.moved (placeIn ids other)) := by
  unfold Wiring.wires
  rw [List.map_filterMap]
  apply List.filterMap_congr
  intro connection _
  unfold Wiring.wire?
  rw [idxOf?_placeIn perm, idxOf?_placeIn perm]
  cases ids.idxOf? connection.source with
  | none => rfl
  | some source =>
      cases ids.idxOf? connection.target with
      | none => rfl
      | some target => cases connection.targetPort <;> rfl

section MovedWires

variable {place : Nat → Nat} {wires : List Wire} {target : Nat}
  (injective : ∀ wire ∈ wires, place wire.target = place target ↔ wire.target = target)
include injective

theorem target_moved {wire : Wire} (member : wire ∈ wires) :
    ((wire.moved place).target == place target) = (wire.target == target) := by
  rw [Bool.eq_iff_iff, beq_iff_eq, beq_iff_eq]
  exact injective wire member

theorem driver?_moved (port : Nat) :
    Wiring.driver? (wires.map (Wire.moved place)) (place target) port =
      (Wiring.driver? wires target port).map place := by
  have same : wires.filter ((fun wire => wire.target == place target && wire.port == port) ∘
      Wire.moved place) = wires.filter fun wire => wire.target == target && wire.port == port := by
    apply List.filter_congr
    intro wire member
    rw [Function.comp_apply, target_moved injective member]
    rfl
  unfold Wiring.driver?
  rw [List.filter_map, same, List.getLast?_map, Option.map_map, Option.map_map]
  rfl

theorem ports_moved (kind : Kind) :
    Wiring.ports (wires.map (Wire.moved place)) kind (place target) =
      Wiring.ports wires kind target := by
  have same : wires.filter ((·.target == place target) ∘ Wire.moved place) =
      wires.filter (·.target == target) := by
    apply List.filter_congr
    intro wire member
    rw [Function.comp_apply, target_moved injective member]
  unfold Wiring.ports
  rw [List.filter_map, same, List.map_map]
  rfl

/-- A block wired with moved wires is moved. -/
theorem wired_moved [Scalar α] (block : Block String) (payload : Payload α) :
    Compiled.wired (wires.map (Wire.moved place)) (place target) block payload =
      (Compiled.wired wires target block payload).moved place := by
  simp only [Compiled.wired, Node.moved, ports_moved injective, driver?_moved injective,
    List.map_filterMap, Option.map_map]
  rfl

end MovedWires

/-! ## Labels -/

namespace Compiled

/-- Among some blocks no two label sinks have the same label. -/
def HaveDistinctSinks (nodes : List (Node α)) : Prop :=
  ∀ first ∈ nodes, ∀ second ∈ nodes, first.kind = .labelSink → second.kind = .labelSink →
    first.label = second.label → first = second

theorem sink?_eq_some_iff {nodes : List (Node α)} (distinct : HaveDistinctSinks nodes)
    {label : Option String} {sink : Node α} :
    sink? nodes label = some sink ↔ sink ∈ nodes ∧ sink.kind = .labelSink ∧ sink.label = label := by
  refine ⟨of_sink?_eq_some, ?_⟩
  rintro ⟨member, isSink, labelled⟩
  cases found : sink? nodes label with
  | none =>
      have listed : sink ∈ nodes.filter fun node => node.kind == .labelSink && node.label == label := by
        simp [member, isSink, labelled]
      rw [List.getLast?_eq_none_iff.mp found] at listed
      cases listed
  | some other =>
      obtain ⟨otherMember, otherIsSink, otherLabelled⟩ := of_sink?_eq_some found
      rw [distinct other otherMember sink member otherIsSink isSink
        (otherLabelled.trans labelled.symm)]

section Moved

variable {place : Nat → Nat} {nodes others : List (Node α)} (distinct : HaveDistinctSinks nodes)
  (members : ∀ other, other ∈ others ↔ ∃ node ∈ nodes, node.moved place = other)
include distinct members

/-- Among moved blocks the label sink of a name is the moved one. -/
theorem sink?_moved (label : Option String) :
    sink? others label = (sink? nodes label).map (·.moved place) := by
  have otherDistinct : HaveDistinctSinks others := by
    intro first firstMember second secondMember firstIsSink secondIsSink same
    obtain ⟨firstOrigin, firstListed, rfl⟩ := (members first).mp firstMember
    obtain ⟨secondOrigin, secondListed, rfl⟩ := (members second).mp secondMember
    rw [distinct firstOrigin firstListed secondOrigin secondListed firstIsSink secondIsSink same]
  apply Option.ext
  intro sink
  rw [sink?_eq_some_iff otherDistinct, Option.map_eq_some_iff, members]
  constructor
  · rintro ⟨⟨origin, listed, rfl⟩, isSink, labelled⟩
    exact ⟨origin, (sink?_eq_some_iff distinct).mpr ⟨listed, isSink, labelled⟩, rfl⟩
  · rintro ⟨origin, found, rfl⟩
    obtain ⟨listed, isSink, labelled⟩ := of_sink?_eq_some found
    exact ⟨⟨origin, listed, rfl⟩, isSink, labelled⟩

/-- A moved block is bound to what the block is bound to, moved. -/
theorem bind_moved (node : Node α) :
    bind others (node.moved place) = (bind nodes node).moved place := by
  have found := sink?_moved distinct members node.label
  unfold bind
  by_cases isSource : node.kind = .labelSource
  · have movedIsSource : (node.moved place).kind = .labelSource := isSource
    have movedLabel : (node.moved place).label = node.label := rfl
    rw [movedIsSource, isSource, movedLabel, found]
    cases sink? nodes node.label with
    | none => rfl
    | some sink =>
        simp only [Option.map_some, beq_self_eq_true, ↓reduceIte, Node.driver?_moved]
        cases sink.driver? 0 <;> rfl
  · have movedIsNot : (node.moved place).kind ≠ .labelSource := isSource
    simp [movedIsNot, isSource]

end Moved

/-- Binding keeps label sinks apart. -/
theorem HaveDistinctSinks.bind {nodes : List (Node α)} (distinct : HaveDistinctSinks nodes) :
    HaveDistinctSinks (nodes.map (bind nodes)) := by
  intro first firstMember second secondMember firstIsSink secondIsSink same
  obtain ⟨firstOrigin, firstListed, rfl⟩ := List.mem_map.mp firstMember
  obtain ⟨secondOrigin, secondListed, rfl⟩ := List.mem_map.mp secondMember
  rw [bind_kind] at firstIsSink secondIsSink
  rw [bind_label, bind_label] at same
  rw [distinct firstOrigin firstListed secondOrigin secondListed firstIsSink secondIsSink same]

end Compiled

end SignalFlow
