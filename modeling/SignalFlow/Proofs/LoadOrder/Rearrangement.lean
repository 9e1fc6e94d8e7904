import SignalFlow.Proofs.Evaluation

/-! # Rearranged diagrams

Two compiled diagrams are rearrangements of each other (`Compiled.Rearranged`) if the same blocks
stand at different handles: `place` leads from a handle of the first to one of the second, `back`
leads the other way, and drivers are led along. States of the two correspond to each other
(`RunState.Corresponds`) if they read the same at corresponding handles, and what evaluates or
updates blocks of one diagram does so in the other.
-/

namespace SignalFlow

open Relation

variable {α : Type}

/-! ## Moved blocks -/

namespace Node

/-- A block at another handle, its drivers at other handles. -/
def moved (place : Nat → Nat) (node : Node α) : Node α :=
  { node with
    handle := place node.handle
    drivers := node.drivers.map fun (port, driver) => (port, place driver) }

variable {place back : Nat → Nat} {node : Node α}

theorem driver?_moved (port : Nat) :
    (node.moved place).driver? port = (node.driver? port).map place := by
  simp only [driver?, moved, List.find?_map, Option.map_map]
  rfl

@[simp] theorem driverHandles_moved :
    (node.moved place).driverHandles = node.driverHandles.map place := by
  simp only [driverHandles, moved, List.map_map]
  rfl

/-- A moved block has the same inputs from outputs that read the same at its drivers. -/
theorem inputs_moved [Scalar α] {first second : Array α}
    (same : ∀ driver ∈ node.driverHandles,
      second.getD (place driver) 0.0 = first.getD driver 0.0) :
    (node.moved place).inputs second = node.inputs first := by
  apply List.map_congr_left
  intro port _
  rw [driver?_moved]
  cases found : node.driver? port with
  | none => rfl
  | some driver =>
      have drives := Compiled.mem_driverHandles_of_driver? found
      simp only [Option.map_some, same driver drives]

/-- A block moved there and back again is the same. -/
theorem moved_moved (handle_eq : back (place node.handle) = node.handle)
    (drivers_eq : ∀ driver ∈ node.driverHandles, back (place driver) = driver) :
    (node.moved place).moved back = node := by
  have drivers : (node.drivers.map fun (port, driver) => (port, place driver)).map
      (fun (port, driver) => (port, back driver)) = node.drivers := by
    rw [List.map_map]
    conv_rhs => rw [← List.map_id node.drivers]
    apply List.map_congr_left
    rintro ⟨port, driver⟩ member
    have drives : driver ∈ node.driverHandles := List.mem_map_of_mem member
    simp [drivers_eq driver drives]
  simp only [moved, handle_eq, drivers]

end Node

/-! ## Rearrangements -/

/-- The blocks of a compiled diagram stand at other handles in another one. -/
structure Compiled.Rearranged (place back : Nat → Nat) (first second : Compiled α) : Prop where
  size_eq : second.nodes.size = first.nodes.size
  place_lt {handle : Nat} : handle < first.nodes.size → place handle < first.nodes.size
  back_lt {handle : Nat} : handle < first.nodes.size → back handle < first.nodes.size
  back_place {handle : Nat} : handle < first.nodes.size → back (place handle) = handle
  place_back {handle : Nat} : handle < first.nodes.size → place (back handle) = handle
  node_eq {handle : Nat} {node : Node α} :
    first.nodes[handle]? = some node → second.nodes[place handle]? = some (node.moved place)
  dt_eq : second.dt = first.dt

namespace Compiled.Rearranged

variable {place back : Nat → Nat} {first second : Compiled α}
  (rearranged : first.Rearranged place back second)
include rearranged

/-- Each block of the second diagram is a moved block of the first. -/
theorem exists_node {handle : Nat} {node : Node α} (found : second.nodes[handle]? = some node) :
    place (back handle) = handle ∧
      ∃ origin, first.nodes[back handle]? = some origin ∧ node = origin.moved place := by
  have inside : handle < first.nodes.size :=
    rearranged.size_eq ▸ (Array.getElem?_eq_some_iff.mp found).1
  have placed := rearranged.place_back inside
  have origin := Array.getElem?_eq_getElem (rearranged.back_lt inside)
  have moved := rearranged.node_eq origin
  rw [placed, found] at moved
  exact ⟨placed, _, origin, Option.some.inj moved⟩

/-- A test that moving does not affect has the same result at corresponding handles. -/
theorem exists_node_iff {test : Node α → Prop} (moved : ∀ node, test (node.moved place) ↔ test node)
    {handle : Nat} (inside : handle < first.nodes.size) :
    (∃ node, second.nodes[place handle]? = some node ∧ test node) ↔
      ∃ node, first.nodes[handle]? = some node ∧ test node := by
  have origin := Array.getElem?_eq_getElem inside
  rw [rearranged.node_eq origin, origin]
  simp [moved]

theorem isAlgebraic_iff {handle : Nat} (inside : handle < first.nodes.size) :
    second.IsAlgebraic (place handle) ↔ first.IsAlgebraic handle :=
  rearranged.exists_node_iff (fun _ => Iff.rfl) inside

theorem isSink_iff {handle : Nat} (inside : handle < first.nodes.size) :
    second.IsSink (place handle) ↔ first.IsSink handle :=
  rearranged.exists_node_iff (fun _ => Iff.rfl) inside

theorem isMirror_iff {handle : Nat} (inside : handle < first.nodes.size) :
    second.IsMirror (place handle) ↔ first.IsMirror handle :=
  rearranged.exists_node_iff (fun _ => Iff.rfl) inside

omit rearranged in
theorem lt_of_isAlgebraic {handle : Nat} (algebraic : first.IsAlgebraic handle) :
    handle < first.nodes.size := by
  obtain ⟨node, found, -⟩ := algebraic
  exact (Array.getElem?_eq_some_iff.mp found).1

/-- The drivers of a moved block are the places of its drivers. -/
theorem driversOf_eq {handle : Nat} (inside : handle < first.nodes.size) :
    driversOf second.nodes (place handle) = (driversOf first.nodes handle).map place := by
  have origin := Array.getElem?_eq_getElem inside
  rw [driversOf_of_getElem? origin, driversOf_of_getElem? (rearranged.node_eq origin),
    Node.driverHandles_moved]

theorem depends_place {handle driver : Nat} (depends : first.Depends handle driver) :
    second.Depends (place handle) (place driver) := by
  obtain ⟨algebraic, driverAlgebraic, drives⟩ := depends
  have inside := lt_of_isAlgebraic algebraic
  refine ⟨(rearranged.isAlgebraic_iff inside).mpr algebraic,
    (rearranged.isAlgebraic_iff (lt_of_isAlgebraic driverAlgebraic)).mpr driverAlgebraic, ?_⟩
  rw [rearranged.driversOf_eq inside]
  exact List.mem_map_of_mem drives

variable [Scalar α] (wellFormed : first.WellFormed)
include wellFormed

/-- A rearrangement can be undone. -/
theorem symm : second.Rearranged back place first where
  size_eq := rearranged.size_eq.symm
  place_lt inside := by
    rw [rearranged.size_eq] at inside ⊢
    exact rearranged.back_lt inside
  back_lt inside := by
    rw [rearranged.size_eq] at inside ⊢
    exact rearranged.place_lt inside
  back_place inside := rearranged.place_back (rearranged.size_eq ▸ inside)
  place_back inside := rearranged.back_place (rearranged.size_eq ▸ inside)
  node_eq := by
    intro handle node found
    obtain ⟨-, origin, originFound, rfl⟩ := rearranged.exists_node found
    have inside := (Array.getElem?_eq_some_iff.mp originFound).1
    rw [originFound, Node.moved_moved]
    · rw [wellFormed.handle_eq originFound]
      exact rearranged.back_place inside
    · intro driver drives
      exact rearranged.back_place (wellFormed.driver_lt originFound drives)
  dt_eq := rearranged.dt_eq.symm

/-- A rearranged diagram has no cycles either. -/
theorem isAcyclic (acyclic : first.IsAcyclic) : second.IsAcyclic := by
  intro handle cycle
  have undone := rearranged.symm wellFormed
  exact acyclic (back handle) (cycle.lift back fun _ _ depends => undone.depends_place depends)

/-- A rearranged diagram has no more mirrors. -/
theorem mirrors_length_le (secondWellFormed : second.WellFormed) :
    second.mirrors.length ≤ first.mirrors.length := by
  have undone := rearranged.symm wellFormed
  have inside {handle : Nat} (member : handle ∈ second.mirrors) : handle < second.nodes.size :=
    lt_of_isAlgebraic (secondWellFormed.mem_mirrors.mp member).isAlgebraic
  have nodup : (second.mirrors.map back).Nodup := by
    refine secondWellFormed.mirrors_nodup.map_on fun one oneMember other otherMember same => ?_
    rw [← undone.back_place (inside oneMember), same, undone.back_place (inside otherMember)]
  have within : second.mirrors.map back ⊆ first.mirrors := by
    intro handle member
    obtain ⟨origin, originMember, rfl⟩ := List.mem_map.mp member
    rw [wellFormed.mem_mirrors, undone.isMirror_iff (inside originMember)]
    exact secondWellFormed.mem_mirrors.mp originMember
  have bound := (List.subperm_of_subset nodup within).length_le
  rwa [List.length_map] at bound

end Compiled.Rearranged

end SignalFlow
