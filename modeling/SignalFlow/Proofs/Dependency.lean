import SignalFlow.Proofs.WellFormed

/-! # Dependencies between algebraic blocks

An algebraic block either mirrors a label sink (`Compiled.IsMirror`) or computes its output from its
drivers (`Compiled.Computes`). Walking back from a block to its drivers, as long as these compute,
may come to an end, reach a sink or run into a cycle; a computing block from which neither happens
is grounded (`Compiled.IsGrounded`).
-/

namespace SignalFlow.Compiled

open Relation

variable {α : Type} (compiled : Compiled α)

/-- The block at a handle is resolved together with others. -/
def IsAlgebraic (handle : Nat) : Prop :=
  ∃ node, compiled.nodes[handle]? = some node ∧ node.phase = .algebraic

/-- The block at a handle is a label source that mirrors a label sink. -/
def IsMirror (handle : Nat) : Prop :=
  ∃ node, compiled.nodes[handle]? = some node ∧ node.seedsLoop = true

/-- The block at a handle is algebraic and no mirror. -/
def Computes (handle : Nat) : Prop :=
  ∃ node, compiled.nodes[handle]? = some node ∧ node.phase = .algebraic ∧ node.seedsLoop = false

/-- The block at a handle is read last. -/
def IsSink (handle : Nat) : Prop :=
  ∃ node, compiled.nodes[handle]? = some node ∧ node.phase = .sink

/-- One step of a walk back: from a computing block to one of its drivers. -/
def StepsBack (handle driver : Nat) : Prop :=
  compiled.Computes handle ∧ driver ∈ driversOf compiled.nodes handle

/-- Walking back from a block never reaches a sink and never runs into a cycle. -/
def IsGrounded (handle : Nat) : Prop :=
  ∀ origin, ReflTransGen compiled.StepsBack handle origin →
    ¬ compiled.IsSink origin ∧ ¬ TransGen compiled.StepsBack origin origin

/-- One algebraic block depends on another: the other drives it. -/
def Depends (handle driver : Nat) : Prop :=
  compiled.IsAlgebraic handle ∧ compiled.IsAlgebraic driver ∧
    driver ∈ driversOf compiled.nodes handle

/-- No algebraic block depends on itself, neither at once nor through others. -/
def IsAcyclic : Prop := ∀ handle, ¬ TransGen compiled.Depends handle handle

/-- Whether each block lies higher than its drivers, none of which is a sink, with the heights of the
blocks as a list by handle. -/
def isLayered (heights : List Nat) : Bool :=
  compiled.nodes.toList.all fun node => node.driverHandles.all fun driver =>
    heights.getD driver 0 < heights.getD node.handle 0 &&
      (compiled.nodes[driver]?).all (·.phase != .sink)

/-- The handles of the mirrors. -/
def mirrors : List Nat := handles compiled.nodes.toList (·.seedsLoop)

variable {compiled}

theorem IsMirror.isAlgebraic {handle : Nat} (mirror : compiled.IsMirror handle) :
    compiled.IsAlgebraic handle := by
  obtain ⟨node, found, seeds⟩ := mirror
  simp only [Node.seedsLoop, Bool.and_eq_true, beq_iff_eq] at seeds
  exact ⟨node, found, seeds.1⟩

theorem Computes.isAlgebraic {handle : Nat} (computes : compiled.Computes handle) :
    compiled.IsAlgebraic handle := by
  obtain ⟨node, found, algebraic, -⟩ := computes
  exact ⟨node, found, algebraic⟩

theorem IsAlgebraic.cases {handle : Nat} (algebraic : compiled.IsAlgebraic handle) :
    compiled.IsMirror handle ∨ compiled.Computes handle := by
  obtain ⟨node, found, isAlgebraic⟩ := algebraic
  cases seeds : node.seedsLoop with
  | true => exact .inl ⟨node, found, seeds⟩
  | false => exact .inr ⟨node, found, isAlgebraic, seeds⟩

theorem IsAlgebraic.not_isSink {handle : Nat} (algebraic : compiled.IsAlgebraic handle) :
    ¬ compiled.IsSink handle := by
  rintro ⟨node, found, sink⟩
  obtain ⟨other, otherFound, isAlgebraic⟩ := algebraic
  obtain rfl : node = other := Option.some.inj (found.symm.trans otherFound)
  rw [sink] at isAlgebraic
  cases isAlgebraic

theorem Computes.not_isMirror {handle : Nat} (computes : compiled.Computes handle) :
    ¬ compiled.IsMirror handle := by
  rintro ⟨node, found, seeds⟩
  obtain ⟨other, otherFound, -, seedsNot⟩ := computes
  obtain rfl : node = other := Option.some.inj (found.symm.trans otherFound)
  rw [seeds] at seedsNot
  cases seedsNot

@[simp] theorem driversOf_of_getElem? {nodes : Array (Node α)} {handle : Nat} {node : Node α}
    (found : nodes[handle]? = some node) : driversOf nodes handle = node.driverHandles := by
  simp [driversOf, found]

namespace WellFormed

variable [Scalar α] (wellFormed : compiled.WellFormed)
include wellFormed

theorem mem_mirrors {handle : Nat} : handle ∈ compiled.mirrors ↔ compiled.IsMirror handle :=
  wellFormed.mem_handles

theorem mem_computing {handle : Nat} :
    handle ∈ handles compiled.nodes.toList
      (fun node => node.phase == .algebraic && !node.seedsLoop) ↔ compiled.Computes handle := by
  rw [wellFormed.mem_handles]
  simp [Computes]

theorem mirrors_nodup : compiled.mirrors.Nodup :=
  handles_nodup wellFormed.handle_eq_of_toList _

/-- A handle that the output order lists is no algebraic one. -/
theorem not_isAlgebraic_of_mem_outputOrder {handle : Nat} (member : handle ∈ compiled.outputOrder) :
    ¬ compiled.IsAlgebraic handle := by
  rintro ⟨other, otherFound, algebraic⟩
  obtain ⟨node, found, phase⟩ := wellFormed.mem_outputOrder.mp member
  obtain rfl : node = other := Option.some.inj (found.symm.trans otherFound)
  rw [algebraic] at phase
  simp at phase

/-- Each block is listed in the output order, is algebraic or is a sink. -/
theorem phase_cases {handle : Nat} (inside : handle < compiled.nodes.size) :
    handle ∈ compiled.outputOrder ∨ compiled.IsAlgebraic handle ∨ compiled.IsSink handle := by
  have found : compiled.nodes[handle]? = some compiled.nodes[handle] := by simp [inside]
  cases phase : compiled.nodes[handle].phase with
  | source => exact .inl (wellFormed.mem_outputOrder.mpr ⟨_, found, .inl phase⟩)
  | memory => exact .inl (wellFormed.mem_outputOrder.mpr ⟨_, found, .inr phase⟩)
  | algebraic => exact .inr (.inl ⟨_, found, phase⟩)
  | sink => exact .inr (.inr ⟨_, found, phase⟩)

omit [Scalar α] wellFormed in
theorem lt_of_mem_driversOf {handle driver : Nat}
    (drives : driver ∈ driversOf compiled.nodes handle) : handle < compiled.nodes.size := by
  by_contra outside
  simp [driversOf, Nat.le_of_not_lt outside] at drives

theorem driver_lt_of_mem_driversOf {handle driver : Nat}
    (drives : driver ∈ driversOf compiled.nodes handle) : driver < compiled.nodes.size := by
  unfold driversOf at drives
  split at drives
  · rename_i node found
    exact wellFormed.driver_lt found drives
  · cases drives

/-- In a diagram with layers drivers lie lower than the blocks that they feed, and are no sinks. -/
theorem of_isLayered {heights : List Nat} (layered : compiled.isLayered heights = true)
    {handle driver : Nat} (drives : driver ∈ driversOf compiled.nodes handle) :
    heights.getD driver 0 < heights.getD handle 0 ∧ ¬ compiled.IsSink driver := by
  have inside := lt_of_mem_driversOf drives
  have found : compiled.nodes[handle]? = some compiled.nodes[handle] := by simp [inside]
  have listed : compiled.nodes[handle] ∈ compiled.nodes.toList := by simp
  rw [driversOf_of_getElem? found] at drives
  have checked := List.all_eq_true.mp (List.all_eq_true.mp layered _ listed) driver drives
  rw [Bool.and_eq_true, decide_eq_true_iff, wellFormed.handle_eq found] at checked
  refine ⟨checked.1, ?_⟩
  rintro ⟨node, driverFound, sink⟩
  have notSink := checked.2
  rw [driverFound] at notSink
  simp [sink] at notSink

/-- Where dependencies lead to lower and lower blocks there is no cycle. -/
theorem isAcyclic_of_isLayered {heights : List Nat} (layered : compiled.isLayered heights = true) :
    compiled.IsAcyclic := by
  have below {handle origin : Nat} (path : TransGen compiled.Depends handle origin) :
      heights.getD origin 0 < heights.getD handle 0 := by
    induction path with
    | single depends => exact (wellFormed.of_isLayered layered depends.2.2).1
    | tail _ depends ih => exact (wellFormed.of_isLayered layered depends.2.2).1.trans ih
  intro handle cycle
  exact Nat.lt_irrefl _ (below cycle)

/-- The algebraic order: the mirrors first, then blocks that follow all computing blocks that drive
them, then blocks that wait for each other. -/
theorem exists_split_algebraicOrder : ∃ ready blocked,
    compiled.algebraicOrder = compiled.mirrors ++ (ready ++ blocked) ∧
      IsSplit (driversOf compiled.nodes)
        (handles compiled.nodes.toList fun node => node.phase == .algebraic && !node.seedsLoop)
        ready blocked := by
  obtain ⟨ready, blocked, order, split⟩ := exists_split_stableOrder (driversOf compiled.nodes)
    (handles_nodup wellFormed.handle_eq_of_toList
      fun node => node.phase == .algebraic && !node.seedsLoop)
  refine ⟨ready, blocked, ?_, split⟩
  rw [wellFormed.algebraicOrder_eq, order, mirrors]

theorem mem_algebraicOrder {handle : Nat} :
    handle ∈ compiled.algebraicOrder ↔ compiled.IsAlgebraic handle := by
  obtain ⟨ready, blocked, order, split⟩ := wellFormed.exists_split_algebraicOrder
  rw [order, List.mem_append, split.perm.mem_iff, wellFormed.mem_mirrors, wellFormed.mem_computing]
  constructor
  · rintro (mirror | computes)
    · exact mirror.isAlgebraic
    · exact computes.isAlgebraic
  · exact IsAlgebraic.cases

theorem algebraicOrder_nodup : compiled.algebraicOrder.Nodup := by
  obtain ⟨ready, blocked, order, split⟩ := wellFormed.exists_split_algebraicOrder
  rw [order, List.nodup_append]
  refine ⟨wellFormed.mirrors_nodup, ?_, ?_⟩
  · exact split.perm.nodup_iff.mpr (handles_nodup wellFormed.handle_eq_of_toList _)
  · rintro handle mirror other member rfl
    have computes := wellFormed.mem_computing.mp (split.perm.subset member)
    exact computes.not_isMirror (wellFormed.mem_mirrors.mp mirror)

end WellFormed

end SignalFlow.Compiled
