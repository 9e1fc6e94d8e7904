import SignalFlow.Host.Usual
import SignalFlow.Proofs.Connections
import SignalFlow.Proofs.Prediction

/-! # Reported loops are components

Computing blocks that drive each other form a graph (`Compiled.Feeds`). Its strongly connected
components are the classes of blocks each of which is reached from each other one. The search for
loops goes through the blocks in ascending order and skips those that it has found already; so it
finds each component with a cycle in it once, with exactly its blocks, and the components by their
lowest blocks (`Compiled.WellFormed.mem_loops_iff`, `Compiled.WellFormed.pairwise_loops`). These are
the loops that validating reports (`Compiled.loops_reported`).
-/

namespace SignalFlow.Compiled

open Relation Cycles

variable {α : Type}

/-! ## Components -/

/-- One computing block drives another. -/
def Feeds (compiled : Compiled α) (driver handle : Nat) : Prop :=
  compiled.Computes driver ∧ compiled.StepsBack handle driver

/-- Each of two blocks is reached from the other. -/
def StronglyConnected (compiled : Compiled α) (first second : Nat) : Prop :=
  ReflTransGen compiled.Feeds first second ∧ ReflTransGen compiled.Feeds second first

/-- A list holds the handles of a strongly connected component of computing blocks in ascending
order, and there is a cycle in the component; it may be a block that drives itself. -/
structure IsCyclicComponent (compiled : Compiled α) (members : List Nat) : Prop where
  ascending : members.Pairwise (· < ·)
  component : ∃ origin, compiled.Computes origin ∧ ∀ handle,
    handle ∈ members ↔ compiled.Computes handle ∧ compiled.StronglyConnected origin handle
  cyclic : ∃ handle ∈ members, TransGen compiled.Feeds handle handle

/-- The lowest handle of a list lies below all those of another one. -/
def StartsBelow (first second : List Nat) : Prop :=
  ∃ lowest ∈ first, ∀ handle ∈ second, lowest < handle

variable {compiled : Compiled α}

theorem computes_of_transGen_stepsBack {handle origin : Nat}
    (walk : TransGen compiled.StepsBack handle origin) : compiled.Computes handle := by
  obtain ⟨driver, step, -⟩ := TransGen.head'_iff.mp walk
  exact step.1

/-- A walk back to a computing block is a way along the wires from it. -/
theorem transGen_feeds_iff {origin handle : Nat} :
    TransGen compiled.Feeds origin handle ↔
      compiled.Computes origin ∧ TransGen compiled.StepsBack handle origin := by
  constructor
  · intro way
    induction way with
    | single feeds => exact ⟨feeds.1, .single feeds.2⟩
    | tail _ feeds ih => exact ⟨ih.1, .head feeds.2 ih.2⟩
  · rintro ⟨computes, walk⟩
    induction walk using TransGen.head_induction_on with
    | single step => exact .single ⟨computes, step⟩
    | head step walk ih => exact .tail ih ⟨computes_of_transGen_stepsBack walk, step⟩

theorem transGen_feeds_self_iff {handle : Nat} :
    TransGen compiled.Feeds handle handle ↔ TransGen compiled.StepsBack handle handle := by
  rw [transGen_feeds_iff, and_iff_right_iff_imp]
  exact computes_of_transGen_stepsBack

/-- On a cycle, to be strongly connected is to be reached by walks back both ways. -/
theorem stronglyConnected_iff {origin handle : Nat}
    (onCycle : TransGen compiled.StepsBack origin origin) :
    compiled.Computes handle ∧ compiled.StronglyConnected origin handle ↔
      TransGen compiled.StepsBack handle origin ∧ TransGen compiled.StepsBack origin handle := by
  constructor
  · rintro ⟨computes, forth, back⟩
    rcases reflTransGen_iff_eq_or_transGen.mp forth with rfl | forth
    · exact ⟨onCycle, onCycle⟩
    · rcases reflTransGen_iff_eq_or_transGen.mp back with rfl | back
      · exact ⟨onCycle, onCycle⟩
      · exact ⟨(transGen_feeds_iff.mp forth).2, (transGen_feeds_iff.mp back).2⟩
  · rintro ⟨forth, back⟩
    have computes := computes_of_transGen_stepsBack forth
    have forward := transGen_feeds_iff.mpr ⟨computes_of_transGen_stepsBack back, forth⟩
    have backward := transGen_feeds_iff.mpr ⟨computes, back⟩
    exact ⟨computes, forward.to_reflTransGen, backward.to_reflTransGen⟩

/-- Components that are not disjoint are the same. -/
theorem IsCyclicComponent.eq_of_mem {first second : List Nat} {handle : Nat}
    (isFirst : compiled.IsCyclicComponent first) (isSecond : compiled.IsCyclicComponent second)
    (inFirst : handle ∈ first) (inSecond : handle ∈ second) : first = second := by
  obtain ⟨origin, -, firstMembers⟩ := isFirst.component
  obtain ⟨other, -, secondMembers⟩ := isSecond.component
  obtain ⟨-, forth, back⟩ := (firstMembers handle).mp inFirst
  obtain ⟨-, otherForth, otherBack⟩ := (secondMembers handle).mp inSecond
  have sameMembers (member : Nat) : member ∈ first ↔ member ∈ second := by
    rw [firstMembers, secondMembers]
    refine and_congr_right fun _ => ⟨fun reached => ?_, fun reached => ?_⟩
    · exact ⟨(otherForth.trans back).trans reached.1, reached.2.trans (forth.trans otherBack)⟩
    · exact ⟨(forth.trans otherBack).trans reached.1, reached.2.trans (otherForth.trans back)⟩
  have nodup {members : List Nat} (ascending : members.Pairwise (· < ·)) : members.Nodup :=
    ascending.imp Nat.ne_of_lt
  have perm : first.Perm second := (List.perm_ext_iff_of_nodup (nodup isFirst.ascending)
    (nodup isSecond.ascending)).mpr sameMembers
  exact perm.eq_of_pairwise (fun _ _ _ _ below above => absurd below (Nat.lt_asymm above))
    isFirst.ascending isSecond.ascending

/-! ## The search -/

namespace WellFormed

variable [Scalar α] (wellFormed : compiled.WellFormed)
include wellFormed

theorem pairwise_candidates : (candidates compiled).Pairwise (· < ·) :=
  handles_pairwise wellFormed.handle_eq_of_toList isCandidate

/-- The loop through a block on a cycle is its component. -/
theorem isCyclicComponent_loop {start : Nat} (onCycle : TransGen compiled.StepsBack start start) :
    compiled.IsCyclicComponent (loop compiled start) where
  ascending := by
    unfold loop
    dsimp only
    split
    · exact wellFormed.pairwise_candidates.filter _
    · exact .nil
  component := by
    refine ⟨start, computes_of_transGen_stepsBack onCycle, fun handle => ?_⟩
    rw [wellFormed.mem_loop, stronglyConnected_iff onCycle]
  cyclic := ⟨start, wellFormed.mem_loop.mpr ⟨onCycle, onCycle⟩,
    transGen_feeds_self_iff.mpr onCycle⟩

theorem loop_eq_nil {start : Nat} (offCycle : ¬ TransGen compiled.StepsBack start start) :
    loop compiled start = [] := by
  rw [List.eq_nil_iff_forall_not_mem]
  intro handle member
  obtain ⟨forth, back⟩ := wellFormed.mem_loop.mp member
  exact offCycle (back.trans forth)

end WellFormed

/-- What holds in the course of the search: the loops found so far are components, in order, each of
which starts below the blocks that are left; and what lies on a cycle is left or has been found. -/
structure Searched (compiled : Compiled α) (found : List (List Nat)) (left : List Nat) : Prop where
  component {members : List Nat} : members ∈ found → compiled.IsCyclicComponent members
  ordered : found.Pairwise StartsBelow
  below {members : List Nat} : members ∈ found → StartsBelow members left
  covered {handle : Nat} : TransGen compiled.StepsBack handle handle →
    handle ∈ left ∨ ∃ members ∈ found, handle ∈ members

namespace Searched

variable {found : List (List Nat)} {start : Nat} {left : List Nat}

/-- A block may be left out that is on no cycle or has been found. -/
theorem skip (searched : Searched compiled found (start :: left))
    (settled : TransGen compiled.StepsBack start start → ∃ members ∈ found, start ∈ members) :
    Searched compiled found left where
  component := searched.component
  ordered := searched.ordered
  below member := by
    obtain ⟨lowest, inside, below⟩ := searched.below member
    exact ⟨lowest, inside, fun handle later => below handle (List.mem_cons_of_mem _ later)⟩
  covered {handle} onCycle := by
    rcases searched.covered onCycle with remaining | known
    · rcases List.mem_cons.mp remaining with rfl | later
      · exact .inr (settled onCycle)
      · exact .inl later
    · exact .inr known

variable [Scalar α] (wellFormed : compiled.WellFormed)
include wellFormed

/-- A block on a cycle that has not been found is the lowest one of its component. -/
theorem le_of_mem_loop (searched : Searched compiled found (start :: left))
    (ascending : (start :: left).Pairwise (· < ·)) (isNew : ¬ ∃ members ∈ found, start ∈ members)
    {handle : Nat} (member : handle ∈ loop compiled start) : start ≤ handle := by
  obtain ⟨forth, back⟩ := wellFormed.mem_loop.mp member
  rcases searched.covered (forth.trans back) with remaining | ⟨members, known, inside⟩
  · rcases List.mem_cons.mp remaining with rfl | later
    · exact Nat.le_refl _
    · exact Nat.le_of_lt (List.rel_of_pairwise_cons ascending later)
  · -- A component that holds the block would be the one of the start.
    have onCycle := back.trans forth
    have same := (searched.component known).eq_of_mem
      (wellFormed.isCyclicComponent_loop onCycle) inside member
    refine absurd ⟨members, known, ?_⟩ isNew
    rw [same]
    exact wellFormed.mem_loop.mpr ⟨onCycle, onCycle⟩

/-- The component of a block on a cycle that has not been found is added to the loops. -/
theorem add (searched : Searched compiled found (start :: left))
    (ascending : (start :: left).Pairwise (· < ·)) (isNew : ¬ ∃ members ∈ found, start ∈ members)
    (onCycle : TransGen compiled.StepsBack start start) :
    Searched compiled (found ++ [loop compiled start]) left := by
  have isComponent := wellFormed.isCyclicComponent_loop onCycle
  have inside := wellFormed.mem_loop.mpr ⟨onCycle, onCycle⟩
  refine ⟨fun member => ?_, ?_, fun member => ?_, fun {handle} onOther => ?_⟩
  · rcases List.mem_append.mp member with known | added
    · exact searched.component known
    · rw [List.mem_singleton.mp added]
      exact isComponent
  · rw [List.pairwise_append]
    refine ⟨searched.ordered, List.pairwise_singleton _ _, fun members known other added => ?_⟩
    rw [List.mem_singleton.mp added]
    obtain ⟨first, listed, below⟩ := searched.below known
    exact ⟨first, listed, fun handle member =>
      Nat.lt_of_lt_of_le (below start List.mem_cons_self)
        (searched.le_of_mem_loop wellFormed ascending isNew member)⟩
  · rcases List.mem_append.mp member with known | added
    · obtain ⟨first, listed, below⟩ := searched.below known
      exact ⟨first, listed, fun handle later => below handle (List.mem_cons_of_mem _ later)⟩
    · rw [List.mem_singleton.mp added]
      exact ⟨start, inside, fun handle later => List.rel_of_pairwise_cons ascending later⟩
  · rcases searched.covered onOther with remaining | ⟨members, known, member⟩
    · rcases List.mem_cons.mp remaining with rfl | later
      · exact .inr ⟨_, List.mem_append_right _ List.mem_cons_self, inside⟩
      · exact .inl later
    · exact .inr ⟨members, List.mem_append_left _ known, member⟩

/-- Going on with one block keeps what holds in the course of the search. -/
theorem step (searched : Searched compiled found (start :: left))
    (ascending : (start :: left).Pairwise (· < ·)) :
    ∃ next, loopsFrom compiled found (start :: left) = loopsFrom compiled next left ∧
      Searched compiled next left := by
  have seen_iff : found.any (·.contains start) = true ↔ ∃ members ∈ found, start ∈ members := by
    simp
  by_cases known : ∃ members ∈ found, start ∈ members
  · refine ⟨found, ?_, searched.skip fun _ => known⟩
    rw [loopsFrom, if_pos (seen_iff.mpr known)]
  · rw [loopsFrom, if_neg (mt seen_iff.mp known)]
    by_cases onCycle : TransGen compiled.StepsBack start start
    · refine ⟨found ++ [loop compiled start], ?_, searched.add wellFormed ascending known onCycle⟩
      have inside := wellFormed.mem_loop.mpr ⟨onCycle, onCycle⟩
      cases ended : loop compiled start with
      | nil =>
          rw [ended] at inside
          cases inside
      | cons first others => rfl
    · refine ⟨found, ?_, searched.skip fun cycle => absurd cycle onCycle⟩
      rw [wellFormed.loop_eq_nil onCycle]

/-- The search leaves nothing to be found. -/
theorem run (searched : Searched compiled found left) (ascending : left.Pairwise (· < ·)) :
    Searched compiled (loopsFrom compiled found left) [] := by
  -- By induction on the blocks left, for all loops found so far.
  induction left generalizing found with
  | nil => exact searched
  | cons start rest ih =>
      obtain ⟨next, same, stepped⟩ := searched.step wellFormed ascending
      rw [same]
      exact ih stepped ascending.of_cons

end Searched

namespace WellFormed

variable [Scalar α] (wellFormed : compiled.WellFormed)
include wellFormed

theorem searched_loops : Searched compiled (loops compiled) [] := by
  refine Searched.run wellFormed ⟨nofun, .nil, nofun, fun {handle} onCycle => .inl ?_⟩
    wellFormed.pairwise_candidates
  exact wellFormed.mem_candidates.mpr (computes_of_transGen_stepsBack onCycle)

/-- The loops are in the order of their lowest blocks, so that none comes twice. -/
theorem pairwise_loops : (loops compiled).Pairwise StartsBelow := wellFormed.searched_loops.ordered

/-- The loops are the components with cycles. -/
theorem mem_loops_iff {members : List Nat} :
    members ∈ loops compiled ↔ compiled.IsCyclicComponent members := by
  constructor
  · exact wellFormed.searched_loops.component
  · intro isComponent
    obtain ⟨handle, member, onCycle⟩ := isComponent.cyclic
    rcases wellFormed.searched_loops.covered (transGen_feeds_self_iff.mp onCycle) with
      none | ⟨found, listed, inside⟩
    · cases none
    · have isFound := wellFormed.searched_loops.component listed
      rw [isComponent.eq_of_mem isFound member inside]
      exact listed

/-- Each block of a loop is on a cycle. -/
theorem transGen_feeds_of_mem_loops {members : List Nat} (found : members ∈ loops compiled)
    {handle : Nat} (member : handle ∈ members) : TransGen compiled.Feeds handle handle :=
  transGen_feeds_self_iff.mpr (wellFormed.exists_loop_iff.mp ⟨members, found, member⟩)

end WellFormed

/-! ## The findings -/

/-- A finding names the blocks of a loop in their order. -/
def Reports (diagram : Diagram String) (members : List Nat) (finding : Finding) : Prop :=
  ∃ ids, finding = .algebraicLoop ids ∧
    List.Forall₂ (fun handle id => diagram.ids[handle]? = some id) members ids

section Findings

variable [Scalar α] {diagram : Diagram String} {defaultDt defaultRuntime : Setting α}
  {before after : List Notice}

/-- The ids of computing blocks stand for them one by one. -/
theorem forall₂_ids_of_computes [Host]
    (compiles : Completes (ofDiagram diagram defaultDt defaultRuntime) before compiled after)
    {members : List Nat} (compute : ∀ handle ∈ members, compiled.Computes handle) :
    List.Forall₂ (fun handle id => diagram.ids[handle]? = some id) members
      (members.filterMap fun handle => compiled.nodes[handle]?.map (·.id)) := by
  induction members with
  | nil => exact .nil
  | cons handle rest ih =>
      obtain ⟨⟨node, found, -⟩, others⟩ := List.forall_mem_cons.mp compute
      have idFound : compiled.nodes[handle]?.map (·.id) = some node.id := by
        rw [found, Option.map_some]
      rw [List.filterMap_cons, idFound]
      exact .cons (getElem?_ids_of_completes compiles handle ▸ idFound) (ih others)

/-- Each loop has its finding. -/
theorem forall₂_reports [Host]
    (compiles : Completes (ofDiagram diagram defaultDt defaultRuntime) before compiled after) :
    List.Forall₂ (Reports diagram) (loops compiled) (Validation.algebraicLoops compiled) := by
  have wellFormed := wellFormed_of_completes compiles
  rw [Validation.algebraicLoops, List.forall₂_map_right_iff, List.forall₂_same]
  intro members found
  refine ⟨_, rfl, forall₂_ids_of_computes compiles fun handle member => ?_⟩
  exact (transGen_feeds_iff.mp (wellFormed.transGen_feeds_of_mem_loops found member)).1

end Findings

/-- **Validating reports the components with cycles** of the graph of computing blocks, self-loops
among them: there is one finding for each, with the ids of exactly its blocks in ascending order,
and the findings are in the order of the lowest blocks. Each block named in a finding is on a
cycle. Only poles that are not found keep validating from telling so. -/
theorem loops_reported [Host] {diagram : Diagram String} {before after : List Notice}
    {compiled : Compiled Float}
    (compiles : Completes (ofDiagram diagram standardDt standardRuntime) before compiled after) :
    ((∃ findings, Completes (Validation.findings diagram) before findings after) ↔
      Validation.FindsPoles diagram compiled.constants) ∧
      (∀ findings later, Completes (Validation.findings diagram) before findings later →
        List.Forall₂ (Reports diagram) (loops compiled) (findings.filter (·.topic == .loop))) ∧
      (∀ members, members ∈ loops compiled ↔ compiled.IsCyclicComponent members) ∧
      (loops compiled).Pairwise StartsBelow ∧
      ∀ members ∈ loops compiled, ∀ handle ∈ members, TransGen compiled.Feeds handle handle := by
  have wellFormed := wellFormed_of_completes compiles
  refine ⟨Validation.exists_completes_findings_iff compiles, fun findings later tells => ?_,
    fun members => wellFormed.mem_loops_iff, wellFormed.pairwise_loops,
    fun members listed handle member => wellFormed.transGen_feeds_of_mem_loops listed member⟩
  have found := ((Validation.completes_findings_iff compiles).mp tells).1
  rw [Validation.filter_loop_of_findingsOf found]
  exact forall₂_reports compiles

/-- Three cycles of gains that lie among each other in load order, one of them a gain that drives
itself. The gain `t` lies behind a cycle, the cycle of `i` and `g` goes through a memory, and that
of `k` goes through a label. -/
def interleavedLoopsDiagram : Diagram String where
  blocks := [⟨"c", "constant", []⟩, ⟨"a", "gain", []⟩, ⟨"m", "gain", []⟩, ⟨"x", "gain", []⟩,
    ⟨"b", "gain", []⟩, ⟨"y", "gain", []⟩, ⟨"z", "gain", []⟩, ⟨"t", "gain", []⟩,
    ⟨"i", "integrator", []⟩, ⟨"g", "gain", []⟩, ⟨"w", "labelSource", []⟩, ⟨"k", "gain", []⟩,
    ⟨"sink", "labelSink", [("name", .text "w")]⟩]
  connections := [⟨"b", "a", 0, 0⟩, ⟨"a", "b", 0, 0⟩, ⟨"m", "m", 0, 0⟩, ⟨"z", "x", 0, 0⟩,
    ⟨"x", "y", 0, 0⟩, ⟨"y", "z", 0, 0⟩, ⟨"z", "t", 0, 0⟩, ⟨"i", "g", 0, 0⟩, ⟨"g", "i", 0, 0⟩,
    ⟨"w", "k", 0, 0⟩, ⟨"k", "sink", 0, 0⟩]
  vars := []
  runtime := .null
  dt := .null
  nextId := 1

open Host.Usual

theorem loops_reported_interleavedLoopsDiagram :
    ∃ (compiled : Compiled Float) (after : List Notice) (findings : List Finding),
      Completes (ofDiagram interleavedLoopsDiagram standardDt standardRuntime) [] compiled after ∧
      Completes (Validation.findings interleavedLoopsDiagram) [] findings after ∧
      loops compiled = [[1, 4], [2], [3, 5, 6]] ∧
      List.Forall₂ (Reports interleavedLoopsDiagram) (loops compiled)
        (findings.filter (·.topic == .loop)) ∧
      (∀ members, members ∈ loops compiled ↔ compiled.IsCyclicComponent members) ∧
      (loops compiled).Pairwise StartsBelow ∧
      ∀ members ∈ loops compiled, ∀ handle ∈ members, TransGen compiled.Feeds handle handle := by
  have runs : (outcome (ofDiagram interleavedLoopsDiagram (standardDt : Setting Float)
      standardRuntime) []).1.toOption.any (fun compiled =>
        loops compiled == [[1, 4], [2], [3, 5, 6]]) = true := by
    decide +kernel
  obtain ⟨compiled, after, compiles, same⟩ := exists_completes_of_any runs
  obtain ⟨complete, reported, components⟩ := loops_reported compiles
  obtain ⟨findings, tells⟩ := complete.mpr (Validation.findsPoles_of_noTransfer (by decide) _)
  exact ⟨compiled, after, findings, compiles, tells, beq_iff_eq.mp same,
    reported findings after tells, components⟩

end SignalFlow.Compiled
