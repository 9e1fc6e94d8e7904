import SignalFlow.Host.Usual
import SignalFlow.Proofs.Resolution.FixedPoint
import SignalFlow.Proofs.Resolution.Solution

/-! # Convergence

Mirrors are visited before the blocks that drive them and start out at zero, so what a pass computes
from them may be stale. A block is right after one pass more than there are mirrors that it depends
on (`Compiled.rank`): on the way from a block to what it depends on the rank never rises, and drops
at each mirror, while blocks that compute are visited after the computing blocks that drive them.
As there are only so many mirrors, all blocks are right in the end, and then a pass shows that.
-/

namespace SignalFlow.Compiled

open Relation

variable {α : Type} [Scalar α]

/-! ## Ranks -/

section Rank

open Classical in
/-- The mirrors that a block depends on, itself included. -/
noncomputable def mirrorsBehind (compiled : Compiled α) (handle : Nat) : Finset Nat :=
  compiled.mirrors.toFinset.filter fun mirror => ReflTransGen compiled.Depends handle mirror

/-- The number of mirrors that a block depends on. -/
noncomputable def rank (compiled : Compiled α) (handle : Nat) : Nat :=
  (compiled.mirrorsBehind handle).card

variable {compiled : Compiled α}

omit [Scalar α] in
theorem mem_mirrorsBehind {handle mirror : Nat} : mirror ∈ compiled.mirrorsBehind handle ↔
    mirror ∈ compiled.mirrors ∧ ReflTransGen compiled.Depends handle mirror := by
  simp [mirrorsBehind]

omit [Scalar α] in
theorem rank_le (handle : Nat) : compiled.rank handle ≤ compiled.mirrors.length := by
  have within : compiled.mirrorsBehind handle ⊆ compiled.mirrors.toFinset := by
    intro mirror member
    exact List.mem_toFinset.mpr (mem_mirrorsBehind.mp member).1
  exact (Finset.card_le_card within).trans (List.toFinset_card_le _)

omit [Scalar α] in
/-- What a driver depends on, a block depends on as well. -/
theorem mirrorsBehind_subset {handle driver : Nat} (depends : compiled.Depends handle driver) :
    compiled.mirrorsBehind driver ⊆ compiled.mirrorsBehind handle := by
  intro mirror member
  obtain ⟨listed, path⟩ := mem_mirrorsBehind.mp member
  exact mem_mirrorsBehind.mpr ⟨listed, .head depends path⟩

omit [Scalar α] in
/-- The rank does not rise on the way to a driver. -/
theorem rank_le_of_depends {handle driver : Nat} (depends : compiled.Depends handle driver) :
    compiled.rank driver ≤ compiled.rank handle :=
  Finset.card_le_card (mirrorsBehind_subset depends)

/-- A mirror is among the mirrors that it depends on. -/
theorem self_mem_mirrorsBehind (wellFormed : compiled.WellFormed) {handle : Nat}
    (mirror : compiled.IsMirror handle) : handle ∈ compiled.mirrorsBehind handle :=
  mem_mirrorsBehind.mpr ⟨wellFormed.mem_mirrors.mpr mirror, .refl⟩

/-- The rank drops on the way from a mirror to its driver. -/
theorem rank_lt_of_depends (wellFormed : compiled.WellFormed) (acyclic : compiled.IsAcyclic)
    {handle driver : Nat} (mirror : compiled.IsMirror handle)
    (depends : compiled.Depends handle driver) : compiled.rank driver < compiled.rank handle := by
  apply Finset.card_lt_card
  rw [Finset.ssubset_iff_of_subset (mirrorsBehind_subset depends)]
  refine ⟨handle, self_mem_mirrorsBehind wellFormed mirror, fun member => ?_⟩
  exact acyclic handle (.head' depends (mem_mirrorsBehind.mp member).2)

end Rank

/-! ## Blocks that have become right -/

/-- In a state a block is settled at the output that it has in a solution. -/
def IsRight (outputs : Array α) (state : RunState α) (handle : Nat) : Prop :=
  state.isSettled handle = true ∧ state.outputOf handle = outputs.getD handle 0.0

/-- The drivers of algebraic blocks are algebraic themselves or settled. -/
def IsSupplied (compiled : Compiled α) (state : RunState α) : Prop :=
  ∀ handle driver, compiled.IsAlgebraic handle → driver ∈ driversOf compiled.nodes handle →
    compiled.IsAlgebraic driver ∨ state.isSettled driver = true

/-- Blocks in an order of visits: of one that is due, each algebraic driver is sure beforehand, or
due as well and not visited any later. -/
def IsChain (compiled : Compiled α) (sure due : Nat → Prop) : List Nat → Prop
  | [] => True
  | handle :: rest =>
      (due handle → ∀ driver, compiled.Depends handle driver →
        sure driver ∨ (due driver ∧ driver ∉ handle :: rest)) ∧ IsChain compiled sure due rest

section Right

variable {compiled : Compiled α} {opened state : RunState α} {outputs : Array α}
  {sure due : Nat → Prop}

omit [Scalar α] in
theorem isChain_of_driversFirst {handles : List Nat}
    (driversFirst : DriversFirst (driversOf compiled.nodes) handles)
    (inherited : ∀ handle driver, compiled.Depends handle driver → due handle → due driver) :
    compiled.IsChain sure due handles := by
  induction handles with
  | nil => trivial
  | cons handle rest ih =>
      refine ⟨fun isDue driver depends => .inr ?_, ih driversFirst.2⟩
      exact ⟨inherited handle driver depends isDue, driversFirst.1 driver depends.2.2⟩

omit [Scalar α] in
/-- Blocks whose algebraic drivers are all sure may come first. -/
theorem IsChain.append {first second : List Nat}
    (supplied : ∀ handle ∈ first, due handle → ∀ driver, compiled.Depends handle driver → sure driver)
    (chain : compiled.IsChain sure due second) : compiled.IsChain sure due (first ++ second) := by
  induction first with
  | nil => exact chain
  | cons handle rest ih =>
      refine ⟨fun isDue driver depends => .inl ?_, ih fun other member =>
        supplied other (List.mem_cons_of_mem _ member)⟩
      exact supplied handle List.mem_cons_self isDue driver depends

variable [LawfulBEq α] (wellFormed : compiled.WellFormed)
  (solves : compiled.Solves opened outputs) (supplied : compiled.IsSupplied opened)
include wellFormed solves

/-- A visit of a block whose drivers are right makes the block right. -/
theorem isRight_advance (fits : opened.Fits compiled) (revision : compiled.IsRevision opened state)
    {handle : Nat} (algebraic : compiled.IsAlgebraic handle)
    (drivers : ∀ driver ∈ driversOf compiled.nodes handle, IsRight outputs state driver) :
    IsRight outputs (compiled.advance state handle) handle := by
  obtain ⟨node, found, phase⟩ := algebraic
  rw [driversOf_of_getElem? found] at drivers
  have inside := (Array.getElem?_eq_some_iff.mp found).1
  have stateFits := revision.fits fits
  have fed : node.isFed state = true :=
    Node.isFed_iff.mpr fun driver drives => (drivers driver drives).1
  have value : node.value state = outputs.getD handle 0.0 := by
    have inputs : node.inputs state.outputs = node.inputs outputs :=
      Node.inputs_congr fun driver drives => (drivers driver drives).2
    rw [Node.value, inputs, wellFormed.handle_eq found, revision.memory_eq,
      solves.eq_response wellFormed found phase]
  rw [advance_of_getElem? found, RunState.visited]
  by_cases progress : node.progresses state = true
  · rw [if_pos progress, value, wellFormed.handle_eq found]
    exact ⟨RunState.isSettled_settle_self _ (stateFits.settled ▸ inside),
      RunState.outputOf_settle_self _ (stateFits.outputs ▸ inside)⟩
  · obtain ⟨settled, same⟩ := settled_of_not_progresses (by simpa using progress) fed
    rw [wellFormed.handle_eq found] at settled same
    rw [if_neg progress]
    exact ⟨settled, (eq_of_beq same).trans value⟩

include supplied

/-- Visiting a chain of blocks makes right all that are due. -/
theorem isRight_sweep (fits : opened.Fits compiled) (revision : compiled.IsRevision opened state)
    {handles : List Nat} (algebraic : ∀ handle ∈ handles, compiled.IsAlgebraic handle)
    (chain : compiled.IsChain sure due handles) (isDue : ∀ handle, sure handle → due handle)
    (right : ∀ handle, compiled.IsAlgebraic handle →
      sure handle ∨ (due handle ∧ handle ∉ handles) → IsRight outputs state handle) :
    ∀ handle, compiled.IsAlgebraic handle → due handle →
      IsRight outputs (compiled.sweep handles state) handle := by
  induction handles generalizing state with
  | nil =>
      intro handle isAlgebraic isDue
      exact right handle isAlgebraic (.inr ⟨isDue, List.not_mem_nil⟩)
  | cons first rest ih =>
      have firstAlgebraic := algebraic first List.mem_cons_self
      have next := isRevision_advance wellFormed firstAlgebraic state
      rw [sweep_cons]
      refine ih (revision.trans next)
        (fun handle member => algebraic handle (List.mem_cons_of_mem _ member)) chain.2 ?_
      intro handle isAlgebraic known
      -- Only the block just visited may have become right; the others were so before.
      by_cases same : handle = first
      · subst same
        have handleDue : due handle := known.elim (isDue handle) And.left
        refine isRight_advance wellFormed solves fits revision isAlgebraic fun driver drives => ?_
        by_cases driverAlgebraic : compiled.IsAlgebraic driver
        · exact right driver driverAlgebraic
            (chain.1 handleDue driver ⟨isAlgebraic, driverAlgebraic, drives⟩)
        · have settled := (supplied handle driver isAlgebraic drives).resolve_left driverAlgebraic
          exact ⟨revision.isSettled_of_isSettled settled,
            (revision.outputOf_eq driverAlgebraic).trans (solves.kept driverAlgebraic).symm⟩
      · have before : IsRight outputs state handle := by
          refine right handle isAlgebraic (known.imp id fun later => ⟨later.1, ?_⟩)
          exact List.not_mem_cons_of_ne_of_not_mem same later.2
        rw [IsRight, (advance_of_ne wellFormed same state).1, (advance_of_ne wellFormed same state).2]
        exact before

end Right

/-! ## Passes up to convergence -/

section Passes

variable {compiled : Compiled α} {opened : RunState α} {outputs : Array α}
  (wellFormed : compiled.WellFormed) (acyclic : compiled.IsAcyclic)
include wellFormed acyclic

/-- Without cycles the computing blocks follow the mirrors, their drivers first. -/
theorem exists_algebraicOrder_eq : ∃ ready, compiled.algebraicOrder = compiled.mirrors ++ ready ∧
    DriversFirst (driversOf compiled.nodes) ready := by
  obtain ⟨ready, blocked, order, split⟩ := wellFormed.exists_split_algebraicOrder
  have algebraic : ∀ handle ∈ blocked, compiled.IsAlgebraic handle := fun handle member =>
    (wellFormed.mem_computing.mp (split.perm.subset (List.mem_append_right _ member))).isAlgebraic
  have waiting : ∀ handle ∈ blocked, ∃ driver ∈ blocked, compiled.Depends handle driver := by
    intro handle member
    obtain ⟨driver, drives, isBlocked⟩ := split.waiting handle member
    exact ⟨driver, isBlocked, algebraic handle member, algebraic driver isBlocked, drives⟩
  cases blocked with
  | nil => exact ⟨ready, by rw [order, List.append_nil], split.driversFirst⟩
  | cons handle rest =>
      obtain ⟨origin, -, cycle⟩ := exists_cycle_of_blocked _ waiting List.mem_cons_self
      exact absurd cycle (acyclic origin)

/-- In a pass the blocks of a rank below the number of passes are due, and those of a lower rank are
sure beforehand. -/
theorem isChain_algebraicOrder (count : Nat) :
    compiled.IsChain (compiled.rank · < count) (compiled.rank · < count + 1)
      compiled.algebraicOrder := by
  obtain ⟨ready, order, driversFirst⟩ := exists_algebraicOrder_eq wellFormed acyclic
  rw [order]
  apply IsChain.append
  · -- A mirror may read a block that is visited later, but that one is sure by its rank.
    intro handle member isDue driver depends
    have mirror := wellFormed.mem_mirrors.mp member
    have drops := rank_lt_of_depends wellFormed acyclic mirror depends
    omega
  · apply isChain_of_driversFirst driversFirst
    intro handle driver depends isDue
    have bound := rank_le_of_depends depends
    omega

/-- After some passes all algebraic blocks of a lower rank are right. -/
theorem isRight_iterate_passed [LawfulBEq α] (fits : opened.Fits compiled)
    (supplied : compiled.IsSupplied opened) (solves : compiled.Solves opened outputs)
    (count handle : Nat) (algebraic : compiled.IsAlgebraic handle)
    (low : compiled.rank handle < count) :
    IsRight outputs (compiled.passed^[count] (compiled.seeded opened)) handle := by
  induction count generalizing handle with
  | zero => exact absurd low (Nat.not_lt_zero _)
  | succ count ih =>
      have revision := (isRevision_seeded wellFormed opened).trans
        (isRevision_iterate_passed wellFormed count (compiled.seeded opened))
      rw [Function.iterate_succ_apply']
      refine isRight_sweep wellFormed solves supplied fits revision
        (fun other member => wellFormed.mem_algebraicOrder.mp member)
        (isChain_algebraicOrder wellFormed acyclic count) (fun other => Nat.lt_succ_of_lt) ?_
        handle algebraic low
      rintro other otherAlgebraic (sure | ⟨-, absent⟩)
      · exact ih other otherAlgebraic sure
      · exact absurd (wellFormed.mem_algebraicOrder.mpr otherAlgebraic) absent

omit wellFormed acyclic in
/-- Visits of blocks none of which makes progress are no progress. -/
theorem progressOver_eq_false {handles : List Nat} {state : RunState α}
    (still : ∀ handle ∈ handles, ∀ node, compiled.nodes[handle]? = some node →
      node.progresses state = false) : compiled.progressOver handles state = false := by
  induction handles with
  | nil => rfl
  | cons handle rest ih =>
      have later := ih fun other member => still other (List.mem_cons_of_mem _ member)
      rw [progressOver, Bool.or_eq_false_iff]
      cases found : compiled.nodes[handle]? with
      | none =>
          rw [advance, found]
          exact ⟨rfl, later⟩
      | some node =>
          have unmoved := still handle List.mem_cons_self node found
          rw [advance_of_getElem? found, RunState.visited, unmoved, Option.any_some]
          exact ⟨unmoved, later⟩

omit wellFormed acyclic in
/-- Where all algebraic blocks are right the outputs are those of the solution. -/
theorem outputs_eq_of_isRight {state : RunState α} (solves : compiled.Solves opened outputs)
    (revision : compiled.IsRevision opened state)
    (right : ∀ handle, compiled.IsAlgebraic handle → IsRight outputs state handle) :
    state.outputs = outputs := by
  have same (handle : Nat) : state.outputs.getD handle 0.0 = outputs.getD handle 0.0 := by
    by_cases algebraic : compiled.IsAlgebraic handle
    · exact (right handle algebraic).2
    · exact (revision.outputOf_eq algebraic).trans (solves.kept algebraic).symm
  exact RunState.eq_of_getD (revision.outputs_size.trans solves.size_eq.symm) same

omit acyclic in
/-- Where all algebraic blocks are right a pass makes no progress. -/
theorem hasProgress_of_isRight [LawfulBEq α] {state : RunState α}
    (solves : compiled.Solves opened outputs) (revision : compiled.IsRevision opened state)
    (right : ∀ handle, compiled.IsAlgebraic handle → IsRight outputs state handle) :
    compiled.hasProgress state = false := by
  apply progressOver_eq_false
  intro handle member node found
  have algebraic := wellFormed.mem_algebraicOrder.mp member
  obtain ⟨settled, output⟩ := right handle algebraic
  obtain ⟨other, otherFound, phase⟩ := algebraic
  obtain rfl : node = other := Option.some.inj (found.symm.trans otherFound)
  have value : state.outputOf handle = node.value state := by
    rw [output, Node.value, outputs_eq_of_isRight solves revision right, wellFormed.handle_eq found,
      revision.memory_eq, solves.eq_response wellFormed found phase]
  rw [Node.progresses, wellFormed.handle_eq found, settled, value]
  simp

/-- Without cycles resolving converges, after at most two passes more than there are mirrors, to a
solution. -/
theorem completes_resolve_of_isAcyclic [LawfulBEq α] (fits : opened.Fits compiled)
    (supplied : compiled.IsSupplied opened) {limit : Nat}
    (enough : compiled.mirrors.length + 2 ≤ limit) :
    ∃ passes final, Completes (compiled.resolve limit) opened ⟨passes, true⟩ final ∧
      passes ≤ compiled.mirrors.length + 2 ∧ compiled.IsRevision opened final ∧
      (∀ handle, compiled.IsAlgebraic handle → final.isSettled handle = true) ∧
      compiled.Solves opened final.outputs := by
  obtain ⟨order, perm, driversFirst⟩ := exists_driversFirst wellFormed acyclic
  have solves := solves_foldl_evaluated wellFormed perm driversFirst fits
  generalize (order.foldl compiled.evaluated opened).outputs = outputs at solves
  have revision (count : Nat) :=
    (isRevision_seeded wellFormed opened).trans (isRevision_iterate_passed wellFormed count _)
  have right : ∀ handle, compiled.IsAlgebraic handle → IsRight outputs
      (compiled.passed^[compiled.mirrors.length + 1] (compiled.seeded opened)) handle := by
    intro handle algebraic
    have bound : compiled.rank handle ≤ compiled.mirrors.length := rank_le handle
    exact isRight_iterate_passed wellFormed acyclic fits supplied solves _ handle algebraic
      (by omega)
  -- Once all blocks are right a pass is idle, so the loop ends then if it has not before. Where it
  -- ends earlier nothing moves any more, and the blocks are right there already.
  have still := hasProgress_of_isRight wellFormed solves (revision _) right
  rcases completes_resolve wellFormed limit opened with
    ⟨count, passes, bound, moving, stopped, resolves⟩ | ⟨moving, -⟩
  · have early : count ≤ compiled.mirrors.length + 1 := by
      by_contra late
      rw [moving _ (by omega)] at still
      cases still
    have fixed := passed_of_not_hasProgress stopped
    have later : compiled.mirrors.length + 1 = (compiled.mirrors.length + 1 - count) + count := by
      omega
    have final : compiled.passed^[compiled.mirrors.length + 1] (compiled.seeded opened) =
        compiled.passed^[count] (compiled.seeded opened) := by
      rw [later, Function.iterate_add_apply, Function.iterate_fixed fixed]
    rw [final] at right
    refine ⟨passes, _, resolves, by omega, revision count, ?_, ?_⟩
    · intro handle algebraic
      exact (right handle algebraic).1
    · rw [outputs_eq_of_isRight solves (revision count) right]
      exact solves
  · rw [moving _ (by omega)] at still
    cases still

end Passes

/-! ## A tick of a compiled diagram -/

section Tick

variable {compiled : Compiled α}

/-- What drives algebraic blocks is settled by the output phase, or algebraic itself, or a sink. -/
theorem isSupplied_of_opens (wellFormed : compiled.WellFormed) {given : List (String × α)}
    {start opened : RunState α} (fits : start.Fits compiled)
    (opens : Completes (compiled.outputPhase given) start.clear () opened)
    (apart : ∀ handle driver, compiled.IsAlgebraic handle →
      driver ∈ driversOf compiled.nodes handle → ¬ compiled.IsSink driver) :
    compiled.IsSupplied opened := by
  intro handle driver algebraic drives
  rcases wellFormed.phase_cases (wellFormed.driver_lt_of_mem_driversOf drives) with
    listed | driverAlgebraic | sink
  · exact .inr ((isSettled_opened_iff wellFormed fits opens).mpr listed)
  · exact .inl driverAlgebraic
  · exact absurd sink (apart handle driver algebraic drives)

/-- **Without cycles resolving converges to the only solution of the block equations**, after at
most two passes more than there are mirrors. The solution is what evaluating each algebraic block
once after its drivers gives, in whatever order that is done. -/
theorem resolve_converges [Host] [LawfulBEq α] {diagram : Diagram String}
    {defaultDt defaultRuntime : Setting α} {before after : List Notice}
    {given : List (String × α)} {start opened : RunState α} {limit : Nat}
    (compiles : Completes (ofDiagram diagram defaultDt defaultRuntime) before compiled after)
    (reachable : compiled.Reachable start)
    (opens : Completes (compiled.outputPhase given) start.clear () opened)
    (acyclic : compiled.IsAcyclic)
    (apart : ∀ handle driver, compiled.IsAlgebraic handle →
      driver ∈ driversOf compiled.nodes handle → ¬ compiled.IsSink driver)
    (enough : compiled.mirrors.length + 2 ≤ limit) :
    ∃ passes final, Completes (compiled.resolve limit) opened ⟨passes, true⟩ final ∧
      passes ≤ compiled.mirrors.length + 2 ∧
      (∀ handle, compiled.IsAlgebraic handle → final.isSettled handle = true) ∧
      compiled.Solves opened final.outputs ∧
      (∀ outputs, compiled.Solves opened outputs → outputs = final.outputs) ∧
      (∃ order : List Nat, order.Perm compiled.algebraicOrder ∧
        DriversFirst (driversOf compiled.nodes) order) ∧
      ∀ order : List Nat, order.Perm compiled.algebraicOrder →
        DriversFirst (driversOf compiled.nodes) order →
        ∃ evaluated,
          Completes (compiled.evaluateEach order fun node state => node.inputs state.outputs) opened
            () evaluated ∧
          evaluated.outputs = final.outputs := by
  have wellFormed := wellFormed_of_completes compiles
  have fits : opened.Fits compiled :=
    ((completes_outputPhase_iff wellFormed reachable.fits.clear).mp opens).fits
  have supplied := isSupplied_of_opens wellFormed reachable.fits opens apart
  obtain ⟨passes, final, resolves, bound, -, settled, solves⟩ :=
    completes_resolve_of_isAcyclic wellFormed acyclic fits supplied enough
  obtain ⟨order, perm, driversFirst⟩ := exists_driversFirst wellFormed acyclic
  refine ⟨passes, final, resolves, bound, settled, solves, ?_, ⟨order, perm, driversFirst⟩, ?_⟩
  · intro outputs other
    exact other.unique wellFormed perm driversFirst solves
  · intro order perm driversFirst
    refine ⟨order.foldl compiled.evaluated opened, ?_, ?_⟩
    · refine completes_evaluateEach_of_algebraic wellFormed (fun handle member => ?_) opened
      exact wellFormed.mem_algebraicOrder.mp (perm.mem_iff.mp member)
    · have once := solves_foldl_evaluated wellFormed perm driversFirst fits
      exact once.unique wellFormed perm driversFirst solves

/-- A label source that comes before the blocks behind its label sink. -/
def mirrorDiagram : Diagram String where
  blocks := [⟨"m", "labelSource", [("name", .text "y")]⟩, ⟨"h", "gain", []⟩, ⟨"c", "constant", []⟩,
    ⟨"g", "gain", []⟩, ⟨"y", "labelSink", [("name", .text "y")]⟩]
  connections := [⟨"c", "g", 0, 0⟩, ⟨"g", "y", 0, 0⟩, ⟨"m", "h", 0, 0⟩]
  vars := []
  runtime := .null
  dt := .null
  nextId := 1

open Host.Usual

/-- With one mirror three passes are enough. -/
theorem resolve_converges_mirrorDiagram :
    ∃ (compiled : Compiled Rat) (after : List Notice) (start opened : RunState Rat),
      Completes (ofDiagram mirrorDiagram standardDt standardRuntime) [] compiled after ∧
      compiled.Reachable start ∧ Completes (compiled.outputPhase []) start.clear () opened ∧
      compiled.IsAcyclic ∧ compiled.mirrors.length = 1 ∧
      ∃ passes final, Completes (compiled.resolve 3) opened ⟨passes, true⟩ final ∧ passes ≤ 3 ∧
        (∀ handle, compiled.IsAlgebraic handle → final.isSettled handle = true) ∧
        compiled.Solves opened final.outputs ∧
        (∀ outputs, compiled.Solves opened outputs → outputs = final.outputs) := by
  have runs : (outcome (ofDiagram mirrorDiagram (standardDt : Setting Rat) standardRuntime)
      []).1.toOption.any (fun compiled =>
        (compiled.mirrors.length == 1 && compiled.isLayered [2, 3, 0, 1, 2]) &&
        (RunState.create compiled).toOption.any fun start =>
          (outcome (compiled.outputPhase []) start.clear).1.toOption.any fun _ => true) = true := by
    decide +kernel
  obtain ⟨compiled, after, compiles, runs⟩ := exists_completes_of_any runs
  rw [Bool.and_eq_true, Bool.and_eq_true, beq_iff_eq] at runs
  obtain ⟨⟨single, layered⟩, runs⟩ := runs
  obtain ⟨start, created, runs⟩ := exists_of_toOption_any runs
  obtain ⟨_, opened, opens, -⟩ := exists_completes_of_any runs
  have reachable : compiled.Reachable start := .start created
  have wellFormed := wellFormed_of_completes compiles
  have acyclic := wellFormed.isAcyclic_of_isLayered layered
  have enough : compiled.mirrors.length + 2 ≤ 3 := by omega
  obtain ⟨passes, final, resolves, bound, settled, solves, unique, -⟩ :=
    resolve_converges compiles reachable opens acyclic
      (fun _ _ _ drives => (wellFormed.of_isLayered layered drives).2) enough
  exact ⟨compiled, after, start, opened, compiles, reachable, opens, acyclic, single, passes, final,
    resolves, by omega, settled, solves, unique⟩

end Tick

end SignalFlow.Compiled
