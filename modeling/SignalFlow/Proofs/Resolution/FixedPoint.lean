import SignalFlow.Host.Usual
import SignalFlow.Proofs.Resolution.Settling

/-! # Fixed points

The blocks of a pass are evaluated while outputs change under way. A pass without progress changes
nothing, though, so all of its evaluations are made in one and the same state: it certifies the
equations of all blocks at once. What resolving does besides is to revise algebraic blocks, and a
mirror whose driver never settles is never evaluated and stays at zero.
-/

namespace SignalFlow.Compiled

variable {α : Type} [Scalar α] {compiled : Compiled α} (wellFormed : compiled.WellFormed)

/-! ## Passes without progress -/

/-- Visits without progress all happen in the same state. -/
theorem sweep_of_not_progressOver {handles : List Nat} {state : RunState α}
    (still : compiled.progressOver handles state = false) :
    compiled.sweep handles state = state ∧ ∀ handle ∈ handles, ∀ node,
      compiled.nodes[handle]? = some node → node.progresses state = false := by
  induction handles with
  | nil => exact ⟨rfl, by simp⟩
  | cons handle rest ih =>
      rw [progressOver, Bool.or_eq_false_iff] at still
      obtain ⟨first, later⟩ := still
      have unmoved : compiled.advance state handle = state := by
        cases found : compiled.nodes[handle]? with
        | none => rw [advance, found]
        | some node =>
            rw [found, Option.any_some] at first
            rw [advance_of_getElem? found, RunState.visited, first]
            rfl
      rw [unmoved] at later
      obtain ⟨same, others⟩ := ih later
      refine ⟨by rw [sweep_cons, unmoved, same], ?_⟩
      intro other member node found
      rcases List.mem_cons.mp member with rfl | inRest
      · rw [found, Option.any_some] at first
        exact first
      · exact others other inRest node found

theorem passed_of_not_hasProgress {state : RunState α} (still : compiled.hasProgress state = false) :
    compiled.passed state = state :=
  (sweep_of_not_progressOver still).1

/-- A fed block whose visit is no progress is settled at the value it computes. -/
theorem settled_of_not_progresses {node : Node α} {state : RunState α}
    (still : node.progresses state = false) (fed : node.isFed state = true) :
    state.isSettled node.handle = true ∧
      (state.outputOf node.handle == node.value state) = true := by
  rw [Node.progresses, fed, Bool.true_and, Bool.or_eq_false_iff] at still
  obtain ⟨settled, same⟩ := still
  exact ⟨by simpa using settled, by simpa [bne] using same⟩

/-! ## How resolving ends -/

section Resolve

include wellFormed

/-- Resolving never breaks off: it ends with a pass without progress, or else at the limit. -/
theorem completes_resolve (limit : Nat) (state : RunState α) :
    (∃ count passes, (passes ≤ count + 1 ∧ count ≤ limit) ∧
      (∀ earlier < count,
        compiled.hasProgress (compiled.passed^[earlier] (compiled.seeded state)) = true) ∧
      compiled.hasProgress (compiled.passed^[count] (compiled.seeded state)) = false ∧
      Completes (compiled.resolve limit) state ⟨passes, true⟩
        (compiled.passed^[count] (compiled.seeded state))) ∨
    ((∀ earlier < limit,
        compiled.hasProgress (compiled.passed^[earlier] (compiled.seeded state)) = true) ∧
      Completes (compiled.resolve limit) state ⟨limit, false⟩
        (compiled.passed^[limit] (compiled.seeded state))) := by
  have seeds : Completes compiled.seedLoop state () (compiled.seeded state) :=
    completes_seedLoop state
  by_cases empty : compiled.algebraicOrder.isEmpty = true
  · refine .inl ⟨0, 0, by omega, by simp, ?_, ?_⟩
    · rw [hasProgress, List.isEmpty_iff.mp empty]
      rfl
    · rw [resolve, completes_bind]
      refine ⟨_, _, seeds, ?_⟩
      rw [if_pos empty]
      exact completes_pure.mpr ⟨rfl, rfl⟩
  · have onward {resolution : Resolution} {after : RunState α}
        (settles : Completes (compiled.settleFrom 0 limit) (compiled.seeded state) resolution
          after) : Completes (compiled.resolve limit) state resolution after := by
      rw [resolve, completes_bind]
      refine ⟨_, _, seeds, ?_⟩
      rw [if_neg empty]
      exact settles
    rcases completes_settleFrom wellFormed 0 limit (compiled.seeded state) with
      ⟨count, bound, moving, still, settles⟩ | ⟨moving, settles⟩
    · refine .inl ⟨count, 0 + count + 1, by omega, moving, still, ?_⟩
      rw [Function.iterate_succ_apply', passed_of_not_hasProgress still] at settles
      exact onward settles
    · refine .inr ⟨moving, ?_⟩
      rw [Nat.zero_add] at settles
      exact onward settles

/-- However it ends, resolving revises the state. -/
theorem isRevision_of_completes_resolve {limit : Nat} {before after : RunState α}
    {resolution : Resolution}
    (resolves : Completes (compiled.resolve limit) before resolution after) :
    compiled.IsRevision before after := by
  have passes (count : Nat) :
      compiled.IsRevision before (compiled.passed^[count] (compiled.seeded before)) :=
    (isRevision_seeded wellFormed before).trans (isRevision_iterate_passed wellFormed count _)
  rcases completes_resolve wellFormed limit before with
    ⟨count, _, -, -, -, ends⟩ | ⟨-, ends⟩
  · obtain ⟨-, rfl⟩ := resolves.unique ends
    exact passes count
  · obtain ⟨-, rfl⟩ := resolves.unique ends
    exact passes limit

/-! ## Mirrors that wait for their driver -/

/-- Visits keep a mirror at zero as long as it has a driver that is not settled. -/
theorem outputOf_sweep_of_isMirror {handle driver : Nat} (mirror : compiled.IsMirror handle)
    (drives : driver ∈ driversOf compiled.nodes handle) {handles : List Nat}
    (algebraic : ∀ other ∈ handles, compiled.IsAlgebraic other) {state : RunState α}
    (unsettled : (compiled.sweep handles state).isSettled driver = false) :
    (compiled.sweep handles state).outputOf handle = state.outputOf handle := by
  induction handles generalizing state with
  | nil => rfl
  | cons other rest ih =>
      have later : ∀ next ∈ rest, compiled.IsAlgebraic next := fun next member =>
        algebraic next (List.mem_cons_of_mem _ member)
      rw [sweep_cons] at unsettled ⊢
      rw [ih later unsettled]
      by_cases same : handle = other
      · subst same
        have before : state.isSettled driver = false := by
          rw [Bool.eq_false_iff]
          intro settled
          have marked := ((isRevision_advance wellFormed mirror.isAlgebraic state).trans
            (isRevision_sweep wellFormed later _)).isSettled_of_isSettled settled
          rw [unsettled] at marked
          cases marked
        obtain ⟨node, found, -⟩ := mirror
        have notFed : node.isFed state = false := by
          rw [Bool.eq_false_iff]
          intro fed
          have settled := Node.isFed_iff.mp fed driver (driversOf_of_getElem? found ▸ drives)
          rw [before] at settled
          cases settled
        rw [advance_of_getElem? found, RunState.visited, Node.progresses, notFed]
        rfl
      · exact (advance_of_ne wellFormed same state).2

theorem outputOf_iterate_passed_of_isMirror {handle driver : Nat} (mirror : compiled.IsMirror handle)
    (drives : driver ∈ driversOf compiled.nodes handle) {count : Nat} {state : RunState α}
    (unsettled : (compiled.passed^[count] state).isSettled driver = false) :
    (compiled.passed^[count] state).outputOf handle = state.outputOf handle := by
  induction count with
  | zero => rfl
  | succ count ih =>
      rw [Function.iterate_succ_apply'] at unsettled ⊢
      have revision := isRevision_passed wellFormed (compiled.passed^[count] state)
      have before : (compiled.passed^[count] state).isSettled driver = false := by
        rw [Bool.eq_false_iff]
        intro settled
        rw [revision.isSettled_of_isSettled settled] at unsettled
        cases unsettled
      rw [← ih before]
      exact outputOf_sweep_of_isMirror wellFormed mirror drives
        (fun _ member => wellFormed.mem_algebraicOrder.mp member) unsettled

end Resolve

/-! ## A tick of a compiled diagram -/

/-- In a state all algebraic blocks that can be evaluated have the outputs they compute. -/
def IsFixedPoint (compiled : Compiled α) (state : RunState α) : Prop :=
  ∀ handle node, compiled.nodes[handle]? = some node → node.phase = .algebraic →
    (∀ driver ∈ node.driverHandles, state.isSettled driver = true) →
    state.isSettled handle = true ∧
      ∃ value, Completes (compiled.evaluate node (node.inputs state.outputs)) state value state ∧
        (state.outputOf handle == value) = true

/-- A state in which a pass makes no progress is a fixed point. -/
theorem isFixedPoint_of_not_hasProgress (wellFormed : compiled.WellFormed) {state : RunState α}
    (still : compiled.hasProgress state = false) : compiled.IsFixedPoint state := by
  intro handle node found algebraic fed
  have listed := wellFormed.mem_algebraicOrder.mpr ⟨node, found, algebraic⟩
  have unmoved := (sweep_of_not_progressOver still).2 handle listed node found
  obtain ⟨settled, same⟩ := settled_of_not_progresses unmoved (Node.isFed_iff.mpr fed)
  rw [wellFormed.handle_eq found] at settled same
  exact ⟨settled, _, completes_evaluate (wellFormed.payload_phase found algebraic) _ state, same⟩

/-- **Resolving that reports convergence ends in a fixed point.** Whether it does or not, a mirror
is settled, and stays at zero as long as its driver is not settled, and neither the outputs and
marks of other blocks nor any persistent state change. -/
theorem resolve_isFixedPoint [Host] {diagram : Diagram String}
    {defaultDt defaultRuntime : Setting α}
    {before after : List Notice} {given : List (String × α)} {start opened : RunState α}
    (compiles : Completes (ofDiagram diagram defaultDt defaultRuntime) before compiled after)
    (reachable : compiled.Reachable start)
    (opens : Completes (compiled.outputPhase given) start.clear () opened) (limit : Nat) :
    ∃ resolution final, Completes (compiled.resolve limit) opened resolution final ∧
      (resolution.converged = true → compiled.IsFixedPoint final) ∧
      (∀ handle, compiled.IsMirror handle → final.isSettled handle = true ∧
        ∀ driver ∈ driversOf compiled.nodes handle, final.isSettled driver = false →
          final.outputOf handle = 0.0) ∧
      (∀ handle, ¬ compiled.IsAlgebraic handle → final.outputOf handle = opened.outputOf handle ∧
        final.isSettled handle = opened.isSettled handle) ∧
      final.memories = opened.memories := by
  have wellFormed := wellFormed_of_completes compiles
  have fits : opened.Fits compiled :=
    ((completes_outputPhase_iff wellFormed reachable.fits.clear).mp opens).fits
  -- Wherever the passes end, these facts hold, so only convergence tells the two ends apart.
  have revised (count : Nat) :
      let final := compiled.passed^[count] (compiled.seeded opened)
      (∀ handle, compiled.IsMirror handle → final.isSettled handle = true ∧
        ∀ driver ∈ driversOf compiled.nodes handle, final.isSettled driver = false →
          final.outputOf handle = 0.0) ∧
      (∀ handle, ¬ compiled.IsAlgebraic handle → final.outputOf handle = opened.outputOf handle ∧
        final.isSettled handle = opened.isSettled handle) ∧
      final.memories = opened.memories := by
    intro final
    have passes : compiled.IsRevision (compiled.seeded opened) final :=
      isRevision_iterate_passed wellFormed count _
    have revision := (isRevision_seeded wellFormed opened).trans passes
    refine ⟨fun handle mirror => ?_, fun handle notAlgebraic => ?_, revision.memories_eq⟩
    · obtain ⟨settled, zero⟩ := seeded_of_isMirror wellFormed mirror fits
      refine ⟨passes.isSettled_of_isSettled settled, fun driver drives unsettled => ?_⟩
      exact (outputOf_iterate_passed_of_isMirror wellFormed mirror drives unsettled).trans zero
    · exact ⟨revision.outputOf_eq notAlgebraic, revision.isSettled_eq notAlgebraic⟩
  rcases completes_resolve wellFormed limit opened with
    ⟨count, passes, -, -, still, resolves⟩ | ⟨-, resolves⟩
  · refine ⟨_, _, resolves, fun _ => ?_, revised count⟩
    exact isFixedPoint_of_not_hasProgress wellFormed still
  · refine ⟨_, _, resolves, fun converged => ?_, revised limit⟩
    cases converged

open Host.Usual

/-- The first tick of a diagram with all kinds of drivers is resolved within three passes, and ends
in a fixed point. -/
theorem resolve_isFixedPoint_mixedDiagram :
    ∃ (compiled : Compiled Rat) (after : List Notice) (start opened : RunState Rat),
      Completes (ofDiagram mixedDiagram standardDt standardRuntime) [] compiled after ∧
      compiled.Reachable start ∧ Completes (compiled.outputPhase []) start.clear () opened ∧
      ∃ resolution final, Completes (compiled.resolve 3) opened resolution final ∧
        resolution.converged = true ∧ compiled.IsFixedPoint final ∧
        (∀ handle, compiled.IsMirror handle → final.isSettled handle = true ∧
          ∀ driver ∈ driversOf compiled.nodes handle, final.isSettled driver = false →
            final.outputOf handle = 0.0) ∧
        (∀ handle, ¬ compiled.IsAlgebraic handle → final.outputOf handle = opened.outputOf handle ∧
          final.isSettled handle = opened.isSettled handle) ∧
        final.memories = opened.memories := by
  obtain ⟨compiled, after, start, opened, compiles, reachable, opens, _, _, ends, converged⟩ :=
    mixedDiagram_opens
  obtain ⟨resolution, final, resolves, fixed, kept⟩ :=
    resolve_isFixedPoint compiles reachable opens 3
  obtain ⟨rfl, rfl⟩ := ends.unique resolves
  exact ⟨compiled, after, start, opened, compiles, reachable, opens, _, _, resolves, converged,
    fixed converged, kept⟩

end SignalFlow.Compiled
