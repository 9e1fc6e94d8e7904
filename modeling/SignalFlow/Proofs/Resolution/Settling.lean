import SignalFlow.Host.Usual
import SignalFlow.Proofs.Resolution.Revision

/-! # What a tick settles

The first pass of a tick settles every block that can ever settle (`Compiled.CanSettle`), and any
further passes change output values only. That nothing else settles is an invariant of visits. That
each grounded block settles at once follows along the evaluation order: its drivers come before it,
and blocks left waiting for each other lie on or behind a cycle.
-/

namespace SignalFlow.Compiled

open Relation

variable {α : Type} [Scalar α]

/-- A block that settles in a tick: a source or memory, a mirror, or a block that computes its output
and is grounded. -/
def CanSettle (compiled : Compiled α) (handle : Nat) : Prop :=
  handle ∈ compiled.outputOrder ∨ compiled.IsMirror handle ∨
    (compiled.Computes handle ∧ compiled.IsGrounded handle)

variable {compiled : Compiled α} (wellFormed : compiled.WellFormed)

/-! ## Grounded blocks -/

section Grounded

omit [Scalar α] in
/-- A walk back ends at once where a block does not compute. -/
theorem isGrounded_of_not_computes {handle : Nat} (notComputes : ¬ compiled.Computes handle)
    (notSink : ¬ compiled.IsSink handle) : compiled.IsGrounded handle := by
  have still {origin : Nat} : ¬ compiled.StepsBack handle origin := fun step => notComputes step.1
  intro origin walk
  rcases ReflTransGen.cases_head walk with rfl | ⟨driver, step, -⟩
  · refine ⟨notSink, fun cycle => ?_⟩
    obtain ⟨driver, step, -⟩ := TransGen.head'_iff.mp cycle
    exact still step
  · exact absurd step still

include wellFormed

/-- Walks back from a block that settles are grounded. -/
theorem CanSettle.isGrounded {handle : Nat} (settles : compiled.CanSettle handle) :
    compiled.IsGrounded handle := by
  rcases settles with listed | mirror | ⟨-, grounded⟩
  · apply isGrounded_of_not_computes
    · intro computes
      exact wellFormed.not_isAlgebraic_of_mem_outputOrder listed computes.isAlgebraic
    · rintro ⟨node, found, sink⟩
      obtain ⟨other, otherFound, phase⟩ := wellFormed.mem_outputOrder.mp listed
      obtain rfl : node = other := Option.some.inj (found.symm.trans otherFound)
      rw [sink] at phase
      simp at phase
  · exact isGrounded_of_not_computes (fun computes => computes.not_isMirror mirror)
      mirror.isAlgebraic.not_isSink
  · exact grounded

/-- A computing block whose drivers all settle is grounded. -/
theorem isGrounded_of_drivers {handle : Nat} (computes : compiled.Computes handle)
    (drivers : ∀ driver ∈ driversOf compiled.nodes handle, compiled.CanSettle driver) :
    compiled.IsGrounded handle := by
  intro origin walk
  rcases ReflTransGen.cases_head walk with rfl | ⟨driver, step, rest⟩
  · refine ⟨computes.isAlgebraic.not_isSink, fun cycle => ?_⟩
    -- A cycle through the block would also lie behind its driver.
    obtain ⟨driver, step, rest⟩ := TransGen.head'_iff.mp cycle
    exact (((drivers driver step.2).isGrounded wellFormed) handle rest).2 cycle
  · exact ((drivers driver step.2).isGrounded wellFormed) origin rest

/-- The drivers of a grounded block all settle. -/
theorem canSettle_of_driver {handle driver : Nat} (computes : compiled.Computes handle)
    (grounded : compiled.IsGrounded handle) (drives : driver ∈ driversOf compiled.nodes handle) :
    compiled.CanSettle driver := by
  have step : compiled.StepsBack handle driver := ⟨computes, drives⟩
  rcases wellFormed.phase_cases (wellFormed.driver_lt_of_mem_driversOf drives) with
    listed | algebraic | sink
  · exact .inl listed
  · rcases algebraic.cases with mirror | driverComputes
    · exact .inr (.inl mirror)
    · refine .inr (.inr ⟨driverComputes, ?_⟩)
      intro origin walk
      exact grounded origin (.head step walk)
  · exact absurd sink (grounded driver (.single step)).1

end Grounded

/-! ## Marks set by a visit -/

section Visits

include wellFormed

/-- A visit leaves a block settled if it was settled or all its drivers are. -/
theorem isSettled_advance_self {handle : Nat} {node : Node α}
    (found : compiled.nodes[handle]? = some node) {state : RunState α}
    (fits : state.Fits compiled) :
    (compiled.advance state handle).isSettled handle =
      (state.isSettled handle || node.isFed state) := by
  obtain rfl : node.handle = handle := wellFormed.handle_eq found
  have inside : node.handle < state.settled.size :=
    fits.settled ▸ (Array.getElem?_eq_some_iff.mp found).1
  rw [advance_of_getElem? found, RunState.visited]
  by_cases progress : node.progresses state = true
  · rw [if_pos progress, RunState.isSettled_settle_self _ inside]
    have fed : node.isFed state = true := by
      rw [Node.progresses, Bool.and_eq_true] at progress
      exact progress.1
    rw [fed, Bool.or_true]
  · rw [if_neg progress]
    cases fed : node.isFed state with
    | false => rw [Bool.or_false]
    | true =>
        have settled : state.isSettled node.handle = true := by
          by_contra unsettled
          rw [Bool.not_eq_true] at unsettled
          apply progress
          simp [Node.progresses, fed, unsettled]
        rw [settled, Bool.true_or]

/-- A visit leaves the marks and outputs of other blocks alone. -/
theorem advance_of_ne {handle other : Nat} (different : other ≠ handle) (state : RunState α) :
    (compiled.advance state handle).isSettled other = state.isSettled other ∧
      (compiled.advance state handle).outputOf other = state.outputOf other := by
  cases found : compiled.nodes[handle]? with
  | none =>
      rw [advance, found]
      exact ⟨rfl, rfl⟩
  | some node =>
      rw [advance_of_getElem? found, RunState.visited, wellFormed.handle_eq found]
      by_cases progress : node.progresses state = true
      · rw [if_pos progress]
        exact ⟨RunState.isSettled_settle_of_ne _ different,
          RunState.outputOf_settle_of_ne _ different⟩
      · rw [if_neg progress]
        exact ⟨rfl, rfl⟩

/-- Visits settle only blocks that settle in a tick. -/
theorem canSettle_sweep {handles : List Nat}
    (algebraic : ∀ handle ∈ handles, compiled.IsAlgebraic handle) {state : RunState α}
    (fits : state.Fits compiled)
    (sound : ∀ handle, state.isSettled handle = true → compiled.CanSettle handle) :
    ∀ handle, (compiled.sweep handles state).isSettled handle = true →
      compiled.CanSettle handle := by
  induction handles generalizing state with
  | nil => exact sound
  | cons handle rest ih =>
      have isAlgebraic := algebraic handle List.mem_cons_self
      have revision := isRevision_advance wellFormed isAlgebraic state
      rw [sweep_cons]
      refine ih (fun other member => algebraic other (List.mem_cons_of_mem _ member))
        (revision.fits fits) ?_
      intro other settled
      by_cases same : other = handle
      · subst same
        rcases isAlgebraic.cases with mirror | computes
        · exact .inr (.inl mirror)
        · obtain ⟨node, found, -⟩ := computes.isAlgebraic
          rw [isSettled_advance_self wellFormed found fits, Bool.or_eq_true] at settled
          rcases settled with before | fed
          · exact sound other before
          · refine .inr (.inr ⟨computes, isGrounded_of_drivers wellFormed computes ?_⟩)
            intro driver drives
            rw [driversOf_of_getElem? found] at drives
            exact sound driver (Node.isFed_iff.mp fed driver drives)
      · rw [(advance_of_ne wellFormed same state).1] at settled
        exact sound other settled

/-- Computing blocks visited in an order in which drivers come first are settled after that, as far
as they can settle and the drivers they have elsewhere are settled. -/
theorem isSettled_sweep {handles : List Nat} (computing : ∀ handle ∈ handles, compiled.Computes handle)
    (driversFirst : DriversFirst (driversOf compiled.nodes) handles) {state : RunState α}
    (fits : state.Fits compiled)
    (elsewhere : ∀ handle ∈ handles, ∀ driver ∈ driversOf compiled.nodes handle,
      compiled.CanSettle driver → driver ∈ handles ∨ state.isSettled driver = true) :
    ∀ handle ∈ handles, compiled.IsGrounded handle →
      (compiled.sweep handles state).isSettled handle = true := by
  induction handles generalizing state with
  | nil => simp
  | cons handle rest ih =>
      have computes := computing handle List.mem_cons_self
      have later : ∀ other ∈ rest, compiled.Computes other := fun other member =>
        computing other (List.mem_cons_of_mem _ member)
      have revision := isRevision_advance wellFormed computes.isAlgebraic state
      have first (grounded : compiled.IsGrounded handle) :
          (compiled.advance state handle).isSettled handle = true := by
        obtain ⟨node, found, -⟩ := computes.isAlgebraic
        have fed : node.isFed state = true := by
          refine Node.isFed_iff.mpr fun driver drives => ?_
          rw [← driversOf_of_getElem? found] at drives
          have settles := canSettle_of_driver wellFormed computes grounded drives
          rcases elsewhere handle List.mem_cons_self driver drives settles with inside | settled
          · exact absurd inside (driversFirst.1 driver drives)
          · exact settled
        rw [isSettled_advance_self wellFormed found fits, fed, Bool.or_true]
      intro other member grounded
      rw [sweep_cons]
      rcases List.mem_cons.mp member with rfl | inRest
      · exact (isRevision_sweep wellFormed (fun next inside => (later next inside).isAlgebraic)
          _).isSettled_of_isSettled (first grounded)
      · refine ih later driversFirst.2 (revision.fits fits) ?_ other inRest grounded
        intro next nextMember driver drives settles
        rcases elsewhere next (List.mem_cons_of_mem _ nextMember) driver drives settles with
          inside | settled
        · rcases List.mem_cons.mp inside with rfl | inside
          · rcases settles with listed | mirror | ⟨-, driverGrounded⟩
            · exact absurd computes.isAlgebraic
                (wellFormed.not_isAlgebraic_of_mem_outputOrder listed)
            · exact absurd mirror computes.not_isMirror
            · exact .inr (first driverGrounded)
          · exact .inl inside
        · exact .inr (revision.isSettled_of_isSettled settled)

end Visits

/-! ## The first pass -/

section FirstPass

include wellFormed

/-- Before the first pass exactly the sources, the memories and the mirrors are settled. -/
theorem isSettled_seeded_iff {state : RunState α} (fits : state.Fits compiled)
    (opened : ∀ handle, state.isSettled handle = true ↔ handle ∈ compiled.outputOrder)
    {handle : Nat} : (compiled.seeded state).isSettled handle = true ↔
      handle ∈ compiled.outputOrder ∨ compiled.IsMirror handle := by
  by_cases mirror : compiled.IsMirror handle
  · simp [(seeded_of_isMirror wellFormed mirror fits).1, mirror]
  · rw [(seeded_of_not_isMirror wellFormed mirror state).1, opened]
    simp [mirror]

omit [Scalar α] wellFormed in
/-- A grounded block is not left waiting: a walk back from one that is runs into a cycle. -/
theorem mem_ready_of_isGrounded {pending ready blocked : List Nat}
    (split : IsSplit (driversOf compiled.nodes) pending ready blocked)
    (computing : ∀ other ∈ ready ++ blocked, compiled.Computes other) {handle : Nat}
    (member : handle ∈ ready ++ blocked) (grounded : compiled.IsGrounded handle) :
    handle ∈ ready := by
  rcases List.mem_append.mp member with isReady | isBlocked
  · exact isReady
  · have waiting : ∀ next ∈ blocked, ∃ driver ∈ blocked, compiled.StepsBack next driver := by
      intro next nextBlocked
      obtain ⟨driver, drives, driverBlocked⟩ := split.waiting next nextBlocked
      exact ⟨driver, driverBlocked, computing next (List.mem_append_right _ nextBlocked), drives⟩
    obtain ⟨origin, walk, cycle⟩ := exists_cycle_of_blocked _ waiting isBlocked
    exact absurd cycle (grounded origin walk).2

/-- A pass settles whatever can settle, once the sources, the memories and the mirrors are. -/
theorem isSettled_passed_of_canSettle {state : RunState α} (fits : state.Fits compiled)
    (settled : ∀ handle, handle ∈ compiled.outputOrder ∨ compiled.IsMirror handle →
      state.isSettled handle = true) {handle : Nat} (settles : compiled.CanSettle handle) :
    (compiled.passed state).isSettled handle = true := by
  rcases settles with listed | mirror | ⟨computes, grounded⟩
  · exact (isRevision_passed wellFormed state).isSettled_of_isSettled (settled handle (.inl listed))
  · exact (isRevision_passed wellFormed state).isSettled_of_isSettled (settled handle (.inr mirror))
  obtain ⟨ready, blocked, order, split⟩ := wellFormed.exists_split_algebraicOrder
  have computing : ∀ other ∈ ready ++ blocked, compiled.Computes other := fun other member =>
    wellFormed.mem_computing.mp (split.perm.subset member)
  have isReady {other : Nat} (otherComputes : compiled.Computes other)
      (otherGrounded : compiled.IsGrounded other) : other ∈ ready :=
    mem_ready_of_isGrounded split computing
      (split.perm.mem_iff.mpr (wellFormed.mem_computing.mpr otherComputes)) otherGrounded
  have afterMirrors : compiled.IsRevision state (compiled.sweep compiled.mirrors state) :=
    isRevision_sweep wellFormed (fun other inside => (wellFormed.mem_mirrors.mp inside).isAlgebraic)
      state
  have settledReady := isSettled_sweep wellFormed
    (fun other inside => computing other (List.mem_append_left _ inside)) split.driversFirst
    (afterMirrors.fits fits) ?_ handle (isReady computes grounded) grounded
  · rw [passed, order, sweep_append, sweep_append]
    refine (isRevision_sweep wellFormed (fun other inside => ?_) _).isSettled_of_isSettled
      settledReady
    exact (computing other (List.mem_append_right _ inside)).isAlgebraic
  · -- A driver that is not visited with the block was settled before.
    intro other inside driver drives driverSettles
    rcases driverSettles with listed | mirror | ⟨driverComputes, driverGrounded⟩
    · exact .inr (afterMirrors.isSettled_of_isSettled (settled driver (.inl listed)))
    · exact .inr (afterMirrors.isSettled_of_isSettled (settled driver (.inr mirror)))
    · exact .inl (isReady driverComputes driverGrounded)

/-- From the first pass on exactly the blocks that can settle are settled. -/
theorem isSettled_iterate_passed_iff {state : RunState α} (fits : state.Fits compiled)
    (opened : ∀ handle, state.isSettled handle = true ↔ handle ∈ compiled.outputOrder)
    (count : Nat) {handle : Nat} :
    (compiled.passed^[count + 1] (compiled.seeded state)).isSettled handle = true ↔
      compiled.CanSettle handle := by
  have seedFits := (isRevision_seeded wellFormed state).fits fits
  have seedSettled (other : Nat) : (compiled.seeded state).isSettled other = true ↔
      other ∈ compiled.outputOrder ∨ compiled.IsMirror other :=
    isSettled_seeded_iff wellFormed fits opened
  constructor
  · have sound (passes : Nat) : ∀ other,
        (compiled.passed^[passes] (compiled.seeded state)).isSettled other = true →
          compiled.CanSettle other := by
      induction passes with
      | zero =>
          intro other settled
          rcases (seedSettled other).mp settled with listed | mirror
          · exact .inl listed
          · exact .inr (.inl mirror)
      | succ passes ih =>
          rw [Function.iterate_succ_apply']
          exact canSettle_sweep wellFormed (fun _ member => wellFormed.mem_algebraicOrder.mp member)
            ((isRevision_iterate_passed wellFormed passes _).fits seedFits) ih
    exact sound (count + 1) handle
  · intro settles
    rw [Function.iterate_succ_apply]
    refine (isRevision_iterate_passed wellFormed count _).isSettled_of_isSettled ?_
    exact isSettled_passed_of_canSettle wellFormed seedFits
      (fun other settled => (seedSettled other).mpr settled) settles

end FirstPass

/-! ## A tick of a compiled diagram -/

/-- The output phase settles exactly the sources and memories. -/
theorem isSettled_opened_iff (wellFormed : compiled.WellFormed) {given : List (String × α)}
    {start opened : RunState α} (fits : start.Fits compiled)
    (opens : Completes (compiled.outputPhase given) start.clear () opened) {handle : Nat} :
    opened.isSettled handle = true ↔ handle ∈ compiled.outputOrder := by
  have evaluated := (completes_outputPhase_iff wellFormed fits.clear).mp opens
  constructor
  · intro settled
    by_contra notListed
    rw [(evaluated.kept notListed).2.1, RunState.isSettled_clear] at settled
    cases settled
  · exact evaluated.isSettled

/-- A state that differs from another one only in its outputs. -/
theorem IsRevision.eq_of_isSettled {before after : RunState α}
    (revision : compiled.IsRevision before after)
    (same : ∀ handle, after.isSettled handle = before.isSettled handle) :
    after = { before with outputs := after.outputs } := by
  have marks : after.settled = before.settled := RunState.eq_of_getD revision.settled_size same
  exact RunState.eq_of_fields rfl marks revision.memories_eq revision.time_eq revision.tick_eq

/-- **In every tick of every compiled diagram the first pass settles exactly what can settle, and
further passes change nothing but outputs.** -/
theorem firstPass_settles [Host] {diagram : Diagram String} {defaultDt defaultRuntime : Setting α}
    {before after : List Notice} {given : List (String × α)} {start opened : RunState α}
    (compiles : Completes (ofDiagram diagram defaultDt defaultRuntime) before compiled after)
    (reachable : compiled.Reachable start)
    (opens : Completes (compiled.outputPhase given) start.clear () opened) :
    ∃ seeded first progress,
      Completes compiled.seedLoop opened () seeded ∧
      Completes compiled.pass seeded progress first ∧
      (∀ handle, first.isSettled handle = true ↔ compiled.CanSettle handle) ∧
      ∀ count, ∃ later, Completes (compiled.passTimes count) first () later ∧
        later = { first with outputs := later.outputs } := by
  have wellFormed := wellFormed_of_completes compiles
  have fits : opened.Fits compiled :=
    ((completes_outputPhase_iff wellFormed reachable.fits.clear).mp opens).fits
  have settled (count handle : Nat) :
      (compiled.passed^[count + 1] (compiled.seeded opened)).isSettled handle = true ↔
        compiled.CanSettle handle :=
    isSettled_iterate_passed_iff wellFormed fits
      (fun _ => isSettled_opened_iff wellFormed reachable.fits opens) count
  refine ⟨compiled.seeded opened, compiled.passed (compiled.seeded opened), _,
    completes_seedLoop opened, completes_pass wellFormed _, settled 0, ?_⟩
  intro count
  refine ⟨_, completes_passTimes wellFormed count _, ?_⟩
  refine (isRevision_iterate_passed wellFormed count _).eq_of_isSettled fun handle => ?_
  have marks := (settled count handle).trans (settled 0 handle).symm
  rw [Function.iterate_succ_apply] at marks
  exact Bool.eq_iff_iff.mpr marks

open Host.Usual

/-- A constant feeds a gain, two gains feed each other and a third one, a scope feeds a gain, and a
label source mirrors a label sink. -/
def mixedDiagram : Diagram String where
  blocks := [⟨"c", "constant", []⟩, ⟨"g", "gain", []⟩, ⟨"p", "gain", []⟩, ⟨"q", "gain", []⟩,
    ⟨"r", "gain", []⟩, ⟨"s", "scope", []⟩, ⟨"t", "gain", []⟩,
    ⟨"m", "labelSource", [("name", .text "y")]⟩, ⟨"y", "labelSink", [("name", .text "y")]⟩]
  connections := [⟨"c", "g", 0, 0⟩, ⟨"p", "q", 0, 0⟩, ⟨"q", "p", 0, 0⟩, ⟨"p", "r", 0, 0⟩,
    ⟨"g", "s", 0, 0⟩, ⟨"s", "t", 0, 0⟩, ⟨"g", "y", 0, 0⟩]
  vars := []
  runtime := .null
  dt := .null
  nextId := 1

/-- The diagram compiles, its first tick opens, and three passes are enough to resolve it. -/
theorem mixedDiagram_opens :
    ∃ (compiled : Compiled Rat) (after : List Notice) (start opened : RunState Rat),
      Completes (ofDiagram mixedDiagram standardDt standardRuntime) [] compiled after ∧
      compiled.Reachable start ∧ Completes (compiled.outputPhase []) start.clear () opened ∧
      ∃ resolution final, Completes (compiled.resolve 3) opened resolution final ∧
        resolution.converged = true := by
  -- Sorting does not reduce, but the computing blocks are in order as they are.
  have runs : (outcome (ofDiagram mixedDiagram (standardDt : Setting Rat) standardRuntime)
      []).1.toOption.any (fun compiled =>
        let ordered := { compiled with algebraicOrder := compiled.seedsAndPending }
        (RunState.create ordered).toOption.any fun start =>
          (outcome (do ordered.outputPhase []; ordered.resolve 3) start.clear).1.toOption.any
            (·.converged)) = true := by
    decide +kernel
  obtain ⟨compiled, after, compiles, runs⟩ := exists_completes_of_any runs
  rw [← (wellFormed_of_completes compiles).algebraicOrder_eq_seedsAndPending] at runs
  obtain ⟨start, created, runs⟩ := exists_of_toOption_any runs
  obtain ⟨resolution, final, ends, converged⟩ := exists_completes_of_any runs
  obtain ⟨_, opened, opens, resolves⟩ := completes_bind.mp ends
  exact ⟨compiled, after, start, opened, compiles, .start created, opens, resolution, final,
    resolves, converged⟩

/-- In the first tick of a diagram with all kinds of drivers the first pass settles what can settle. -/
theorem firstPass_settles_mixedDiagram :
    ∃ (compiled : Compiled Rat) (after : List Notice) (start opened : RunState Rat),
      Completes (ofDiagram mixedDiagram standardDt standardRuntime) [] compiled after ∧
      compiled.Reachable start ∧ Completes (compiled.outputPhase []) start.clear () opened ∧
      ∃ seeded first progress,
        Completes compiled.seedLoop opened () seeded ∧
        Completes compiled.pass seeded progress first ∧
        (∀ handle, first.isSettled handle = true ↔ compiled.CanSettle handle) ∧
        ∀ count, ∃ later, Completes (compiled.passTimes count) first () later ∧
          later = { first with outputs := later.outputs } := by
  obtain ⟨compiled, after, start, opened, compiles, reachable, opens, -⟩ := mixedDiagram_opens
  exact ⟨compiled, after, start, opened, compiles, reachable, opens,
    firstPass_settles compiles reachable opens⟩

end SignalFlow.Compiled
