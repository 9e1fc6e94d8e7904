import SignalFlow.Proofs.LoadOrder.Correspondence
import SignalFlow.Proofs.Resolution.Convergence

/-! # Ticks of rearranged diagrams

A tick takes corresponding states of two rearranged diagrams to corresponding states. That is plain
for the phases that evaluate or update each block once. Resolving visits the blocks in another order
and may take another number of passes, but without cycles it ends in the only solution of the block
equations, and these correspond.
-/

namespace SignalFlow.Compiled

variable {α : Type} [Scalar α]

/-- A diagram whose loops are sure to settle: there are no cycles, nothing reads a sink, and there
are enough passes. -/
structure IsSettling (compiled : Compiled α) (limit : Nat) : Prop where
  wellFormed : compiled.WellFormed
  acyclic : compiled.IsAcyclic
  apart {handle driver : Nat} : driver ∈ driversOf compiled.nodes handle → ¬ compiled.IsSink driver
  enough : compiled.mirrors.length + 2 ≤ limit

/-! ## The parts of a tick -/

/-- Two diagrams bind the same outputs to corresponding blocks. -/
def PublishesAlike (place : Nat → Nat) (first second : Compiled α) : Prop :=
  ∀ name, (∀ handle ∈ Entries.get? first.outputHandles name, handle < first.nodes.size) ∧
    Entries.get? second.outputHandles name = (Entries.get? first.outputHandles name).map place

/-- Two ticks have the same outputs, and leave the same persistent states at corresponding
handles. -/
def TicksAgree (place : Nat → Nat) (compiled : Compiled α)
    (tick other : TickResult α × RunState α) : Prop :=
  (∀ name, Entries.get? other.1.outputs name = Entries.get? tick.1.outputs name) ∧
    ∀ handle < compiled.nodes.size, other.2.memory (place handle) = tick.2.memory handle

/-- Ticks one after the other, each with its inputs, and the states that they leave. -/
def ticks (compiled : Compiled α) (limit : Nat) :
    List (List (String × α)) → Tick α (List (TickResult α × RunState α))
  | [] => return []
  | given :: rest => do
      let result ← compiled.step limit given
      let state ← get
      return (result, state) :: (← compiled.ticks limit rest)

/-- A run from the start, with the inputs of each tick. -/
def simulate [Host] (compiled : Compiled α) (limit : Nat) (given : List (List (String × α))) :
    Except Fault (List (TickResult α × RunState α)) := do
  let start ← RunState.create compiled
  (outcome (compiled.ticks limit given) start).1

/-- Ticks that complete are a first one and those after it. -/
theorem completes_ticks_cons_iff {compiled : Compiled α} {limit : Nat}
    {inputs : List (String × α)} {given : List (List (String × α))} {start final : RunState α}
    {results : List (TickResult α × RunState α)} :
    Completes (compiled.ticks limit (inputs :: given)) start results final ↔
      ∃ result between later, Completes (compiled.step limit inputs) start result between ∧
        Completes (compiled.ticks limit given) between later final ∧
        results = (result, between) :: later := by
  simp only [ticks, completes_bind, completes_get, completes_pure]
  constructor
  · rintro ⟨result, between, steps, _, _, ⟨rfl, rfl⟩, later, _, others, rfl, rfl⟩
    exact ⟨result, _, later, steps, others, rfl⟩
  · rintro ⟨result, between, later, steps, others, rfl⟩
    exact ⟨result, between, steps, _, _, ⟨rfl, rfl⟩, later, final, others, rfl, rfl⟩

/-- A run that completes consists of ticks from the state before the first one. -/
theorem simulate_eq_ok_iff [Host] {compiled : Compiled α} {limit : Nat}
    {given : List (List (String × α))} {results : List (TickResult α × RunState α)} :
    compiled.simulate limit given = .ok results ↔ ∃ start final,
      RunState.create compiled = .ok start ∧
        Completes (compiled.ticks limit given) start results final := by
  constructor
  · intro simulated
    obtain ⟨start, created, ran⟩ := bind_eq_ok_iff.mp simulated
    obtain ⟨final, completes⟩ := exists_completes_iff.mpr ran
    exact ⟨start, final, created, completes⟩
  · rintro ⟨start, final, created, completes⟩
    exact bind_eq_ok_iff.mpr ⟨start, created, exists_completes_iff.mp ⟨final, completes⟩⟩

namespace Rearranged

variable {place back : Nat → Nat} {first second : Compiled α}
  (rearranged : first.Rearranged place back second)
include rearranged

theorem isSettling (secondWellFormed : second.WellFormed) {limit : Nat}
    (settling : first.IsSettling limit) : second.IsSettling limit where
  wellFormed := secondWellFormed
  acyclic := rearranged.isAcyclic settling.wellFormed settling.acyclic
  apart := by
    intro handle driver drives
    have undone := rearranged.symm settling.wellFormed
    have inside := WellFormed.lt_of_mem_driversOf drives
    rw [← undone.isSink_iff (secondWellFormed.driver_lt_of_mem_driversOf drives)]
    have firstDrives : back driver ∈ driversOf first.nodes (back handle) := by
      rw [undone.driversOf_eq inside]
      exact List.mem_map_of_mem drives
    exact settling.apart firstDrives
  enough := by
    have bound := rearranged.mirrors_length_le settling.wellFormed secondWellFormed
    have enough := settling.enough
    omega

variable {limit : Nat} (settling : first.IsSettling limit) (otherSettling : second.IsSettling limit)

/-! ## Resolving -/

section Resolving

include settling otherSettling

/-- Outputs at corresponding handles solve the equations of both diagrams. -/
theorem solves {opened otherOpened final other : RunState α}
    (corresponds : RunState.Corresponds place first opened otherOpened)
    (same : RunState.Corresponds place first final other)
    (solves : first.Solves opened final.outputs) : second.Solves otherOpened other.outputs := by
  refine ⟨same.secondFits.outputs.trans corresponds.secondFits.outputs.symm, ?_, ?_⟩
  · intro handle notAlgebraic
    by_cases inside : handle < first.nodes.size
    · have backInside := rearranged.back_lt inside
      rw [← rearranged.place_back inside] at notAlgebraic ⊢
      rw [rearranged.isAlgebraic_iff backInside] at notAlgebraic
      rw [corresponds.outputOf_eq backInside]
      exact (same.outputOf_eq backInside).trans (solves.kept notAlgebraic)
    · exact (corresponds.secondFits.reads_eq_of_le same.secondFits (Nat.le_of_not_lt inside)).1
  · intro handle node found algebraic
    obtain ⟨placed, origin, originFound, rfl⟩ := rearranged.exists_node found
    have inside := (Array.getElem?_eq_some_iff.mp originFound).1
    have inputs : (origin.moved place).inputs other.outputs = origin.inputs final.outputs :=
      Node.inputs_moved fun driver drives =>
        same.outputOf_eq (settling.wellFormed.driver_lt originFound drives)
    have output := same.outputOf_eq inside
    have memory := corresponds.memory_eq inside
    rw [placed] at output memory
    have value : other.outputs.getD handle 0.0 =
        (origin.moved place).payload.response (origin.inputs final.outputs)
          (otherOpened.memory handle) := by
      rw [memory]
      exact output.trans (solves.eq_response settling.wellFormed originFound algebraic)
    rw [inputs, value, ← otherSettling.wellFormed.handle_eq found]
    exact completes_evaluate (otherSettling.wellFormed.payload_phase found algebraic) _ otherOpened

omit otherSettling in
/-- What drives algebraic blocks is supplied in both diagrams. -/
theorem isSupplied {opened otherOpened : RunState α} (otherWellFormed : second.WellFormed)
    (corresponds : RunState.Corresponds place first opened otherOpened)
    (supplied : first.IsSupplied opened) : second.IsSupplied otherOpened := by
  intro handle driver algebraic drives
  have undone := rearranged.symm settling.wellFormed
  have inside := WellFormed.lt_of_mem_driversOf drives
  have driverInside := otherWellFormed.driver_lt_of_mem_driversOf drives
  have firstDrives : back driver ∈ driversOf first.nodes (back handle) := by
    rw [undone.driversOf_eq inside]
    exact List.mem_map_of_mem drives
  rcases supplied _ _ ((undone.isAlgebraic_iff inside).mpr algebraic) firstDrives with
    driverAlgebraic | settled
  · exact .inl ((undone.isAlgebraic_iff driverInside).mp driverAlgebraic)
  · rw [rearranged.size_eq] at driverInside
    rw [← corresponds.isSettled_eq (rearranged.back_lt driverInside),
      rearranged.place_back driverInside] at settled
    exact .inr settled

/-- Resolving takes corresponding states to corresponding states. -/
theorem exists_resolve [LawfulBEq α] {opened otherOpened : RunState α}
    (corresponds : RunState.Corresponds place first opened otherOpened)
    (supplied : first.IsSupplied opened) :
    ∃ resolution final otherResolution otherFinal,
      Completes (first.resolve limit) opened resolution final ∧
      Completes (second.resolve limit) otherOpened otherResolution otherFinal ∧
      RunState.Corresponds place first final otherFinal := by
  obtain ⟨passes, final, resolves, -, revision, settled, solves⟩ :=
    completes_resolve_of_isAcyclic settling.wellFormed settling.acyclic corresponds.firstFits supplied
      settling.enough
  have otherFits := corresponds.secondFits.of_size_eq rearranged.size_eq
  obtain ⟨otherPasses, otherFinal, otherResolves, -, otherRevision, otherSettled, otherSolves⟩ :=
    completes_resolve_of_isAcyclic otherSettling.wellFormed otherSettling.acyclic otherFits
      (rearranged.isSupplied settling otherSettling.wellFormed corresponds supplied)
      otherSettling.enough
  have fits := revision.fits corresponds.firstFits
  -- The second resolving need not take as many passes, but what corresponds to the outputs of the
  -- first one solves the second diagram, and that has one solution only.
  obtain ⟨moved, same⟩ := rearranged.exists_corresponds fits
  obtain ⟨order, perm, driversFirst⟩ :=
    exists_driversFirst otherSettling.wellFormed otherSettling.acyclic
  have outputs : moved.outputs = otherFinal.outputs :=
    (rearranged.solves settling otherSettling corresponds same solves).unique
      otherSettling.wellFormed perm driversFirst otherSolves
  refine ⟨_, final, _, otherFinal, resolves, otherResolves, fits, ?_, ?_, ?_, ?_, ?_, ?_⟩
  · exact (otherRevision.fits otherFits).of_size_eq rearranged.size_eq.symm
  · intro handle inside
    rw [RunState.outputOf, ← outputs]
    exact same.outputOf_eq inside
  · intro handle inside
    by_cases algebraic : first.IsAlgebraic handle
    · rw [settled handle algebraic, otherSettled _ ((rearranged.isAlgebraic_iff inside).mpr algebraic)]
    · have otherAlgebraic := mt (rearranged.isAlgebraic_iff inside).mp algebraic
      rw [revision.isSettled_eq algebraic, otherRevision.isSettled_eq otherAlgebraic]
      exact corresponds.isSettled_eq inside
  · intro handle inside
    rw [revision.memory_eq, otherRevision.memory_eq]
    exact corresponds.memory_eq inside
  · rw [revision.time_eq, otherRevision.time_eq, corresponds.time_eq]
  · rw [revision.tick_eq, otherRevision.tick_eq, corresponds.tick_eq]

end Resolving

/-! ## Ticks -/

section Ticks

include settling otherSettling

theorem mem_outputOrder_iff {handle : Nat} (inside : handle < first.nodes.size) :
    place handle ∈ second.outputOrder ↔ handle ∈ first.outputOrder := by
  rw [settling.wellFormed.mem_outputOrder, otherSettling.wellFormed.mem_outputOrder]
  exact rearranged.exists_node_iff (fun _ => Iff.rfl) inside

theorem mem_sinkOrder_iff {handle : Nat} (inside : handle < first.nodes.size) :
    place handle ∈ second.sinkOrder ↔ handle ∈ first.sinkOrder := by
  rw [settling.wellFormed.mem_sinkOrder, otherSettling.wellFormed.mem_sinkOrder]
  exact rearranged.exists_node_iff (fun _ => Iff.rfl) inside

/-- The output phase takes corresponding states to corresponding states. -/
theorem exists_outputPhase {given : List (String × α)} {before after otherBefore : RunState α}
    (corresponds : RunState.Corresponds place first before otherBefore)
    (completes : Completes (first.outputPhase given) before () after) :
    ∃ otherAfter, Completes (second.outputPhase given) otherBefore () otherAfter ∧
      RunState.Corresponds place first after otherAfter := by
  rw [completes_outputPhase_iff settling.wellFormed corresponds.firstFits] at completes
  have inside : ∀ handle ∈ second.outputOrder, handle < first.nodes.size := by
    intro handle member
    exact rearranged.size_eq ▸ otherSettling.wellFormed.lt_of_mem_outputOrder member
  have inputs : ∀ handle ∈ first.outputOrder, ∀ node, first.nodes[handle]? = some node →
      externalInput given (node.moved place) = externalInput given node := fun _ _ _ _ => rfl
  obtain ⟨otherAfter, evaluated, same⟩ := rearranged.exists_evaluated corresponds inside
    (fun handle => rearranged.mem_outputOrder_iff settling otherSettling) inputs completes
  have otherFits := corresponds.secondFits.of_size_eq rearranged.size_eq
  exact ⟨otherAfter,
    (completes_outputPhase_iff otherSettling.wellFormed otherFits).mpr evaluated, same⟩

/-- The sink phase takes corresponding states to corresponding states. -/
theorem exists_sinkPhase {before after otherBefore : RunState α}
    (corresponds : RunState.Corresponds place first before otherBefore)
    (completes : Completes first.sinkPhase before () after) :
    ∃ otherAfter, Completes second.sinkPhase otherBefore () otherAfter ∧
      RunState.Corresponds place first after otherAfter := by
  have apart {compiled : Compiled α} (settling : compiled.IsSettling limit) :
      ∀ handle ∈ compiled.sinkOrder, ∀ driver ∈ driversOf compiled.nodes handle,
        driver ∉ compiled.sinkOrder := by
    intro handle _ driver drives listed
    exact settling.apart drives (settling.wellFormed.mem_sinkOrder.mp listed)
  rw [completes_sinkPhase_iff settling.wellFormed corresponds.firstFits (apart settling)] at completes
  have inside : ∀ handle ∈ second.sinkOrder, handle < first.nodes.size := by
    intro handle member
    exact rearranged.size_eq ▸ otherSettling.wellFormed.lt_of_mem_sinkOrder member
  have inputs : ∀ handle ∈ first.sinkOrder, ∀ node, first.nodes[handle]? = some node →
      (node.moved place).inputs otherBefore.outputs = node.inputs before.outputs := by
    intro handle _ node found
    exact Node.inputs_moved fun driver drives =>
      corresponds.outputOf_eq (settling.wellFormed.driver_lt found drives)
  obtain ⟨otherAfter, evaluated, same⟩ : ∃ otherAfter, second.Evaluated second.sinkOrder
      (·.inputs otherBefore.outputs) otherBefore otherAfter ∧
        RunState.Corresponds place first after otherAfter :=
    rearranged.exists_evaluated corresponds inside
      (fun handle => rearranged.mem_sinkOrder_iff settling otherSettling) inputs completes
  have otherFits := corresponds.secondFits.of_size_eq rearranged.size_eq
  exact ⟨otherAfter, (completes_sinkPhase_iff otherSettling.wellFormed otherFits
    (apart otherSettling)).mpr evaluated, same⟩

/-- The update phase takes corresponding states to corresponding states. -/
theorem exists_updatePhase {before after otherBefore : RunState α}
    (corresponds : RunState.Corresponds place first before otherBefore)
    (completes : Completes first.updatePhase before () after) :
    ∃ otherAfter, Completes second.updatePhase otherBefore () otherAfter ∧
      RunState.Corresponds place first after otherAfter := by
  rw [completes_updatePhase_iff settling.wellFormed corresponds.firstFits] at completes
  obtain ⟨otherAfter, updated, same⟩ := rearranged.exists_updated settling.wellFormed
    otherSettling.wellFormed corresponds completes
  have otherFits := corresponds.secondFits.of_size_eq rearranged.size_eq
  exact ⟨otherAfter,
    (completes_updatePhase_iff otherSettling.wellFormed otherFits).mpr updated, same⟩

/-- A tick takes corresponding states to corresponding states, and has the same outputs. -/
theorem exists_step [LawfulBEq α] (published : PublishesAlike place first second)
    {given : List (String × α)} {start after otherStart : RunState α} {result : TickResult α}
    (corresponds : RunState.Corresponds place first start otherStart)
    (completes : Completes (first.step limit given) start result after) :
    ∃ otherResult otherAfter,
      Completes (second.step limit given) otherStart otherResult otherAfter ∧
      RunState.Corresponds place first after otherAfter ∧
      ∀ name, Entries.get? otherResult.outputs name = Entries.get? result.outputs name := by
  obtain ⟨opened, resolution, settled, sunk, updated, dt, opens, resolves, sinks, updates, number,
    rfl, rfl⟩ := completes_step_iff.mp completes
  obtain ⟨otherOpened, otherOpens, openedSame⟩ :=
    rearranged.exists_outputPhase settling otherSettling corresponds.clear opens
  have supplied := isSupplied_of_opens settling.wellFormed corresponds.firstFits opens
    fun _ _ _ drives => settling.apart drives
  obtain ⟨_, _, otherResolution, otherSettled, same, otherResolves, settledSame⟩ :=
    rearranged.exists_resolve settling otherSettling openedSame supplied
  obtain ⟨rfl, rfl⟩ := resolves.unique same
  obtain ⟨otherSunk, otherSinks, sunkSame⟩ :=
    rearranged.exists_sinkPhase settling otherSettling settledSame sinks
  obtain ⟨otherUpdated, otherUpdates, updatedSame⟩ :=
    rearranged.exists_updatePhase settling otherSettling sunkSame updates
  have otherNumber : second.dt.number = .ok dt := by rw [rearranged.dt_eq, number]
  refine ⟨_, _, completes_step_iff.mpr ⟨otherOpened, otherResolution, otherSettled, otherSunk,
    otherUpdated, dt, otherOpens, otherResolves, otherSinks, otherUpdates, otherNumber, rfl, rfl⟩,
    ?_, ?_⟩
  · refine ⟨⟨?_, ?_, ?_⟩, ⟨?_, ?_, ?_⟩, updatedSame.outputOf_eq, updatedSame.isSettled_eq,
      updatedSame.memory_eq, ?_, ?_⟩
    · exact updatedSame.firstFits.outputs
    · exact updatedSame.firstFits.settled
    · exact updatedSame.firstFits.memories
    · exact updatedSame.secondFits.outputs
    · exact updatedSame.secondFits.settled
    · exact updatedSame.secondFits.memories
    · exact congrArg (· + dt) updatedSame.time_eq
    · exact congrArg (· + 1) updatedSame.tick_eq
  · intro name
    obtain ⟨inside, alike⟩ := published name
    rw [get?_outputs_results, get?_outputs_results, alike, Option.map_map]
    apply Option.map_congr
    intro handle found
    exact sunkSame.outputOf_eq (inside handle found)

end Ticks

/-! ## Runs -/

/-- The states before the first tick correspond. -/
theorem exists_create [Host] {start : RunState α} (created : RunState.create first = .ok start) :
    ∃ otherStart, RunState.create second = .ok otherStart ∧
      RunState.Corresponds place first start otherStart := by
  have fits := RunState.fits_of_create created
  obtain ⟨other, same⟩ := rearranged.exists_corresponds fits
  obtain ⟨started, start_eq⟩ := RunState.create_eq_ok_iff.mp created
  obtain ⟨-, started⟩ := RunState.forall₂_start_iff.mp started
  let otherStart : RunState α := ⟨.replicate second.nodes.size 0.0,
    .replicate second.nodes.size false, other.memories, 0.0, 0⟩
  have memory (handle : Nat) : otherStart.memory handle = other.memory handle := rfl
  have otherStarted : ∀ (handle : Nat) (node : Node α), second.nodes[handle]? = some node →
      node.payload.start = .ok (otherStart.memory handle) := by
    intro handle node found
    obtain ⟨placed, origin, originFound, rfl⟩ := rearranged.exists_node found
    have inside := (Array.getElem?_eq_some_iff.mp originFound).1
    rw [memory, ← placed, same.memory_eq inside]
    exact started _ origin originFound
  have size : otherStart.memories.size = second.nodes.size :=
    same.secondFits.memories.trans rearranged.size_eq.symm
  have otherCreated : RunState.create second = .ok otherStart :=
    RunState.create_eq_ok_iff.mpr ⟨RunState.forall₂_start_iff.mpr ⟨size, otherStarted⟩, rfl⟩
  have otherFits := (RunState.fits_of_create otherCreated).of_size_eq rearranged.size_eq.symm
  refine ⟨otherStart, otherCreated, fits, otherFits, ?_, ?_, same.memory_eq, ?_, ?_⟩
  · intro handle inside
    rw [start_eq]
    simp [otherStart, RunState.outputOf, Array.getD_eq_getD_getElem?, inside, rearranged.size_eq,
      rearranged.place_lt inside]
  · intro handle inside
    rw [start_eq]
    simp [otherStart, RunState.isSettled, Array.getD_eq_getD_getElem?, inside, rearranged.size_eq,
      rearranged.place_lt inside]
  · rw [start_eq]
  · rw [start_eq]

include settling otherSettling

/-- Ticks from corresponding states agree one by one. -/
theorem exists_ticks [LawfulBEq α] (published : PublishesAlike place first second)
    {given : List (List (String × α))} {start after otherStart : RunState α}
    {results : List (TickResult α × RunState α)}
    (corresponds : RunState.Corresponds place first start otherStart)
    (completes : Completes (first.ticks limit given) start results after) :
    ∃ otherResults otherAfter,
      Completes (second.ticks limit given) otherStart otherResults otherAfter ∧
      List.Forall₂ (TicksAgree place first) results otherResults := by
  induction given generalizing start otherStart results with
  | nil =>
      obtain ⟨rfl, rfl⟩ := completes_pure.mp completes
      exact ⟨[], otherStart, completes_pure.mpr ⟨rfl, rfl⟩, .nil⟩
  | cons inputs rest ih =>
      obtain ⟨result, between, later, steps, others, rfl⟩ := completes_ticks_cons_iff.mp completes
      obtain ⟨otherResult, otherBetween, otherSteps, same, outputs⟩ :=
        rearranged.exists_step settling otherSettling published corresponds steps
      obtain ⟨otherLater, otherAfter, otherCompletes, agree⟩ := ih same others
      refine ⟨_, otherAfter, completes_ticks_cons_iff.mpr ⟨otherResult, otherBetween, otherLater,
        otherSteps, otherCompletes, rfl⟩, .cons ⟨outputs, ?_⟩ agree⟩
      intro handle inside
      exact same.memory_eq inside

/-- A run of one diagram that completes has a run of the other beside it. -/
theorem exists_simulate [Host] [LawfulBEq α] (published : PublishesAlike place first second)
    {given : List (List (String × α))} {results : List (TickResult α × RunState α)}
    (simulated : first.simulate limit given = .ok results) :
    ∃ otherResults, second.simulate limit given = .ok otherResults ∧
      List.Forall₂ (TicksAgree place first) results otherResults := by
  obtain ⟨start, after, created, completes⟩ := simulate_eq_ok_iff.mp simulated
  obtain ⟨otherStart, otherCreated, same⟩ := rearranged.exists_create created
  obtain ⟨otherResults, otherAfter, otherCompletes, agree⟩ :=
    rearranged.exists_ticks settling otherSettling published same completes
  exact ⟨otherResults, simulate_eq_ok_iff.mpr ⟨_, _, otherCreated, otherCompletes⟩, agree⟩

end Rearranged

end SignalFlow.Compiled
