import SignalFlow.Proofs.EngineStep
import SignalFlow.Proofs.Runs

/-! # Runs of an engine

An engine that takes ticks until the time has passed a duration takes them one after the other, each
with the inputs of its time (`Engine.exists_ticks_of_runFrom`). So a run of an engine that ends with
a result has simulated its compiled diagram, and the result shows the ticks of this simulation
(`Engine.exists_simulate_of_run`).
-/

namespace SignalFlow

namespace Compiled

variable {α : Type} [Scalar α] {compiled : Compiled α} {limit : Nat}

/-- A tick shows the time at which it begins, shows the outputs that it leaves, and ends a step
later. -/
theorem exists_time_of_step (wellFormed : compiled.WellFormed) {given : List (String × α)}
    {start after : RunState α} {result : TickResult α} (fits : start.Fits compiled)
    (completes : Completes (compiled.step limit given) start result after) :
    ∃ resolution dt, compiled.dt.number = .ok dt ∧ after.time = start.time + dt ∧
      result = { compiled.results after resolution with time := start.time } := by
  obtain ⟨opened, resolution, settled, sunk, updated, dt, opens, resolves, sinks, updates, number,
    rfl, rfl⟩ := completes_step_iff.mp completes
  have evaluated := (completes_outputPhase_iff wellFormed fits.clear).mp opens
  have revision := isRevision_of_completes_resolve wellFormed resolves
  obtain ⟨sunkFits, sunkTime, -⟩ := kept_of_completes_evaluateEach wellFormed
    (fun _ member => wellFormed.lt_of_mem_sinkOrder member) (revision.fits evaluated.fits) sinks
  have time_eq : sunk.time = start.time := by
    rw [sunkTime, revision.time_eq, evaluated.time_eq]
    rfl
  have onlyMemories := ((completes_updatePhase_iff wellFormed sunkFits).mp updates).eq
  have updatedTime : updated.time = start.time := by rw [onlyMemories, time_eq]
  have outputs (handle : Nat) :
      RunState.outputOf { updated with time := updated.time + dt, tick := updated.tick + 1 } handle =
        sunk.outputOf handle := by
    rw [RunState.outputOf, RunState.outputOf, onlyMemories]
  refine ⟨resolution, dt, number, by rw [updatedTime], ?_⟩
  simp only [results, outputs, time_eq]

/-- Every tick of a simulation shows what it leaves. -/
theorem exists_results_of_simulate [Host] (wellFormed : compiled.WellFormed)
    {given : List (List (String × α))} {ticks : List (TickResult α × RunState α)}
    (simulated : compiled.simulate limit given = .ok ticks) {result : TickResult α}
    {after : RunState α} (member : (result, after) ∈ ticks) :
    ∃ resolution time, result = { compiled.results after resolution with time } := by
  obtain ⟨start, final, created, completes⟩ := simulate_eq_ok_iff.mp simulated
  obtain ⟨tick, found⟩ := List.getElem?_of_mem member
  obtain ⟨inputs, before, reachable, steps⟩ := exists_step_of_ticks
    (fun _ state => compiled.Reachable state) completes (.start created)
    (fun _ _ _ _ _ _ reached steps => reached.of_step steps) found
  obtain ⟨resolution, _, -, -, shows⟩ := exists_time_of_step wellFormed reachable.fits steps
  exact ⟨resolution, before.time, shows⟩

end Compiled

/-- The inputs of a run at a time: those of a series, and none without one. -/
def InputSeries.inputsAt {α : Type} [Scalar α] (series : Option (InputSeries α)) (time : α) :
    List (String × α) :=
  match series with
  | some series => series.sample time
  | none => []

namespace Engine

variable {α : Type} [Scalar α] {engine left : Engine α} {notices told : List Notice}

/-- An engine with a state takes ticks from this state, each with the inputs of its time. -/
theorem exists_ticks_of_runFrom [Host] {duration : α} {sample : α → List (String × α)} {room : Nat}
    {shown : List (TickResult α)} {state : RunState α} (wellFormed : engine.compiled.WellFormed)
    (present : engine.state = some state) (reachable : engine.compiled.Reachable state)
    (ended : ending (runFrom duration sample room) engine notices = ((.ok shown, left), told)) :
    ∃ results final,
      Completes (engine.compiled.ticks engine.limit (shown.map (sample ·.time))) state results final ∧
      shown = results.map (·.1) := by
  induction room generalizing engine left state notices told shown with
  | zero =>
      obtain rfl : [] = shown := Except.ok.inj (congrArg (·.1.1) ended)
      exact ⟨[], state, completes_pure.mpr ⟨rfl, rfl⟩, rfl⟩
  | succ room ih =>
      rw [runFrom, ending_bind_of_ok (ending_ensure present notices)] at ended
      split at ended
      · obtain ⟨warned, stepTold, stepped⟩ := ending_step present (sample state.time) notices
        rcases first : outcome (engine.compiled.step engine.limit (sample state.time)) state with
          ⟨cause | result, between⟩
        · rw [first] at stepped
          rw [ending_bind_of_error stepped] at ended
          cases congrArg (·.1.1) ended
        · rw [first] at stepped
          rw [ending_bind_of_ok stepped] at ended
          obtain ⟨_, _, -, -, result_eq⟩ :=
            Compiled.exists_time_of_step wellFormed reachable.fits first
          have shows : result.time = state.time := by rw [result_eq]
          have reached : engine.compiled.Reachable between := reachable.of_step first
          let next : Engine α := { engine with state := some between, warned }
          have nextWellFormed : next.compiled.WellFormed := wellFormed
          rcases others : ending (runFrom duration sample room) next stepTold with
            ⟨⟨cause | later, last⟩, lastTold⟩
          · rw [ending_bind_of_error others] at ended
            cases congrArg (·.1.1) ended
          · rw [ending_bind_of_ok others] at ended
            obtain rfl : result :: later = shown := Except.ok.inj (congrArg (·.1.1) ended)
            obtain ⟨results, final, completes, rfl⟩ := ih nextWellFormed rfl reached others
            refine ⟨(result, between) :: results, final, ?_, rfl⟩
            rw [List.map_cons, shows]
            exact Compiled.completes_ticks_cons_iff.mpr ⟨result, between, _, first, completes, rfl⟩
      · obtain rfl : [] = shown := Except.ok.inj (congrArg (·.1.1) ended)
        exact ⟨[], state, completes_pure.mpr ⟨rfl, rfl⟩, rfl⟩

/-- An engine starts afresh in the state before the first tick, if there is one. -/
theorem ending_restart [Host] (engine : Engine α) (notices : List Notice) :
    ending restart engine notices =
      match RunState.create engine.compiled with
      | .ok start => ((.ok start, { engine with state := some start, warned := false }), notices)
      | .error cause => ((.error cause, engine), notices) := by
  rw [restart, ending_bind_of_ok (ending_get engine notices)]
  cases RunState.create engine.compiled <;> rfl

/-- **A run of an engine that ends with a result simulates its compiled diagram**, and the result
shows the ticks of the simulation. -/
theorem exists_simulate_of_run [Host] {duration : Option α} {series : Option (InputSeries α)}
    {result : RunResult α} (wellFormed : engine.compiled.WellFormed)
    (ended : ending (run duration series) engine notices = ((.ok result, left), told)) :
    ∃ results, engine.compiled.simulate engine.limit
        (result.times.map (InputSeries.inputsAt series)) = .ok results ∧
      result = .ofTicks engine.compiled (results.map (·.1)) := by
  have restarted := ending_restart engine notices
  rw [run, ending_bind_of_ok (ending_get engine notices)] at ended
  rcases created : RunState.create engine.compiled with cause | start
  · rw [created] at restarted
    rw [ending_bind_of_error restarted] at ended
    cases congrArg (·.1.1) ended
  rw [created] at restarted
  rw [ending_bind_of_ok restarted] at ended
  let fresh : Engine α := { engine with state := some start, warned := false }
  have freshWellFormed : fresh.compiled.WellFormed := wellFormed
  -- Whatever the duration is, the engine takes ticks until then.
  have takes (duration : α)
      (ended : ending (runFrom duration (InputSeries.inputsAt series)
          (tickBound engine.compiled duration) >>= fun ticks =>
            pure (RunResult.ofTicks engine.compiled ticks)) fresh notices =
        ((.ok result, left), told)) :
      ∃ results, engine.compiled.simulate engine.limit
          (result.times.map (InputSeries.inputsAt series)) = .ok results ∧
        result = .ofTicks engine.compiled (results.map (·.1)) := by
    rcases taken : ending (runFrom duration (InputSeries.inputsAt series)
        (tickBound engine.compiled duration)) fresh notices with ⟨⟨cause | shown, last⟩, lastTold⟩
    · rw [ending_bind_of_error taken] at ended
      cases congrArg (·.1.1) ended
    · rw [ending_bind_of_ok taken] at ended
      obtain rfl : RunResult.ofTicks engine.compiled shown = result :=
        Except.ok.inj (congrArg (·.1.1) ended)
      obtain ⟨results, final, completes, rfl⟩ :=
        exists_ticks_of_runFrom freshWellFormed rfl (.start created) taken
      refine ⟨results, Compiled.simulate_eq_ok_iff.mpr ⟨start, final, created, ?_⟩, rfl⟩
      rw [RunResult.ofTicks, List.map_map]
      exact completes
  cases duration with
  | some duration => exact takes duration ended
  | none =>
      rcases number : engine.compiled.runtime.number with cause | duration
      · rw [number] at ended
        cases congrArg (·.1.1) ended
      · rw [number] at ended
        exact takes duration ended

end Engine

end SignalFlow
