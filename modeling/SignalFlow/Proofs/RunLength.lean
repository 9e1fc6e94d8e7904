import SignalFlow.Host.Usual
import SignalFlow.Proofs.EngineRun
import SignalFlow.Proofs.Entries
import SignalFlow.Proofs.TickCount

/-! # The length of a run

A run for a duration takes the ticks up to this duration, one after the other from the start
(`Engine.result_run`). With exact arithmetic their number is known beforehand, each output and trace
has a value in every one of them, and a shorter run is the beginning of a longer one, whatever was
run on the engine before (`Engine.run_takes_ticks`).
-/

namespace SignalFlow

variable {α : Type} [Scalar α]

/-- The times of some ticks: the first one, and each a step after the one before. -/
def tickTimes (first dt : α) (count : Nat) : List α := List.iterate (· + dt) first count

theorem tickTimes_succ (first dt : α) (count : Nat) :
    tickTimes first dt (count + 1) = first :: tickTimes (first + dt) dt count := rfl

/-- With exact arithmetic steps can be counted off. -/
theorem Scalar.IsExact.value_iterate {value : α → ℝ} (exact : Scalar.IsExact value) (first dt : α)
    (tick : ℕ) : value ((· + dt)^[tick] first) = value first + tick * value dt := by
  induction tick with
  | zero => simp
  | succ tick ih =>
      rw [Function.iterate_succ_apply', exact.add, ih]
      push_cast
      ring

namespace Compiled

variable {compiled : Compiled α} {limit : Nat} {dt : α} {given : List (List (String × α))}
  {start final : RunState α} {results : List (TickResult α × RunState α)}

/-- The first of some ticks are those with the first inputs. -/
theorem completes_ticks_take (completes : Completes (compiled.ticks limit given) start results final)
    (count : Nat) :
    ∃ between, Completes (compiled.ticks limit (given.take count)) start (results.take count)
      between := by
  induction count generalizing given start results with
  | zero => exact ⟨start, completes_pure.mpr ⟨rfl, rfl⟩⟩
  | succ count ih =>
      cases given with
      | nil =>
          obtain ⟨rfl, -⟩ := completes_pure.mp completes
          exact ⟨start, completes_pure.mpr ⟨rfl, rfl⟩⟩
      | cons inputs rest =>
          obtain ⟨result, between, later, steps, others, rfl⟩ := completes_ticks_cons_iff.mp completes
          obtain ⟨last, first⟩ := ih others
          exact ⟨last, completes_ticks_cons_iff.mpr ⟨result, between, _, steps, first, rfl⟩⟩

/-- A simulation with the first inputs is the beginning of the one with all of them. -/
theorem simulate_take [Host] (simulated : compiled.simulate limit given = .ok results)
    (count : Nat) :
    compiled.simulate limit (given.take count) = .ok (results.take count) := by
  obtain ⟨start, final, created, completes⟩ := simulate_eq_ok_iff.mp simulated
  obtain ⟨between, first⟩ := completes_ticks_take completes count
  exact simulate_eq_ok_iff.mpr ⟨start, between, created, first⟩

/-- Before the first tick the time is zero. -/
theorem time_of_create [Host] (created : RunState.create compiled = .ok start) :
    start.time = 0.0 := by
  obtain ⟨memories, -, same⟩ := bind_eq_ok_iff.mp created
  cases same
  rfl

/-- Each tick shows a time, a step after that of the tick before. -/
theorem times_of_ticks [Host] (wellFormed : compiled.WellFormed)
    (number : compiled.dt.number = .ok dt)
    (reachable : compiled.Reachable start)
    (completes : Completes (compiled.ticks limit given) start results final) :
    results.map (·.1.time) = tickTimes start.time dt given.length := by
  induction given generalizing start results with
  | nil =>
      obtain ⟨rfl, -⟩ := completes_pure.mp completes
      rfl
  | cons inputs rest ih =>
      obtain ⟨result, between, later, steps, others, rfl⟩ := completes_ticks_cons_iff.mp completes
      obtain ⟨resolution, step, stepNumber, advances, shows⟩ :=
        exists_time_of_step wellFormed reachable.fits steps
      obtain rfl : dt = step := Except.ok.inj (number.symm.trans stepNumber)
      rw [List.map_cons, ih (reachable.of_step steps) others, advances, List.length_cons, tickTimes_succ, shows]

/-- A tick has a value for each output and each key of a trace. -/
structure IsShown (compiled : Compiled α) (tick : TickResult α) : Prop where
  outputs {name : String} : name ∈ compiled.outputNames → (Entries.get? tick.outputs name).isSome
  traces {key : String} :
    key ∈ compiled.traceKeys.map (·.2) → (Entries.get? tick.traces key).isSome

theorem isShown_results (compiled : Compiled α) (state : RunState α) (resolution : Resolution)
    (time : α) : compiled.IsShown { compiled.results state resolution with time } where
  outputs member := by
    rw [Entries.isSome_get?_iff, results]
    simpa [Entries.keys, outputNames] using member
  traces member := by
    rw [Entries.isSome_get?_iff, results, Entries.mem_keys_ofPairs]
    simpa [Entries.keys] using member

theorem isShown_of_simulate [Host] (wellFormed : compiled.WellFormed)
    (simulated : compiled.simulate limit given = .ok results)
    {tick : TickResult α × RunState α} (member : tick ∈ results) : compiled.IsShown tick.1 := by
  obtain ⟨resolution, time, shows⟩ := exists_results_of_simulate wellFormed simulated member
  rw [shows]
  exact isShown_results compiled _ resolution _

end Compiled

namespace Engine

variable {engine : Engine α} {dt duration : α}

omit [Scalar α] in
/-- A session that makes something of the result of another one ends as that one does. -/
theorem result_bind_pure {β γ : Type} (session : Session α γ) (make : γ → β) (engine : Engine α)
    (notices : List Notice) :
    (ending (session >>= fun result => pure (make result)) engine notices).1.1 =
      (ending session engine notices).1.1.map make := by
  rcases ended : ending session engine notices with ⟨⟨cause | result, left⟩, told⟩
  · rw [ending_bind_of_error ended]
    rfl
  · rw [ending_bind_of_ok ended]
    rfl

/-- An engine whose ticks are due until a number of them has been taken takes these ticks. -/
theorem result_runFrom [Host] {state : RunState α} {sample : α → List (String × α)}
    {count room : Nat}
    (wellFormed : engine.compiled.WellFormed) (number : engine.compiled.dt.number = .ok dt)
    (present : engine.state = some state) (reachable : engine.compiled.Reachable state)
    (due : ∀ tick < count, (· + dt)^[tick] state.time ≤ duration + tolerance)
    (late : ¬ (· + dt)^[count] state.time ≤ duration + tolerance) (enough : count ≤ room)
    (notices : List Notice) :
    (ending (runFrom duration sample room) engine notices).1.1 =
      (outcome (engine.compiled.ticks engine.limit ((tickTimes state.time dt count).map sample))
        state).1.map (·.map (·.1)) := by
  induction count generalizing engine state room notices with
  | zero =>
      cases room with
      | zero => rfl
      | succ room =>
          have past : ¬ state.time ≤ duration + tolerance := late
          rw [runFrom, ending_bind_of_ok (ending_ensure present notices), if_neg past]
          rfl
  | succ count ih =>
      obtain ⟨room, rfl⟩ := Nat.exists_eq_add_one_of_ne_zero (by omega : room ≠ 0)
      have now : state.time ≤ duration + tolerance := due 0 (Nat.zero_lt_succ count)
      rw [runFrom, ending_bind_of_ok (ending_ensure present notices), if_pos now, tickTimes_succ,
        List.map_cons, Compiled.ticks, outcome_bind]
      obtain ⟨warned, told, stepped⟩ := ending_step present (sample state.time) notices
      rcases first : outcome (engine.compiled.step engine.limit (sample state.time)) state with
        ⟨cause | result, between⟩
      · rw [first] at stepped
        rw [ending_bind_of_error stepped]
        rfl
      · rw [first] at stepped
        rw [ending_bind_of_ok stepped]
        obtain ⟨_, step, stepNumber, advances, -⟩ :=
          Compiled.exists_time_of_step wellFormed reachable.fits first
        obtain rfl : dt = step := Except.ok.inj (number.symm.trans stepNumber)
        let next : Engine α := { engine with state := some between, warned }
        have others := @ih next between room wellFormed number rfl (reachable.of_step first)
          (fun tick before => by
            rw [advances]
            exact due (tick + 1) (Nat.succ_lt_succ before))
          (by rwa [advances]) (Nat.le_of_succ_le_succ enough) told
        rw [advances] at others
        simp only [outcome_bind, outcome_get]
        rw [result_bind_pure, others]
        rcases outcome (engine.compiled.ticks engine.limit _) between with ⟨cause | results, last⟩
          <;> rfl

/-- **A run takes the ticks that are due**, one after the other from the start: it ends as the
simulation of them does. -/
theorem result_run [Host] {count : Nat} (wellFormed : engine.compiled.WellFormed)
    (number : engine.compiled.dt.number = .ok dt)
    (due : ∀ tick < count, (· + dt)^[tick] 0.0 ≤ duration + tolerance)
    (late : ¬ (· + dt)^[count] 0.0 ≤ duration + tolerance)
    (enough : count ≤ tickBound engine.compiled duration) (series : Option (InputSeries α))
    (notices : List Notice) :
    (ending (run (some duration) series) engine notices).1.1 =
      (engine.compiled.simulate engine.limit
        ((tickTimes 0.0 dt count).map (InputSeries.inputsAt series))).map
          fun results => .ofTicks engine.compiled (results.map (·.1)) := by
  have restarted := ending_restart engine notices
  rw [run, ending_bind_of_ok (ending_get engine notices), Compiled.simulate]
  rcases created : RunState.create engine.compiled with cause | start
  · rw [created] at restarted
    rw [ending_bind_of_error restarted]
    rfl
  · rw [created] at restarted
    rw [ending_bind_of_ok restarted]
    have start_time := Compiled.time_of_create created
    rw [← start_time] at due late
    let fresh : Engine α := { engine with state := some start, warned := false }
    have takes := @result_runFrom _ _ fresh dt duration _ start (InputSeries.inputsAt series) count
      (tickBound engine.compiled duration) wellFormed number rfl (.start created) due late enough
      notices
    rw [start_time] at takes
    change (ending (runFrom duration (InputSeries.inputsAt series)
      (tickBound engine.compiled duration) >>= fun ticks =>
        pure (RunResult.ofTicks engine.compiled ticks)) fresh notices).1.1 = _
    rw [result_bind_pure, takes]
    change Except.map _ (Except.map _ (outcome (engine.compiled.ticks engine.limit _) start).1) =
      Except.map _ (outcome (engine.compiled.ticks engine.limit _) start).1
    rcases outcome (engine.compiled.ticks engine.limit _) start with ⟨cause | results, last⟩ <;> rfl

end Engine

/-! ## Earlier runs -/

namespace Engine

variable {β γ : Type}

/-- A session leaves an engine of the same compiled diagram with the same limit. -/
def Keeps (session : Session α β) : Prop :=
  ∀ engine notices, (ending session engine notices).1.2.compiled = engine.compiled ∧
    (ending session engine notices).1.2.limit = engine.limit

omit [Scalar α] in
theorem keeps_pure (result : β) : Keeps (pure result : Session α β) := fun _ _ => ⟨rfl, rfl⟩

omit [Scalar α] in
theorem Keeps.bind {session : Session α γ} {next : γ → Session α β} (first : Keeps session)
    (others : ∀ middle, Keeps (next middle)) : Keeps (session >>= next) := by
  intro engine notices
  have kept := first engine notices
  rcases ended : ending session engine notices with ⟨⟨cause | middle, left⟩, told⟩ <;>
    rw [ended] at kept
  · rw [ending_bind_of_error ended]
    exact kept
  · rw [ending_bind_of_ok ended]
    exact ⟨(others middle left told).1.trans kept.1, (others middle left told).2.trans kept.2⟩

theorem keeps_restart [Host] : Keeps (restart : Session α (RunState α)) := by
  intro engine notices
  rw [ending_restart]
  cases RunState.create engine.compiled <;> exact ⟨rfl, rfl⟩

theorem keeps_ensure [Host] : Keeps (ensure : Session α (RunState α)) := by
  intro engine notices
  rw [ensure, ending_bind_of_ok (ending_get engine notices)]
  cases engine.state
  · exact keeps_restart engine notices
  · exact ⟨rfl, rfl⟩

theorem keeps_perform [Host] (part : Compiled α → Tick α β) : Keeps (perform part) := by
  refine keeps_ensure.bind fun state engine notices => ?_
  rw [ending_bind_of_ok (ending_get engine notices)]
  rcases ended : (part engine.compiled).run state with ⟨cause | result, after⟩ <;> exact ⟨rfl, rfl⟩

theorem keeps_step [Host] (given : List (String × α)) : Keeps (step given) := by
  intro engine notices
  rw [step, ending_bind_of_ok (ending_get engine notices)]
  refine (keeps_perform _).bind (fun resolution left told => ?_) engine notices
  rw [ending_bind_of_ok (ending_get left told)]
  have finishes (warned : Bool) :=
    keeps_perform (fun compiled => compiled.finishPhase resolution) { left with warned }
  split
  · exact finishes true _
  · exact finishes left.warned told

theorem keeps_runFrom [Host] (duration : α) (sample : α → List (String × α)) (room : Nat) :
    Keeps (runFrom duration sample room) := by
  induction room with
  | zero => exact keeps_pure []
  | succ room ih =>
      refine keeps_ensure.bind fun state => ?_
      split
      · exact (keeps_step _).bind fun result => ih.bind fun others => keeps_pure _
      · exact keeps_pure []

/-- A run leaves the diagram and the limit of an engine as they are. -/
theorem keeps_run [Host] (duration : Option α) (series : Option (InputSeries α)) :
    Keeps (run duration series) := by
  intro engine notices
  rw [run, ending_bind_of_ok (ending_get engine notices)]
  refine keeps_restart.bind (fun _ => ?_) engine notices
  cases duration with
  | some duration => exact (keeps_runFrom _ _ _).bind fun ticks => keeps_pure _
  | none =>
      have reads (value : Except Fault α) : Keeps (liftExcept value : Session α α) := by
        intro engine notices
        cases value <;> exact ⟨rfl, rfl⟩
      exact (reads _).bind fun duration => (keeps_runFrom _ _ _).bind fun ticks => keeps_pure _

end Engine

/-! ## Results -/

/-- A result has a number of ticks: the times are the multiples of the step, and each output and
trace has a value in every tick. -/
structure RunResult.HasTicks (value : α → ℝ) (step : ℝ) (count : ℕ) (result : RunResult α) :
    Prop where
  length_times : result.times.length = count
  times {tick : ℕ} {time : α} : result.times[tick]? = some time → value time = tick * step
  outputs {name : String} {values : List α} :
    (name, values) ∈ result.outputs → values.length = count
  traces {key : String} {values : List α} : (key, values) ∈ result.traces → values.length = count

/-- A table begins another one of the same columns, each of which begins with its values. -/
def Entries.Begins (short long : List (String × List α)) : Prop :=
  List.Forall₂ (fun first second => first.1 = second.1 ∧ first.2 <+: second.2) short long

/-- A result is the beginning of another one. -/
structure RunResult.Begins (short long : RunResult α) : Prop where
  times : short.times <+: long.times
  outputs : Entries.Begins short.outputs long.outputs
  traces : Entries.Begins short.traces long.traces

omit [Scalar α] in
theorem Entries.begins_map (names : List String) {short long : String → List α}
    (first : ∀ name, short name <+: long name) :
    Begins (names.map fun name => (name, short name)) (names.map fun name => (name, long name)) := by
  refine List.forall₂_map_left_iff.mpr (List.forall₂_map_right_iff.mpr ?_)
  exact List.forall₂_same.mpr fun name _ => ⟨rfl, first name⟩

/-- The result of the first ticks begins that of all of them. -/
theorem RunResult.begins_ofTicks (compiled : Compiled α) {short long : List (TickResult α)}
    (first : short <+: long) : (ofTicks compiled short).Begins (ofTicks compiled long) where
  times := first.map _
  outputs := Entries.begins_map _ fun _ => first.filterMap _
  traces := Entries.begins_map _ fun _ => first.filterMap _

namespace Compiled

variable {compiled : Compiled α} {limit : Nat} {dt : α} {results : List (TickResult α × RunState α)}
  {series : Option (InputSeries α)} {count : Nat}

section Lengths

variable {given : List (List (String × α))} {name : String} {values : List α}

omit [Scalar α] in
/-- Names that every tick has a value of have as many values as there are ticks. -/
theorem length_of_mem_series {names : List String} {shown : TickResult α → List (String × α)}
    (all : ∀ tick ∈ results, ∀ name ∈ names, (Entries.get? (shown tick.1) name).isSome)
    (member : (name, values) ∈ names.map fun name =>
      (name, (results.map (·.1)).filterMap fun tick => Entries.get? (shown tick) name)) :
    values.length = results.length := by
  obtain ⟨_, listed, same⟩ := List.mem_map.mp member
  obtain ⟨rfl, rfl⟩ := Prod.mk.inj same
  rw [List.filterMap_length_eq_length.mpr, List.length_map]
  intro result among
  obtain ⟨tick, taken, rfl⟩ := List.mem_map.mp among
  exact all tick taken _ listed

variable [Host] (wellFormed : compiled.WellFormed)
  (simulated : compiled.simulate limit given = .ok results)
include wellFormed simulated

/-- In the result of a simulation each output has a value in every tick. -/
theorem length_of_mem_outputs
    (member : (name, values) ∈ (RunResult.ofTicks compiled (results.map (·.1))).outputs) :
    values.length = results.length :=
  length_of_mem_series (fun _ taken _ listed =>
    (isShown_of_simulate wellFormed simulated taken).outputs listed) member

/-- In the result of a simulation each trace has a value in every tick. -/
theorem length_of_mem_traces
    (member : (name, values) ∈ (RunResult.ofTicks compiled (results.map (·.1))).traces) :
    values.length = results.length :=
  length_of_mem_series (fun _ taken _ listed =>
    (isShown_of_simulate wellFormed simulated taken).traces (List.mem_eraseDups.mp listed)) member

end Lengths

/-- The result of a simulation has as many ticks as times were asked for. -/
theorem hasTicks_of_simulate [Host] {value : α → ℝ} (exact : Scalar.IsExact value)
    (wellFormed : compiled.WellFormed) (number : compiled.dt.number = .ok dt)
    (simulated : compiled.simulate limit
      ((tickTimes 0.0 dt count).map (InputSeries.inputsAt series)) = .ok results) :
    (RunResult.ofTicks compiled (results.map (·.1))).HasTicks value (value dt) count := by
  obtain ⟨start, final, created, completes⟩ := simulate_eq_ok_iff.mp simulated
  have times_eq : results.map (·.1.time) = tickTimes 0.0 dt count := by
    rw [times_of_ticks wellFormed number (.start created) completes, time_of_create created]
    simp [tickTimes]
  have length_eq : results.length = count := by
    simpa [tickTimes] using congrArg List.length times_eq
  refine ⟨by simpa [RunResult.ofTicks] using length_eq, ?_, ?_, ?_⟩
  · intro tick time found
    change ((results.map (·.1)).map (·.time))[tick]? = some time at found
    rw [List.map_map] at found
    change (results.map (·.1.time))[tick]? = some time at found
    obtain ⟨before, -⟩ := List.getElem?_eq_some_iff.mp found
    rw [List.length_map, length_eq] at before
    rw [times_eq, tickTimes, List.getElem?_iterate _ _ _ _ before, Option.some_inj] at found
    rw [← found, exact.value_iterate, exact.zero, zero_add]
  · exact fun member => (length_of_mem_outputs wellFormed simulated member).trans length_eq
  · exact fun member => (length_of_mem_traces wellFormed simulated member).trans length_eq

end Compiled

namespace Engine

variable {engine : Engine α} {dt : α}

/-- With exact arithmetic a run takes as many ticks as are up to its duration. -/
theorem result_run_of_isExact [Host] {value : α → ℝ} (exact : Scalar.IsExact value)
    (wellFormed : engine.compiled.WellFormed) (number : engine.compiled.dt.number = .ok dt)
    (positive : 0 < value dt) (series : Option (InputSeries α)) (duration : α)
    (notices : List Notice) :
    (ending (run (some duration) series) engine notices).1.1 =
      (engine.compiled.simulate engine.limit
        ((tickTimes 0.0 dt (ticksWithin (value dt) (value duration))).map
          (InputSeries.inputsAt series))).map
            fun ticks => .ofTicks engine.compiled (ticks.map (·.1)) := by
  have due_iff (tick : ℕ) : (· + dt)^[tick] 0.0 ≤ duration + tolerance ↔
      tick < ticksWithin (value dt) (value duration) := by
    rw [lt_ticksWithin_iff positive, exact.le_iff, exact.value_iterate, exact.zero, zero_add,
      exact.add, tolerance, exact.tolerance]
  apply result_run wellFormed number
  · exact fun tick => (due_iff tick).mpr
  · exact fun due => lt_irrefl _ ((due_iff _).mp due)
  · exact ticksWithin_le_tickBound exact number duration

/-- **A run takes the ticks up to its duration.** With exact arithmetic their number is the quotient
of duration and step, rounded down, and one more. If no tick breaks off then the run ends with a
result that has a value of each output and trace in every tick. A run of no longer duration, on an
engine with any state left by earlier runs, ends with the beginning of this result, and it tells how
many of its ticks did not settle. -/
theorem run_takes_ticks [Host] {value : α → ℝ} (exact : Scalar.IsExact value)
    {diagram : Diagram String}
    {defaultDt defaultRuntime : Setting α} {before after : List Notice}
    (compiles : Completes (Compiled.ofDiagram diagram defaultDt defaultRuntime) before
      engine.compiled after)
    (number : engine.compiled.dt.number = .ok dt) (positive : 0 < value dt)
    (series : Option (InputSeries α)) (duration : α) (notices : List Notice) :
    let count := ticksWithin (value dt)
    let simulated := engine.compiled.simulate engine.limit
      ((tickTimes 0.0 dt (count (value duration))).map (InputSeries.inputsAt series))
    (ending (run (some duration) series) engine notices).1.1 =
        simulated.map (fun ticks => .ofTicks engine.compiled (ticks.map (·.1))) ∧
      ∀ ticks, simulated = .ok ticks →
        ticks.length = count (value duration) ∧
        (RunResult.ofTicks engine.compiled (ticks.map (·.1))).HasTicks value (value dt)
          (count (value duration)) ∧
        ∀ (other : Engine α) (shorter : α) (notices : List Notice),
          other.compiled = engine.compiled → other.limit = engine.limit →
          value shorter ≤ value duration →
          ∃ result, (ending (run (some shorter) series) other notices).1.1 = .ok result ∧
            result.HasTicks value (value dt) (count (value shorter)) ∧
            result.Begins (.ofTicks engine.compiled (ticks.map (·.1))) ∧
            result.unconverged = ((ticks.take (count (value shorter))).filter
              (!·.1.resolution.converged)).length := by
  intro count simulated
  have wellFormed := Compiled.wellFormed_of_completes compiles
  refine ⟨result_run_of_isExact exact wellFormed number positive series duration notices, ?_⟩
  intro ticks succeeds
  have hasTicks := Compiled.hasTicks_of_simulate exact wellFormed number succeeds
  refine ⟨by simpa [RunResult.ofTicks] using hasTicks.length_times, hasTicks, ?_⟩
  rintro other shorter notices sameCompiled sameLimit le
  have fewer : count (value shorter) ≤ count (value duration) := ticksWithin_mono positive le
  have first : engine.compiled.simulate engine.limit
      ((tickTimes 0.0 dt (count (value shorter))).map (InputSeries.inputsAt series)) =
        .ok (ticks.take (count (value shorter))) := by
    rw [← Compiled.simulate_take succeeds, ← List.map_take, tickTimes, tickTimes,
      List.take_iterate, min_eq_left fewer]
  refine ⟨.ofTicks engine.compiled ((ticks.take (count (value shorter))).map (·.1)), ?_, ?_, ?_, ?_⟩
  · rw [← sameCompiled] at wellFormed number first ⊢
    rw [← sameLimit] at first
    rw [result_run_of_isExact exact wellFormed number positive, first]
    rfl
  · exact Compiled.hasTicks_of_simulate exact wellFormed number first
  · exact RunResult.begins_ofTicks _ ((List.take_prefix _ _).map _)
  · change (((ticks.take _).map (·.1)).filter (!·.resolution.converged)).length = _
    rw [List.filter_map, List.length_map]
    rfl

/-- A constant is doubled, published and shown. -/
def doubledDiagram : Diagram String where
  blocks := [⟨"c", "constant", [("value", .int 4)]⟩, ⟨"g", "gain", [("gain", .int 2)]⟩,
    ⟨"y", "labelSink", [("name", .text "y")]⟩, ⟨"log", "scope", []⟩]
  connections := [⟨"c", "g", 0, 0⟩, ⟨"g", "y", 0, 0⟩, ⟨"g", "log", 0, 0⟩]
  vars := []
  runtime := .null
  dt := .int 1
  nextId := 1

open Host.Usual

/-- A single pass is too few for a tick to count as settled. The run for two steps takes three such
ticks, and the one for a single step after it repeats two of them. -/
theorem run_takes_ticks_doubledDiagram :
    ∃ (engine : Engine Rat) (result short : RunResult Rat),
      result.outputs = [("y", [8, 8, 8])] ∧ result.traces = [("log", [8, 8, 8])] ∧
      (ending (run (some 2) none) engine []).1.1 = .ok result ∧
      result.HasTicks Rat.cast 1 3 ∧
      (ending (run (some 1) none) (ending (run (some 2) none) engine []).1.2 []).1.1 = .ok short ∧
      short.HasTicks Rat.cast 1 2 ∧ short.Begins result ∧ short.unconverged = 2 := by
  let engineOf (compiled : Compiled Rat) : Engine Rat :=
    ⟨compiled, 1, .text "ignore", none, false⟩
  have runs : (outcome (Compiled.ofDiagram doubledDiagram (Compiled.standardDt : Setting Rat)
      Compiled.standardRuntime) []).1.toOption.any (fun compiled =>
        compiled.dt.number.toOption.any (· == 1) &&
        (ending (run (some 2) none) (engineOf compiled) []).1.1.toOption.any fun result =>
          (result.outputs == [("y", [8, 8, 8])]) && (result.traces == [("log", [8, 8, 8])]) &&
            result.unconverged == 3) = true := by
    decide +kernel
  obtain ⟨compiled, after, compiles, runs⟩ := exists_completes_of_any runs
  rw [Bool.and_eq_true] at runs
  obtain ⟨dt, number, one⟩ := exists_of_toOption_any runs.1
  obtain rfl : dt = 1 := beq_iff_eq.mp one
  obtain ⟨result, ended, shows⟩ := exists_of_toOption_any runs.2
  simp only [Bool.and_eq_true, beq_iff_eq] at shows
  obtain ⟨⟨outputs, traces⟩, unconverged⟩ := shows
  have length_two : ticksWithin ((1 : Rat) : ℝ) ((2 : Rat) : ℝ) = 3 := by
    rw [ticksWithin, if_neg (by norm_num)]
    norm_num
  have length_one : ticksWithin ((1 : Rat) : ℝ) ((1 : Rat) : ℝ) = 2 := by
    rw [ticksWithin, if_neg (by norm_num)]
    norm_num
  obtain ⟨ends, begins⟩ := @run_takes_ticks _ _ (engineOf compiled) 1 _ _ Scalar.isExact_rat
    _ _ _ _ _ compiles number (by norm_num) none 2 []
  rw [ended] at ends
  rcases simulated : compiled.simulate 1 _ with cause | ticks
  · rw [simulated] at ends
    cases ends
  · rw [simulated] at ends
    obtain rfl := Except.ok.inj ends
    obtain ⟨count, hasTicks, shorter⟩ := begins ticks simulated
    obtain ⟨kept, keptLimit⟩ := keeps_run (some 2) none (engineOf compiled) []
    obtain ⟨short, endsShort, shortTicks, first, counts⟩ :=
      shorter _ 1 [] kept keptLimit (by norm_num)
    rw [length_two] at count hasTicks
    rw [length_one] at shortTicks counts
    rw [Rat.cast_one] at hasTicks shortTicks
    have unsettled : ∀ tick ∈ ticks, !tick.1.resolution.converged := by
      rw [← List.length_filter_eq_length_iff, count, ← unconverged]
      change _ = ((ticks.map (·.1)).filter (!·.resolution.converged)).length
      rw [List.filter_map, List.length_map]
      rfl
    refine ⟨engineOf compiled, _, short, outputs, traces, ended, hasTicks, endsShort, shortTicks,
      first, ?_⟩
    rw [counts,
      List.filter_eq_self.mpr fun tick member => unsettled tick (List.mem_of_mem_take member),
      List.length_take, count]
    rfl

end Engine

end SignalFlow
