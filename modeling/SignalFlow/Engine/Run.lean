import SignalFlow.Engine.Series
import SignalFlow.Engine.Step

/-! # Runs

An engine (`Engine`) steps one compiled diagram through its ticks. `Engine.run` starts afresh and
takes ticks as long as the time has not passed the duration; its result lists times, outputs and
traces tick by tick (`RunResult`).

A session works on an engine, leaves notices and may break off; what it has changed until then
stays.
-/

namespace SignalFlow

/-- What an engine does when a loop has not settled. -/
structure EngineSettings where
  /-- The limit of passes, as given. -/
  maxPasses : Value
  /-- The policy, as given; under `warn` the user is told once in a run. -/
  policy : Value

/-- A compiled diagram under execution. -/
structure Engine (α : Type) where
  compiled : Compiled α
  limit : Nat
  policy : Value
  /-- The state, once there is one. -/
  state : Option (RunState α)
  /-- Whether the user has been told in this run. -/
  warned : Bool

/-- Work on an engine. -/
abbrev Session (α : Type) := ExceptT Fault (StateT (Engine α) (StateM (List Notice)))

/-- The series of a run. -/
structure RunResult (α : Type) where
  times : List α
  outputs : List (String × List α)
  traces : List (String × List α)
  /-- The number of ticks whose loop did not settle. -/
  unconverged : Nat

namespace Engine

variable {α : Type} [Scalar α]

/-- An engine for a compiled diagram. -/
def new (compiled : Compiled α) (settings : EngineSettings) : Except Fault (Engine α) := do
  return ⟨compiled, ← passLimit settings.maxPasses, settings.policy, none, false⟩

/-- Whether the user is to be told of loops that have not settled. -/
def warns (engine : Engine α) : Bool :=
  match engine.policy with
  | .text policy => policy == "warn"
  | _ => false

/-- Leaves a notice in a session. -/
def tell (notice : Notice) : Session α Unit :=
  fun engine notices => ((.ok (), engine), notices ++ [notice])

/-- Starts afresh. -/
def restart [Host] : Session α (RunState α) := do
  let engine ← get
  let state ← liftExcept (RunState.create engine.compiled)
  modify fun engine => { engine with state := some state, warned := false }
  return state

/-- The state; without one the engine starts afresh. -/
def ensure [Host] : Session α (RunState α) := do
  match (← get).state with
  | some state => return state
  | none => restart

/-- Does a part of a tick on the state of the engine. -/
def perform [Host] {β : Type} (part : Compiled α → Tick α β) : Session α β := do
  let state ← ensure
  let engine ← get
  let (result, state) := (part engine.compiled).run state
  set { engine with state := some state }
  liftExcept result

/-- One tick. -/
def step [Host] (given : List (String × α)) : Session α (TickResult α) := do
  let limit := (← get).limit
  let resolution ← perform fun compiled => compiled.settlePhase limit given
  let engine ← get
  if !resolution.converged && engine.warns && !engine.warned then
    let time := (engine.state.map fun state => Scalar.toFloat state.time).getD 0.0
    tell (.unsettled resolution.passes time)
    set { engine with warned := true }
  perform fun compiled => compiled.finishPhase resolution

/-- How far past the duration a tick may lie. -/
def tolerance : α := 1e-9

/-- Takes ticks as long as the time has not passed the duration, at most `room`. -/
def runFrom [Host] (duration : α) (sample : α → List (String × α)) :
    Nat → Session α (List (TickResult α))
  | 0 => return []
  | room + 1 => do
      let state ← ensure
      if state.time ≤ duration + tolerance then
        let first ← step (sample state.time)
        return first :: (← runFrom duration sample room)
      else return []

/-- A number of ticks that no run of a duration exceeds, with a step that is not lost against the
time. -/
def tickBound (compiled : Compiled α) (duration : α) : Nat :=
  match compiled.dt.number with
  | .error _ => 1
  | .ok dt =>
      match Scalar.round ((duration + tolerance) / dt) with
      | .ok ticks => 2 * ticks.toNat + 2
      | .error _ => 1

end Engine

/-- The series of some ticks. -/
def RunResult.ofTicks {α : Type} [Scalar α] (compiled : Compiled α) (ticks : List (TickResult α)) :
    RunResult α :=
  let series (names : List String) (values : TickResult α → List (String × α)) :
      List (String × List α) :=
    names.map fun name => (name, ticks.filterMap fun tick => Entries.get? (values tick) name)
  ⟨ticks.map (·.time), series compiled.outputNames (·.outputs),
    series (compiled.traceKeys.map (·.2)).eraseDups (·.traces),
    (ticks.filter (!·.resolution.converged)).length⟩

namespace Engine

variable {α : Type} [Scalar α]

/-- A run from the start with the inputs of a series, for a duration or else that of the diagram. -/
def run [Host] (duration : Option α) (series : Option (InputSeries α)) : Session α
    (RunResult α) := do
  let compiled := (← get).compiled
  let _ ← restart
  let duration ← match duration with
    | some duration => pure duration
    | none => liftExcept compiled.runtime.number
  let sample (time : α) : List (String × α) :=
    match series with
    | some series => series.sample time
    | none => []
  let ticks ← runFrom duration sample (tickBound compiled duration)
  return .ofTicks compiled ticks

end Engine

end SignalFlow
