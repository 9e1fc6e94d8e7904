import SignalFlow.Config.Basic
import SignalFlow.Engine.Run

/-! # Settings of engines

What the settings say about runs: the step and the duration of diagrams that give none, the limit of
passes and the policy for loops that do not settle.
-/

namespace SignalFlow.Settings

/-- The step of a diagram that gives none. -/
def step {α : Type} [Scalar α] (settings : Settings) : Setting α :=
  .ofValue (settings.get "simulation.default_timestep" (.float 0.01))

/-- The duration of a diagram that gives none. -/
def duration {α : Type} [Scalar α] (settings : Settings) : Setting α :=
  .ofValue (settings.get "simulation.default_time" (.float 10.0))

/-- The limit of passes, as it is given. -/
def maxPasses (settings : Settings) : Value :=
  settings.get "engine.max_algebraic_iterations" (.int 50)

/-- The settings of an engine. -/
def engine (settings : Settings) : EngineSettings :=
  ⟨settings.maxPasses, settings.get "engine.unconverged_policy" (.text "ignore")⟩

end SignalFlow.Settings
