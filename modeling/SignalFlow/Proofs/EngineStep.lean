import SignalFlow.Engine.Run
import SignalFlow.Proofs.Runs

/-! # Steps of an engine

An engine takes a tick in two parts, between which it may tell the user of a loop that has not
settled. Together they are the tick of its compiled diagram (`Engine.ending_step`): what the engine
does besides shows in notices only.
-/

namespace SignalFlow.Engine

variable {α : Type}

/-- How a session ends: with a result or the cause of its breaking off, the engine that it leaves and
all notices. -/
def ending {β : Type} (session : Session α β) (engine : Engine α) (notices : List Notice) :
    (Except Fault β × Engine α) × List Notice :=
  (session.run.run engine).run notices

section Bind

variable {β γ : Type} {session : Session α γ} {next : γ → Session α β} {engine left : Engine α}
  {notices told : List Notice}

theorem ending_bind_of_ok {middle : γ}
    (ended : ending session engine notices = ((.ok middle, left), told)) :
    ending (session >>= next) engine notices = ending (next middle) left told := by
  change (match ending session engine notices with
    | ((value, engine), notices) =>
      ending (ExceptT.mk (ExceptT.bindCont next value)) engine notices) = _
  rw [ended]
  rfl

theorem ending_bind_of_error {cause : Fault}
    (ended : ending session engine notices = ((.error cause, left), told)) :
    ending (session >>= next) engine notices = ((.error cause, left), told) := by
  change (match ending session engine notices with
    | ((value, engine), notices) =>
      ending (ExceptT.mk (ExceptT.bindCont next value)) engine notices) = _
  rw [ended]
  rfl

end Bind

theorem ending_get (engine : Engine α) (notices : List Notice) :
    ending (get : Session α (Engine α)) engine notices = ((.ok engine, engine), notices) := rfl

variable [Scalar α]

theorem ending_ensure [Host] {engine : Engine α} {state : RunState α}
    (present : engine.state = some state)
    (notices : List Notice) : ending ensure engine notices = ((.ok state, engine), notices) := by
  rw [ensure, ending_bind_of_ok (ending_get engine notices), present]
  rfl

/-- A part of a tick is done on the state of the engine. -/
theorem ending_perform [Host] {β : Type} (part : Compiled α → Tick α β) {engine : Engine α}
    {state : RunState α} (present : engine.state = some state) (notices : List Notice) :
    ending (perform part) engine notices =
      (((outcome (part engine.compiled) state).1,
        { engine with state := some (outcome (part engine.compiled) state).2 }), notices) := by
  rw [perform, ending_bind_of_ok (ending_ensure present notices),
    ending_bind_of_ok (ending_get engine notices)]
  change ending (do
    set { engine with state := some (outcome (part engine.compiled) state).2 }
    liftExcept (outcome (part engine.compiled) state).1) engine notices = _
  cases (outcome (part engine.compiled) state).1 <;> rfl

/-- **A step of an engine is the tick of its compiled diagram** with the limit of the engine. -/
theorem ending_step [Host] {engine : Engine α} {state : RunState α}
    (present : engine.state = some state)
    (given : List (String × α)) (notices : List Notice) :
    ∃ warned told, ending (step given) engine notices =
      (((outcome (engine.compiled.step engine.limit given) state).1,
        { engine with
          state := some (outcome (engine.compiled.step engine.limit given) state).2
          warned }), told) := by
  have settles := ending_perform (fun compiled => compiled.settlePhase engine.limit given) present
    notices
  rw [step, ending_bind_of_ok (ending_get engine notices), Compiled.step, outcome_bind]
  rcases ended : outcome (engine.compiled.settlePhase engine.limit given) state with
    ⟨cause | resolution, between⟩
  · rw [ended] at settles
    exact ⟨engine.warned, notices, ending_bind_of_error settles⟩
  · rw [ended] at settles
    rw [ending_bind_of_ok settles, ending_bind_of_ok (ending_get _ notices)]
    -- Whether the user is told or not, the engine finishes the tick on the same state.
    have finishes (warned : Bool) (told : List Notice) :
        ending (perform fun compiled => compiled.finishPhase resolution)
            { engine with state := some between, warned } told =
          (((outcome (engine.compiled.finishPhase resolution) between).1,
            { engine with
              state := some (outcome (engine.compiled.finishPhase resolution) between).2
              warned }), told) :=
      ending_perform _ rfl told
    split
    · exact ⟨true, _, finishes true _⟩
    · exact ⟨engine.warned, _, finishes engine.warned _⟩

end SignalFlow.Engine
