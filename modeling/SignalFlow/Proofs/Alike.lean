import SignalFlow.Proofs.Completion

/-! # Parts that end alike

Two parts, each started in a state of its own, end alike if both of them complete, with results of
one relation, or both break off for the same cause, and in either case leave states of one relation
(`EndsAlike`). What follows a part is done only where it completes, so ending alike is carried along
step by step.
-/

namespace SignalFlow

variable {ε σ τ β γ β' γ' : Type}

/-- Two endings with related results, or with the same cause of breaking off, and related states. -/
inductive EndsAlike (related : σ → τ → Prop) (same : β → γ → Prop) :
    Except ε β × σ → Except ε γ × τ → Prop where
  | completes {result : β} {other : γ} {after : σ} {otherAfter : τ} (results : same result other)
      (states : related after otherAfter) :
      EndsAlike related same (.ok result, after) (.ok other, otherAfter)
  | breaks {cause : ε} {after : σ} {otherAfter : τ} (states : related after otherAfter) :
      EndsAlike related same (.error cause, after) (.error cause, otherAfter)

variable {related : σ → τ → Prop} {same : β → γ → Prop} {same' : β' → γ' → Prop}

namespace EndsAlike

theorem states {ending : Except ε β × σ} {other : Except ε γ × τ}
    (alike : EndsAlike related same ending other) : related ending.2 other.2 := by
  cases alike with
  | completes _ states => exact states
  | breaks states => exact states

theorem of_value {value : Except ε β} {before : σ} {otherBefore : τ}
    (states : related before otherBefore) :
    EndsAlike related (fun result other => other = result)
      (outcome (liftExcept value : ExceptT ε (StateM σ) β) before)
      (outcome (liftExcept value : ExceptT ε (StateM τ) β) otherBefore) := by
  rw [outcome_liftExcept, outcome_liftExcept]
  cases value with
  | error cause => exact .breaks states
  | ok result => exact .completes rfl states

/-- Parts that are followed alike end alike. -/
theorem bind {part : ExceptT ε (StateM σ) β} {other : ExceptT ε (StateM τ) γ}
    {next : β → ExceptT ε (StateM σ) β'} {otherNext : γ → ExceptT ε (StateM τ) γ'} {before : σ}
    {otherBefore : τ} (first : EndsAlike related same (outcome part before)
      (outcome other otherBefore))
    (rest : ∀ result otherResult middle otherMiddle, same result otherResult →
      related middle otherMiddle → EndsAlike related same' (outcome (next result) middle)
        (outcome (otherNext otherResult) otherMiddle)) :
    EndsAlike related same' (outcome (part >>= next) before)
      (outcome (other >>= otherNext) otherBefore) := by
  rw [outcome_bind, outcome_bind]
  generalize outcome part before = ending at first
  generalize outcome other otherBefore = otherEnding at first
  cases first with
  | completes results states => exact rest _ _ _ _ results states
  | breaks states => exact .breaks states

/-- A part may be followed by one that completes and does not matter. -/
theorem followed {part : ExceptT ε (StateM σ) β} {other : ExceptT ε (StateM τ) γ}
    {next : γ → ExceptT ε (StateM τ) γ'} {before : σ} {otherBefore : τ}
    (first : EndsAlike related same (outcome part before) (outcome other otherBefore))
    (rest : ∀ otherResult middle otherMiddle, related middle otherMiddle →
      Completes other otherBefore otherResult otherMiddle →
        ∃ last after, Completes (next otherResult) otherMiddle last after ∧ related middle after) :
    EndsAlike related (fun _ _ => True) (outcome part before)
      (outcome (other >>= next) otherBefore) := by
  rw [outcome_bind]
  rcases ended : outcome other otherBefore with ⟨value, otherMiddle⟩
  rw [ended] at first
  generalize outcome part before = ending at first
  cases first with
  | completes results states =>
      obtain ⟨last, after, completes, states⟩ := rest _ _ _ states ended
      dsimp only
      rw [completes]
      exact .completes trivial states
  | breaks states => exact .breaks states

/-- The same is done for each item of a list. -/
theorem forM {items : List β} {visit : β → ExceptT ε (StateM σ) Unit}
    {otherVisit : β → ExceptT ε (StateM τ) Unit} {before : σ} {otherBefore : τ}
    (states : related before otherBefore)
    (each : ∀ item ∈ items, ∀ state otherState, related state otherState →
      EndsAlike related (fun _ _ => True) (outcome (visit item) state)
        (outcome (otherVisit item) otherState)) :
    EndsAlike related (fun _ _ => True) (outcome (items.forM visit) before)
      (outcome (items.forM otherVisit) otherBefore) := by
  induction items generalizing before otherBefore with
  | nil => exact .completes trivial states
  | cons item rest ih =>
      have first := each item List.mem_cons_self before otherBefore states
      refine first.bind fun _ _ middle otherMiddle _ middles => ?_
      exact ih middles fun later member => each later (List.mem_cons_of_mem _ member)

end EndsAlike

/-- What follows a part that completes is done in the state that it leaves. -/
theorem Completes.outcome_bind {part : ExceptT ε (StateM σ) γ}
    {next : γ → ExceptT ε (StateM σ) β} {before middle : σ} {result : γ}
    (completes : Completes part before result middle) :
    outcome (part >>= next) before = outcome (next result) middle := by
  rw [SignalFlow.outcome_bind, completes]

end SignalFlow
