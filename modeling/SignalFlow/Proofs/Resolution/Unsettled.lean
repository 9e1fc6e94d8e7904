import SignalFlow.Proofs.Resolution.FixedPoint

/-! # What a resolution leaves unsettled

All that happens to a tick up to the end of its resolution is that outputs are settled, so a block
that is still unsettled then has never been given an output and reads zero. Which blocks these are
has been decided by the first pass.
-/

namespace SignalFlow

variable {α : Type} [Scalar α]

/-- Blocks that are not settled read zero. -/
def RunState.RestsAtZero (state : RunState α) : Prop :=
  ∀ handle, state.isSettled handle = false → state.outputOf handle = 0.0

namespace Compiled

variable {compiled : Compiled α} (wellFormed : compiled.WellFormed) {state : RunState α}

/-! ## The invariant -/

section RestsAtZero

include wellFormed

/-- A visit settles what it changes. -/
theorem restsAtZero_advance (fits : state.Fits compiled) (rests : state.RestsAtZero) (handle : Nat) :
    (compiled.advance state handle).RestsAtZero := by
  intro other unsettled
  by_cases same : other = handle
  · subst same
    cases found : compiled.nodes[other]? with
    | none =>
        rw [advance, found] at unsettled ⊢
        exact rests other unsettled
    | some node =>
        rw [isSettled_advance_self wellFormed found fits, Bool.or_eq_false_iff] at unsettled
        rw [advance_of_getElem? found, RunState.visited, Node.progresses, unsettled.2]
        exact rests other unsettled.1
  · obtain ⟨mark, output⟩ := advance_of_ne wellFormed same state
    rw [mark] at unsettled
    rw [output]
    exact rests other unsettled

theorem restsAtZero_sweep {handles : List Nat}
    (algebraic : ∀ handle ∈ handles, compiled.IsAlgebraic handle) (fits : state.Fits compiled)
    (rests : state.RestsAtZero) : (compiled.sweep handles state).RestsAtZero := by
  induction handles generalizing state with
  | nil => exact rests
  | cons handle rest ih =>
      have revision := isRevision_advance wellFormed (algebraic handle List.mem_cons_self) state
      rw [sweep_cons]
      apply ih
      · exact fun other member => algebraic other (List.mem_cons_of_mem _ member)
      · exact revision.fits fits
      · exact restsAtZero_advance wellFormed fits rests handle

theorem restsAtZero_iterate_passed (fits : state.Fits compiled) (rests : state.RestsAtZero)
    (count : Nat) : (compiled.passed^[count] state).RestsAtZero := by
  induction count with
  | zero => exact rests
  | succ count ih =>
      rw [Function.iterate_succ_apply']
      apply restsAtZero_sweep wellFormed _ _ ih
      · exact fun _ member => wellFormed.mem_algebraicOrder.mp member
      · exact (isRevision_iterate_passed wellFormed count state).fits fits

theorem restsAtZero_seeded (fits : state.Fits compiled) (rests : state.RestsAtZero) :
    (compiled.seeded state).RestsAtZero := by
  intro handle unsettled
  by_cases mirror : compiled.IsMirror handle
  · exact (seeded_of_isMirror wellFormed mirror fits).2
  · obtain ⟨mark, output⟩ := seeded_of_not_isMirror wellFormed mirror state
    rw [mark] at unsettled
    rw [output]
    exact rests handle unsettled

theorem restsAtZero_opened {given : List (String × α)} {opened : RunState α}
    (fits : state.Fits compiled)
    (opens : Completes (compiled.outputPhase given) state.clear () opened) :
    opened.RestsAtZero := by
  have evaluated := (completes_outputPhase_iff wellFormed fits.clear).mp opens
  intro handle unsettled
  have notListed : handle ∉ compiled.outputOrder := by
    intro listed
    rw [evaluated.isSettled listed] at unsettled
    cases unsettled
  rw [(evaluated.kept notListed).1, RunState.outputOf_clear]

end RestsAtZero

/-! ## The state in which sinks are read -/

/-- A tick up to the end of its resolution: the output phase opens it, and then the mirrors are
seeded and passes are made. The last one, or one more, was no progress if it converged. -/
structure Settles (compiled : Compiled α) (given : List (String × α)) (start opened : RunState α)
    (count : Nat) (resolution : Resolution) (final : RunState α) : Prop where
  opens : Completes (compiled.outputPhase given) start.clear () opened
  final_eq : final = compiled.passed^[count + 1] (compiled.seeded opened)
  still : resolution.converged = true → compiled.hasProgress final = false

/-- A tick with room for a pass settles by one pass or more. -/
theorem exists_settles (wellFormed : compiled.WellFormed) {limit : Nat} (room : 0 < limit)
    {given : List (String × α)} {start final : RunState α} {resolution : Resolution}
    (settles : Completes (compiled.settlePhase limit given) start resolution final) :
    ∃ opened count, compiled.Settles given start opened count resolution final := by
  simp only [settlePhase, completes_bind, completes_modify] at settles
  obtain ⟨_, _, rfl, _, opened, opens, resolves⟩ := settles
  rcases completes_resolve wellFormed limit opened with
    ⟨count, passes, -, -, still, ends⟩ | ⟨-, ends⟩
  · obtain ⟨-, rfl⟩ := resolves.unique ends
    refine ⟨opened, count, opens, ?_, fun _ => still⟩
    rw [Function.iterate_succ_apply', passed_of_not_hasProgress still]
  · obtain ⟨rfl, rfl⟩ := resolves.unique ends
    refine ⟨opened, limit - 1, opens, ?_, fun converged => ?_⟩
    · rw [Nat.sub_add_cancel room]
    · cases converged

/-- Resolving never breaks off, so a tick that opens settles. -/
theorem exists_completes_settlePhase (wellFormed : compiled.WellFormed) (limit : Nat)
    {given : List (String × α)} {start opened : RunState α}
    (opens : Completes (compiled.outputPhase given) start.clear () opened) :
    ∃ resolution final, Completes (compiled.settlePhase limit given) start resolution final := by
  simp only [settlePhase, completes_bind, completes_modify]
  rcases completes_resolve wellFormed limit opened with
    ⟨_, _, -, -, -, ends⟩ | ⟨-, ends⟩
  · exact ⟨_, _, (), _, rfl, (), opened, opens, ends⟩
  · exact ⟨_, _, (), _, rfl, (), opened, opens, ends⟩

namespace Settles

variable {given : List (String × α)} {start opened final : RunState α} {count : Nat}
  {resolution : Resolution} (settles : compiled.Settles given start opened count resolution final)
include wellFormed settles

theorem isRevision : compiled.IsRevision opened final := by
  have passes := isRevision_iterate_passed wellFormed (count + 1) (compiled.seeded opened)
  rw [settles.final_eq]
  exact (isRevision_seeded wellFormed opened).trans passes

variable (fits : start.Fits compiled)
include fits

theorem fits_opened : opened.Fits compiled :=
  ((completes_outputPhase_iff wellFormed fits.clear).mp settles.opens).fits

theorem fits_final : final.Fits compiled :=
  (settles.isRevision wellFormed).fits (settles.fits_opened wellFormed fits)

theorem isSettled_iff {handle : Nat} :
    final.isSettled handle = true ↔ compiled.CanSettle handle := by
  have opened_iff (other : Nat) : opened.isSettled other = true ↔ other ∈ compiled.outputOrder :=
    isSettled_opened_iff wellFormed fits settles.opens
  rw [settles.final_eq]
  exact isSettled_iterate_passed_iff wellFormed (settles.fits_opened wellFormed fits) opened_iff count

theorem restsAtZero : final.RestsAtZero := by
  have openedFits := settles.fits_opened wellFormed fits
  have seededFits := (isRevision_seeded wellFormed opened).fits openedFits
  have opened := restsAtZero_opened wellFormed fits settles.opens
  rw [settles.final_eq]
  exact restsAtZero_iterate_passed wellFormed seededFits
    (restsAtZero_seeded wellFormed openedFits opened) (count + 1)

end Settles

end Compiled

end SignalFlow
