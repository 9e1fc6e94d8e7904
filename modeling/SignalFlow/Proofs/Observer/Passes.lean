import SignalFlow.Proofs.Alike
import SignalFlow.Proofs.Observer.Extension
import SignalFlow.Proofs.Observer.Restriction
import SignalFlow.Proofs.Resolution.FixedPoint

/-! # Passes with a further block

A visit of one of the blocks before does to the restricted state what it does to the state, and a
visit of the further block does nothing to it; so passes restrict to passes. With the further block
there may be progress where there is none without it, but never the other way round, so it can only
add passes. Those come after a pass without progress of the blocks before, and change none of them.
-/

namespace SignalFlow

variable {α : Type} [Scalar α]

/-! ## Visits -/

section Visits

variable {compiled : Compiled α} {node : Node α} {state : RunState α}
  (drivers : ∀ driver ∈ node.driverHandles, driver < compiled.nodes.size)
include drivers

omit [Scalar α] in
theorem Node.isFed_restrict : node.isFed (state.restrict compiled) = node.isFed state := by
  rw [Bool.eq_iff_iff, isFed_iff, isFed_iff]
  refine forall₂_congr fun driver drives => ?_
  rw [RunState.isSettled_restrict (drivers driver drives)]

variable (inside : node.handle < compiled.nodes.size)
include inside

theorem Node.value_restrict : node.value (state.restrict compiled) = node.value state := by
  rw [value, RunState.inputs_restrict drivers, RunState.memory_restrict inside, value]

theorem Node.progresses_restrict :
    node.progresses (state.restrict compiled) = node.progresses state := by
  rw [progresses, isFed_restrict drivers, value_restrict drivers inside,
    RunState.isSettled_restrict inside, RunState.outputOf_restrict inside, progresses]

theorem RunState.restrict_visited :
    (state.visited node).restrict compiled = (state.restrict compiled).visited node := by
  rw [visited, visited, Node.progresses_restrict drivers inside]
  split
  · rw [restrict_settle inside, Node.value_restrict drivers inside]
  · rfl

end Visits

namespace Compiled.Extends

variable {compiled other : Compiled α} {observer : Node α}
  (extension : compiled.Extends other observer)
include extension

theorem restrict_advance {handle : Nat} (different : handle ≠ compiled.nodes.size)
    (state : RunState α) :
    (other.advance state handle).restrict compiled =
      compiled.advance (state.restrict compiled) handle := by
  unfold advance
  rw [extension.getElem?_of_ne different]
  cases found : compiled.nodes[handle]? with
  | none => rfl
  | some node =>
      obtain rfl := extension.wellFormed.handle_eq found
      have inside : node.handle < compiled.nodes.size := (Array.getElem?_eq_some_iff.mp found).1
      exact RunState.restrict_visited (fun _ => extension.wellFormed.driver_lt found) inside

/-- A visit of the further block does not show in the blocks before. -/
theorem restrict_advance_observer (state : RunState α) :
    (other.advance state compiled.nodes.size).restrict compiled = state.restrict compiled := by
  rw [advance_of_getElem? extension.getElem?_observer, RunState.visited]
  split
  · exact RunState.restrict_settle_of_le (Nat.le_of_eq extension.handle_observer.symm) _
  · rfl

theorem restrict_seed {handle : Nat} (different : handle ≠ compiled.nodes.size)
    (state : RunState α) :
    (other.seed state handle).restrict compiled =
      compiled.seed (state.restrict compiled) handle := by
  unfold seed
  rw [extension.getElem?_of_ne different]
  cases found : compiled.nodes[handle]? with
  | none => rfl
  | some node =>
      obtain rfl := extension.wellFormed.handle_eq found
      have inside : node.handle < compiled.nodes.size := (Array.getElem?_eq_some_iff.mp found).1
      dsimp only
      split
      · exact RunState.restrict_settle inside _
      · rfl

theorem restrict_seed_observer (state : RunState α) :
    (other.seed state compiled.nodes.size).restrict compiled = state.restrict compiled := by
  rw [seed, extension.getElem?_observer]
  dsimp only
  split
  · exact RunState.restrict_settle_of_le (Nat.le_of_eq extension.handle_observer.symm) _
  · rfl

/-! ## Passes -/

theorem restrict_seeded (state : RunState α) :
    (other.seeded state).restrict compiled = compiled.seeded (state.restrict compiled) := by
  rw [seeded, seeded, ← extension.filter_algebraicOrder]
  exact RunState.restrict_foldl (fun _ different => extension.restrict_seed different)
    extension.restrict_seed_observer other.algebraicOrder state

theorem restrict_passed (state : RunState α) :
    (other.passed state).restrict compiled = compiled.passed (state.restrict compiled) := by
  rw [passed, passed, ← extension.filter_algebraicOrder]
  exact RunState.restrict_foldl (fun _ different => extension.restrict_advance different)
    extension.restrict_advance_observer other.algebraicOrder state

theorem restrict_iterate_passed (count : Nat) (state : RunState α) :
    (other.passed^[count] state).restrict compiled =
      compiled.passed^[count] (state.restrict compiled) := by
  induction count generalizing state with
  | zero => rfl
  | succ count ih =>
      rw [Function.iterate_succ_apply, ih, extension.restrict_passed, Function.iterate_succ_apply]

/-- Progress among the blocks before is progress with the further block as well. -/
theorem progressOver_of_restrict (order : List Nat) (state : RunState α)
    (progress : compiled.progressOver (order.filter (· ≠ compiled.nodes.size))
      (state.restrict compiled) = true) : other.progressOver order state = true := by
  -- The two sweeps stay side by side: the further block makes a visit that the other does not have.
  induction order generalizing state with
  | nil => exact progress
  | cons handle rest ih =>
      rw [progressOver, Bool.or_eq_true]
      by_cases isLast : handle = compiled.nodes.size
      · subst isLast
        rw [List.filter_cons_of_neg (by simp), ← extension.restrict_advance_observer] at progress
        exact .inr (ih _ progress)
      · rw [List.filter_cons_of_pos (by simpa using isLast), progressOver, Bool.or_eq_true,
          ← extension.restrict_advance isLast] at progress
        refine progress.imp ?_ (ih _)
        rw [extension.getElem?_of_ne isLast]
        intro first
        cases found : compiled.nodes[handle]? with
        | none =>
            rw [found] at first
            exact first
        | some node =>
            obtain rfl := extension.wellFormed.handle_eq found
            have inside := (Array.getElem?_eq_some_iff.mp found).1
            rw [found, Option.any_some, Node.progresses_restrict
              (fun _ => extension.wellFormed.driver_lt found) inside] at first
            exact first

theorem hasProgress_of_restrict {state : RunState α}
    (progress : compiled.hasProgress (state.restrict compiled) = true) :
    other.hasProgress state = true := by
  rw [hasProgress, ← extension.filter_algebraicOrder] at progress
  exact extension.progressOver_of_restrict _ _ progress

/-! ## Resolving -/

omit extension in
theorem iterate_passed_of_not_hasProgress {count later : Nat} (after : count ≤ later)
    {state : RunState α} (still : compiled.hasProgress (compiled.passed^[count] state) = false) :
    compiled.passed^[later] state = compiled.passed^[count] state := by
  obtain ⟨extra, rfl⟩ := Nat.exists_eq_add_of_le' after
  rw [Function.iterate_add_apply]
  exact Function.iterate_fixed (passed_of_not_hasProgress still) extra

omit extension in
/-- Resolving makes passes until one is without progress or the limit is reached. -/
theorem exists_passes_of_resolve (wellFormed : compiled.WellFormed) (limit : Nat)
    (state : RunState α) :
    ∃ count ≤ limit,
      (∀ earlier < count,
        compiled.hasProgress (compiled.passed^[earlier] (compiled.seeded state)) = true) ∧
      (count = limit ∨
        compiled.hasProgress (compiled.passed^[count] (compiled.seeded state)) = false) ∧
      ∃ resolution, Completes (compiled.resolve limit) state resolution
        (compiled.passed^[count] (compiled.seeded state)) := by
  rcases completes_resolve wellFormed limit state with
    ⟨count, passes, bound, moving, still, resolves⟩ | ⟨moving, resolves⟩
  · exact ⟨count, bound.2, moving, .inr still, _, resolves⟩
  · exact ⟨limit, Nat.le_refl limit, moving, .inl rfl, _, resolves⟩

/-- Resolving leaves the blocks before as it does without the further block. -/
theorem endsAlike_resolve (limit : Nat) (state : RunState α) :
    EndsAlike compiled.Beside (fun _ _ => True)
      (outcome (compiled.resolve limit) (state.restrict compiled))
      (outcome (other.resolve limit) state) := by
  obtain ⟨count, within, moving, stops, resolution, resolves⟩ :=
    exists_passes_of_resolve extension.wellFormed limit (state.restrict compiled)
  obtain ⟨otherCount, otherWithin, -, otherStops, otherResolution, otherResolves⟩ :=
    exists_passes_of_resolve extension.otherWellFormed limit state
  have restricted (passes : Nat) : (other.passed^[passes] (other.seeded state)).restrict compiled =
      compiled.passed^[passes] (compiled.seeded (state.restrict compiled)) := by
    rw [extension.restrict_iterate_passed, extension.restrict_seeded]
  -- The passes with the further block do not stop as long as there is progress without it.
  have notFewer : count ≤ otherCount := by
    by_contra fewer
    rcases otherStops with atLimit | still
    · omega
    · have progress := moving otherCount (by omega)
      rw [← restricted] at progress
      rw [extension.hasProgress_of_restrict progress] at still
      cases still
  -- If there are more of them, the others have stopped as nothing changes any more.
  have same : compiled.passed^[otherCount] (compiled.seeded (state.restrict compiled)) =
      compiled.passed^[count] (compiled.seeded (state.restrict compiled)) := by
    rcases stops with atLimit | still
    · rw [show otherCount = count by omega]
    · exact iterate_passed_of_not_hasProgress notFewer still
  rw [resolves, otherResolves]
  exact .completes trivial ((restricted otherCount).trans same)

end Compiled.Extends

end SignalFlow
