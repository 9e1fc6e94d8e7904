import SignalFlow.Proofs.Resolution.Pass

/-! # Revisions

All that resolving does to a state is to revise it (`Compiled.IsRevision`): persistent states and
time stay as they are, and so do the outputs and marks of blocks that are not algebraic; a mark once
set stays. Before the first pass the mirrors are settled at zero (`Compiled.seeded`).
-/

namespace SignalFlow

variable {α : Type} [Scalar α]

namespace Compiled

/-- A state differs from another one in outputs of algebraic blocks and in further marks of them. -/
structure IsRevision (compiled : Compiled α) (before after : RunState α) : Prop where
  memories_eq : after.memories = before.memories
  time_eq : after.time = before.time
  tick_eq : after.tick = before.tick
  outputs_size : after.outputs.size = before.outputs.size
  settled_size : after.settled.size = before.settled.size
  outputOf_eq {handle : Nat} :
    ¬ compiled.IsAlgebraic handle → after.outputOf handle = before.outputOf handle
  isSettled_eq {handle : Nat} :
    ¬ compiled.IsAlgebraic handle → after.isSettled handle = before.isSettled handle
  isSettled_of_isSettled {handle : Nat} :
    before.isSettled handle = true → after.isSettled handle = true

namespace IsRevision

variable {compiled : Compiled α} {before between after : RunState α}

theorem refl (state : RunState α) : compiled.IsRevision state state :=
  ⟨rfl, rfl, rfl, rfl, rfl, fun _ => rfl, fun _ => rfl, fun settled => settled⟩

theorem trans (first : compiled.IsRevision before between)
    (second : compiled.IsRevision between after) : compiled.IsRevision before after where
  memories_eq := second.memories_eq.trans first.memories_eq
  time_eq := second.time_eq.trans first.time_eq
  tick_eq := second.tick_eq.trans first.tick_eq
  outputs_size := second.outputs_size.trans first.outputs_size
  settled_size := second.settled_size.trans first.settled_size
  outputOf_eq other := (second.outputOf_eq other).trans (first.outputOf_eq other)
  isSettled_eq other := (second.isSettled_eq other).trans (first.isSettled_eq other)
  isSettled_of_isSettled settled := second.isSettled_of_isSettled (first.isSettled_of_isSettled settled)

theorem memory_eq (revision : compiled.IsRevision before after) (handle : Nat) :
    after.memory handle = before.memory handle := by
  rw [RunState.memory, RunState.memory, revision.memories_eq]

theorem fits (revision : compiled.IsRevision before after) (fits : before.Fits compiled) :
    after.Fits compiled where
  outputs := revision.outputs_size.trans fits.outputs
  settled := revision.settled_size.trans fits.settled
  memories := by rw [revision.memories_eq, fits.memories]

/-- Settling an algebraic block is a revision. -/
theorem settle {state : RunState α} {handle : Nat} (algebraic : compiled.IsAlgebraic handle)
    (value : α) : compiled.IsRevision state (state.settle handle value) where
  memories_eq := rfl
  time_eq := rfl
  tick_eq := rfl
  outputs_size := by simp [RunState.settle]
  settled_size := by simp [RunState.settle]
  outputOf_eq := by
    intro other notAlgebraic
    have different : other ≠ handle := fun same => notAlgebraic (same ▸ algebraic)
    exact RunState.outputOf_settle_of_ne value different
  isSettled_eq := by
    intro other notAlgebraic
    have different : other ≠ handle := fun same => notAlgebraic (same ▸ algebraic)
    exact RunState.isSettled_settle_of_ne value different
  isSettled_of_isSettled := by
    intro other settled
    by_cases same : other = handle
    · subst same
      apply RunState.isSettled_settle_self
      by_contra outside
      rw [RunState.isSettled_of_size_le (Nat.le_of_not_lt outside)] at settled
      cases settled
    · rw [RunState.isSettled_settle_of_ne value same]
      exact settled

/-- Revisions one after the other are a revision. -/
theorem foldl {change : RunState α → Nat → RunState α} {handles : List Nat}
    (each : ∀ handle ∈ handles, ∀ state, compiled.IsRevision state (change state handle))
    (state : RunState α) : compiled.IsRevision state (handles.foldl change state) := by
  induction handles generalizing state with
  | nil => exact refl state
  | cons handle rest ih =>
      have first := each handle List.mem_cons_self state
      exact first.trans (ih (fun other member => each other (List.mem_cons_of_mem _ member)) _)

end IsRevision

variable {compiled : Compiled α} (wellFormed : compiled.WellFormed)

section Visits

include wellFormed

/-- A visit of an algebraic block is a revision. -/
theorem isRevision_advance {handle : Nat} (algebraic : compiled.IsAlgebraic handle)
    (state : RunState α) : compiled.IsRevision state (compiled.advance state handle) := by
  obtain ⟨node, found, phase⟩ := algebraic
  rw [advance_of_getElem? found, RunState.visited]
  split
  · rw [wellFormed.handle_eq found]
    exact .settle ⟨node, found, phase⟩ _
  · exact .refl state

theorem isRevision_sweep {handles : List Nat}
    (algebraic : ∀ handle ∈ handles, compiled.IsAlgebraic handle) (state : RunState α) :
    compiled.IsRevision state (compiled.sweep handles state) :=
  .foldl (fun handle member => isRevision_advance wellFormed (algebraic handle member)) state

theorem isRevision_passed (state : RunState α) :
    compiled.IsRevision state (compiled.passed state) :=
  isRevision_sweep wellFormed (fun _ member => wellFormed.mem_algebraicOrder.mp member) state

theorem isRevision_iterate_passed (count : Nat) (state : RunState α) :
    compiled.IsRevision state (compiled.passed^[count] state) := by
  induction count generalizing state with
  | zero => exact .refl state
  | succ count ih =>
      rw [Function.iterate_succ_apply]
      exact (isRevision_passed wellFormed state).trans (ih _)

end Visits

/-! ## Seeding -/

/-- Settles the block at a handle at zero if it is a mirror. -/
def seed (compiled : Compiled α) (state : RunState α) (handle : Nat) : RunState α :=
  match compiled.nodes[handle]? with
  | some node => if node.seedsLoop then state.settle node.handle 0.0 else state
  | none => state

/-- The state in which the mirrors are settled at zero. -/
def seeded (compiled : Compiled α) (state : RunState α) : RunState α :=
  compiled.algebraicOrder.foldl compiled.seed state

theorem completes_seedLoop (state : RunState α) :
    Completes compiled.seedLoop state () (compiled.seeded state) := by
  refine completes_forM (fun handle state => ?_) state
  unfold seed
  cases found : compiled.nodes[handle]? with
  | none => exact completes_pure.mpr ⟨rfl, rfl⟩
  | some node =>
      dsimp only
      by_cases seeds : node.seedsLoop = true
      · rw [if_pos seeds, if_pos seeds]
        exact completes_modify.mpr rfl
      · rw [if_neg seeds, if_neg seeds]
        exact completes_pure.mpr ⟨rfl, rfl⟩

section Seeds

include wellFormed

theorem seed_of_isMirror {handle : Nat} (mirror : compiled.IsMirror handle) (state : RunState α) :
    compiled.seed state handle = state.settle handle 0.0 := by
  obtain ⟨node, found, seeds⟩ := mirror
  simp [seed, found, seeds, wellFormed.handle_eq found]

omit wellFormed in
theorem seed_of_not_isMirror {handle : Nat} (notMirror : ¬ compiled.IsMirror handle)
    (state : RunState α) : compiled.seed state handle = state := by
  unfold seed
  split
  · rename_i node found
    have seeds : node.seedsLoop = false := by
      by_contra seeds
      exact notMirror ⟨node, found, by simpa using seeds⟩
    simp [seeds]
  · rfl

theorem isRevision_seed (handle : Nat) (state : RunState α) :
    compiled.IsRevision state (compiled.seed state handle) := by
  by_cases mirror : compiled.IsMirror handle
  · rw [seed_of_isMirror wellFormed mirror]
    exact .settle mirror.isAlgebraic 0.0
  · rw [seed_of_not_isMirror mirror]
    exact .refl state

theorem isRevision_seeded (state : RunState α) :
    compiled.IsRevision state (compiled.seeded state) :=
  .foldl (fun handle _ => isRevision_seed wellFormed handle) state

/-- Seeding settles nothing but mirrors, and changes the output of nothing else. -/
theorem seeded_of_not_isMirror {handle : Nat} (notMirror : ¬ compiled.IsMirror handle)
    (state : RunState α) :
    (compiled.seeded state).isSettled handle = state.isSettled handle ∧
      (compiled.seeded state).outputOf handle = state.outputOf handle := by
  unfold seeded
  induction compiled.algebraicOrder generalizing state with
  | nil => exact ⟨rfl, rfl⟩
  | cons other rest ih =>
      obtain ⟨settled, output⟩ := ih (compiled.seed state other)
      rw [List.foldl_cons, settled, output]
      by_cases mirror : compiled.IsMirror other
      · have different : handle ≠ other := fun same => notMirror (same ▸ mirror)
        rw [seed_of_isMirror wellFormed mirror]
        exact ⟨RunState.isSettled_settle_of_ne _ different,
          RunState.outputOf_settle_of_ne _ different⟩
      · rw [seed_of_not_isMirror mirror]
        exact ⟨rfl, rfl⟩

section Mirror

variable {handle : Nat} (mirror : compiled.IsMirror handle) {state : RunState α}
  (fits : state.Fits compiled)
include mirror fits

theorem seed_self_of_isMirror :
    (compiled.seed state handle).isSettled handle = true ∧
      (compiled.seed state handle).outputOf handle = 0.0 := by
  have inside : handle < compiled.nodes.size := by
    obtain ⟨node, found, -⟩ := mirror
    exact (Array.getElem?_eq_some_iff.mp found).1
  rw [seed_of_isMirror wellFormed mirror]
  exact ⟨RunState.isSettled_settle_self _ (fits.settled ▸ inside),
    RunState.outputOf_settle_self _ (fits.outputs ▸ inside)⟩

/-- A mirror that is settled at zero stays so, as seeding it again gives the same. -/
theorem foldl_seed_of_isMirror (handles : List Nat)
    (zero : state.isSettled handle = true ∧ state.outputOf handle = 0.0) :
    (handles.foldl compiled.seed state).isSettled handle = true ∧
      (handles.foldl compiled.seed state).outputOf handle = 0.0 := by
  induction handles generalizing state with
  | nil => exact zero
  | cons other rest ih =>
      refine ih ((isRevision_seed wellFormed other state).fits fits) ?_
      by_cases same : other = handle
      · rw [same]
        exact seed_self_of_isMirror wellFormed mirror fits
      · by_cases otherMirror : compiled.IsMirror other
        · rw [seed_of_isMirror wellFormed otherMirror,
            RunState.isSettled_settle_of_ne _ (Ne.symm same),
            RunState.outputOf_settle_of_ne _ (Ne.symm same)]
          exact zero
        · rw [seed_of_not_isMirror otherMirror]
          exact zero

/-- Seeding settles each mirror at zero. -/
theorem seeded_of_isMirror :
    (compiled.seeded state).isSettled handle = true ∧
      (compiled.seeded state).outputOf handle = 0.0 := by
  obtain ⟨before, after, order⟩ :=
    List.append_of_mem (wellFormed.mem_algebraicOrder.mpr mirror.isAlgebraic)
  have first : compiled.IsRevision state (before.foldl compiled.seed state) :=
    .foldl (fun other _ => isRevision_seed wellFormed other) state
  have seeded := seed_self_of_isMirror wellFormed mirror (first.fits fits)
  rw [Compiled.seeded, order, List.foldl_append, List.foldl_cons]
  refine foldl_seed_of_isMirror wellFormed mirror ?_ after seeded
  exact (isRevision_seed wellFormed handle _).fits (first.fits fits)

end Mirror

end Seeds

end Compiled

end SignalFlow
