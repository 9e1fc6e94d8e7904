import SignalFlow.Proofs.Dependency
import SignalFlow.Validation.Cycles

/-! # What the search for cycles finds

A search with a stack finds the handles that those on the stack lead to, as long as all of them are
among the handles that it may find (`Cycles.mem_search_iff`), and a search for a goal ends there
exactly if a full one would find it (`Cycles.leadsTo_iff`). So the loops found hold exactly the
blocks from which a walk back over computing blocks returns
(`Compiled.WellFormed.exists_loop_iff`).
-/

namespace SignalFlow

open Relation

namespace Cycles

section Search

variable {next : Nat → List Nat} {found unseen stack : List Nat}

/-- Nothing is lost while a search runs: whatever it may come to is found or can still be found. -/
structure Covers (next : Nat → List Nat) (found unseen stack : List Nat) : Prop where
  waiting : ∀ handle ∈ stack, handle ∈ found ∨ handle ∈ unseen
  led : ∀ handle, ∀ other ∈ next handle, other ∈ found ∨ other ∈ unseen
  pending : ∀ handle ∈ found, ∀ other ∈ next handle, other ∈ found ∨ other ∈ stack

/-- Taking a handle up for the first time keeps all that. -/
theorem Covers.take {handle : Nat} (covers : Covers next found unseen (handle :: stack)) :
    Covers next (handle :: found) (unseen.erase handle) ((next handle).reverse ++ stack) := by
  have moved {other : Nat} (known : other ∈ found ∨ other ∈ unseen) :
      other ∈ handle :: found ∨ other ∈ unseen.erase handle := by
    by_cases same : other = handle
    · exact .inl (same ▸ List.mem_cons_self)
    · exact known.imp (List.mem_cons_of_mem handle) (List.mem_erase_of_ne same).mpr
  constructor
  · intro other member
    rcases List.mem_append.mp member with fed | below
    · exact moved (covers.led handle other (List.mem_reverse.mp fed))
    · exact moved (covers.waiting other (List.mem_cons_of_mem handle below))
  · exact fun origin other leads => moved (covers.led origin other leads)
  · intro origin member other leads
    rcases List.mem_cons.mp member with rfl | old
    · exact .inr (List.mem_append_left stack (List.mem_reverse.mpr leads))
    · rcases covers.pending origin old other leads with known | waiting
      · exact .inl (List.mem_cons_of_mem handle known)
      · rcases List.mem_cons.mp waiting with rfl | below
        · exact .inl List.mem_cons_self
        · exact .inr (List.mem_append_right _ below)

/-- And so does dropping a handle that has been found before. -/
theorem Covers.drop {handle : Nat} (covers : Covers next found unseen (handle :: stack))
    (isOld : handle ∉ unseen) : Covers next found unseen stack := by
  have known : handle ∈ found := (covers.waiting handle List.mem_cons_self).resolve_right isOld
  refine ⟨fun other below => covers.waiting other (List.mem_cons_of_mem handle below), covers.led,
    fun origin member other leads => ?_⟩
  rcases covers.pending origin member other leads with old | waiting
  · exact .inl old
  · rcases List.mem_cons.mp waiting with rfl | below
    · exact .inl known
    · exact .inr below

/-- What has been found stays found. -/
theorem mem_search_of_mem {handle : Nat} (member : handle ∈ found) :
    handle ∈ search next found unseen stack := by
  fun_induction search next found unseen stack with
  | case1 => exact member
  | case2 found unseen first stack isNew ih => exact ih (List.mem_cons_of_mem first member)
  | case3 found unseen first stack isOld ih => exact ih member

/-- A search finds nothing but what is found already or what the stack leads to. -/
theorem exists_walk_of_mem_search {other : Nat} (member : other ∈ search next found unseen stack) :
    other ∈ found ∨ ∃ handle ∈ stack,
      ReflTransGen (fun first second => second ∈ next first) handle other := by
  fun_induction search next found unseen stack with
  | case1 => exact .inl member
  | case2 found unseen first stack isNew ih =>
      rcases ih member with known | ⟨handle, waiting, walk⟩
      · rcases List.mem_cons.mp known with rfl | old
        · exact .inr ⟨other, List.mem_cons_self, .refl⟩
        · exact .inl old
      · rcases List.mem_append.mp waiting with fed | below
        · exact .inr ⟨first, List.mem_cons_self, .head (List.mem_reverse.mp fed) walk⟩
        · exact .inr ⟨handle, List.mem_cons_of_mem first below, walk⟩
  | case3 found unseen first stack isOld ih =>
      rcases ih member with old | ⟨handle, below, walk⟩
      · exact .inl old
      · exact .inr ⟨handle, List.mem_cons_of_mem first below, walk⟩

/-- A search ends with all that was on its stack and all that this leads to. -/
theorem Covers.mem_search (covers : Covers next found unseen stack) :
    (∀ handle ∈ stack, handle ∈ search next found unseen stack) ∧
      ∀ handle ∈ search next found unseen stack, ∀ other ∈ next handle,
        other ∈ search next found unseen stack := by
  fun_induction search next found unseen stack with
  | case1 =>
      refine ⟨by simp, fun handle member other leads => ?_⟩
      exact (covers.pending handle member other leads).resolve_right List.not_mem_nil
  | case2 found unseen first stack isNew ih =>
      obtain ⟨within, closed⟩ := ih covers.take
      refine ⟨fun handle member => ?_, closed⟩
      rcases List.mem_cons.mp member with rfl | below
      · exact mem_search_of_mem List.mem_cons_self
      · exact within handle (List.mem_append_right _ below)
  | case3 found unseen first stack isOld ih =>
      obtain ⟨within, closed⟩ := ih (covers.drop isOld)
      refine ⟨fun handle member => ?_, closed⟩
      rcases List.mem_cons.mp member with rfl | below
      · exact mem_search_of_mem
          ((covers.waiting handle List.mem_cons_self).resolve_right isOld)
      · exact within handle below

/-- Among handles that lead to each other only, a search finds what the stack leads to. -/
theorem mem_search_iff (start : ∀ handle ∈ stack, handle ∈ unseen)
    (bounded : ∀ handle, ∀ other ∈ next handle, other ∈ unseen) {other : Nat} :
    other ∈ search next [] unseen stack ↔
      ∃ handle ∈ stack, ReflTransGen (fun first second => second ∈ next first) handle other := by
  have covers : Covers next [] unseen stack :=
    ⟨fun handle member => .inr (start handle member),
      fun handle other leads => .inr (bounded handle other leads), by simp⟩
  obtain ⟨within, closed⟩ := covers.mem_search
  constructor
  · exact fun member => (exists_walk_of_mem_search member).resolve_left List.not_mem_nil
  · rintro ⟨handle, member, walk⟩
    induction walk with
    | refl => exact within handle member
    | tail _ leads ih => exact closed _ ih _ leads

/-- A search for a goal that has not been found ends there exactly if a full search finds it. -/
theorem leadsTo_iff {goal : Nat} (isNew : goal ∈ unseen) (isOpen : goal ∉ found) :
    leadsTo next goal unseen stack = true ↔ goal ∈ search next found unseen stack := by
  fun_induction search next found unseen stack with
  | case1 => simp [leadsTo, isOpen]
  | case2 found unseen first stack member ih =>
      rw [leadsTo]
      by_cases same : first = goal
      · subst same
        simp [mem_search_of_mem]
      · rw [if_neg (by simpa using same), if_pos member]
        refine ih ((List.mem_erase_of_ne (Ne.symm same)).mpr isNew) fun known => ?_
        exact (List.mem_cons.mp known).elim (Ne.symm same) isOpen
  | case3 found unseen first stack isOld ih =>
      have other : first ≠ goal := fun same => isOld (same ▸ isNew)
      rw [leadsTo, if_neg (by simpa using other), if_neg isOld]
      exact ih isNew isOpen

end Search

end Cycles

namespace Compiled.WellFormed

open Cycles

variable {α : Type} {compiled : Compiled α} [Scalar α] (wellFormed : compiled.WellFormed)
include wellFormed

theorem mem_candidates {handle : Nat} : handle ∈ candidates compiled ↔ compiled.Computes handle :=
  wellFormed.mem_computing

theorem mem_consumers {handle consumer : Nat} :
    consumer ∈ consumers compiled handle ↔ compiled.StepsBack consumer handle := by
  have listed : consumer ∈ consumers compiled handle ↔ consumer ∈ handles compiled.nodes.toList
      fun node => isCandidate node && node.driverHandles.contains handle := by
    simp only [consumers, handles, List.mem_flatMap, List.mem_filter, List.mem_map, beq_iff_eq,
      Bool.and_eq_true, List.contains_iff_mem]
    constructor
    · rintro ⟨node, accepted, driver, ⟨drives, rfl⟩, rfl⟩
      exact ⟨node, ⟨accepted.1, accepted.2, drives⟩, rfl⟩
    · rintro ⟨node, ⟨inside, candidate, drives⟩, rfl⟩
      exact ⟨node, ⟨inside, candidate⟩, handle, ⟨drives, rfl⟩, rfl⟩
  rw [listed, wellFormed.mem_handles]
  constructor
  · rintro ⟨node, found, accepted⟩
    rw [isCandidate, Bool.and_eq_true, Bool.and_eq_true, beq_iff_eq, Bool.not_eq_true',
      List.contains_iff_mem] at accepted
    refine ⟨⟨node, found, accepted.1⟩, ?_⟩
    rw [driversOf_of_getElem? found]
    exact accepted.2
  · rintro ⟨⟨node, found, algebraic, noSeed⟩, drives⟩
    rw [driversOf_of_getElem? found] at drives
    refine ⟨node, found, ?_⟩
    simp [isCandidate, algebraic, noSeed, drives]

/-- A block feeds candidates only. -/
theorem mem_candidates_of_mem_consumers (handle : Nat) :
    ∀ consumer ∈ consumers compiled handle, consumer ∈ candidates compiled :=
  fun _ member => wellFormed.mem_candidates.mpr (wellFormed.mem_consumers.mp member).1

/-- The search from a block reaches the blocks from which a walk back leads to it. -/
theorem mem_reached {start handle : Nat} :
    handle ∈ reached compiled start ↔ TransGen compiled.StepsBack handle start := by
  have steps : (fun first second => second ∈ consumers compiled first) =
      Function.swap compiled.StepsBack := by
    funext first second
    exact propext wellFormed.mem_consumers
  have bounded := wellFormed.mem_candidates_of_mem_consumers
  rw [reached, mem_search_iff (fun other member => bounded start other (List.mem_reverse.mp member))
    bounded, steps]
  simp only [List.mem_reverse]
  constructor
  · rintro ⟨consumer, member, walk⟩
    exact .tail' (reflTransGen_swap.mp walk) (wellFormed.mem_consumers.mp member)
  · intro walk
    obtain ⟨consumer, back, step⟩ := TransGen.tail'_iff.mp walk
    exact ⟨consumer, wellFormed.mem_consumers.mpr step, reflTransGen_swap.mpr back⟩

/-- The search from a block for a candidate ends there if a walk back leads from it to the block. -/
theorem reaches_iff {start goal : Nat} (candidate : goal ∈ candidates compiled) :
    reaches compiled start goal = true ↔ TransGen compiled.StepsBack goal start := by
  rw [← wellFormed.mem_reached, reaches, reached]
  exact leadsTo_iff candidate List.not_mem_nil

theorem mem_loop {start handle : Nat} : handle ∈ loop compiled start ↔
    TransGen compiled.StepsBack handle start ∧ TransGen compiled.StepsBack start handle := by
  have computes {first second : Nat} (walk : TransGen compiled.StepsBack first second) :
      first ∈ candidates compiled := by
    obtain ⟨other, step, -⟩ := TransGen.head'_iff.mp walk
    exact wellFormed.mem_candidates.mpr step.1
  unfold loop
  dsimp only
  by_cases onCycle : start ∈ reached compiled start
  · have back := wellFormed.mem_reached.mp onCycle
    rw [if_pos (List.contains_iff_mem.mpr onCycle), List.mem_filter, Bool.or_eq_true, beq_iff_eq,
      Bool.and_eq_true, List.contains_iff_mem, wellFormed.mem_reached,
      wellFormed.reaches_iff (computes back)]
    constructor
    · rintro ⟨-, rfl | both⟩
      · exact ⟨back, back⟩
      · exact both
    · exact fun both => ⟨computes both.1, .inr both⟩
  · rw [if_neg (mt List.contains_iff_mem.mp onCycle)]
    constructor
    · rintro ⟨⟩
    · rintro ⟨back, forth⟩
      exact absurd (wellFormed.mem_reached.mpr (forth.trans back)) onCycle

/-- Going on with one candidate adds its loop, unless it is on none or in one found before. -/
theorem loopsFrom_cons (found : List (List Nat)) (start : Nat) (rest : List Nat) :
    ∃ more, loopsFrom compiled found (start :: rest) = loopsFrom compiled (found ++ more) rest ∧
      (∀ members ∈ more, members = loop compiled start) ∧
      (TransGen compiled.StepsBack start start → ∃ members ∈ found ++ more, start ∈ members) := by
  by_cases seen : found.any (·.contains start) = true
  · refine ⟨[], ?_, by simp, fun _ => ?_⟩
    · rw [loopsFrom, if_pos seen, List.append_nil]
    · obtain ⟨members, member, contained⟩ := List.any_eq_true.mp seen
      exact ⟨members, List.mem_append_left _ member, List.contains_iff_mem.mp contained⟩
  · cases ended : loop compiled start with
    | nil =>
        refine ⟨[], ?_, by simp, fun onCycle => ?_⟩
        · rw [loopsFrom, if_neg seen, ended, List.append_nil]
        · have member := wellFormed.mem_loop.mpr ⟨onCycle, onCycle⟩
          rw [ended] at member
          cases member
    | cons first others =>
        refine ⟨[first :: others], ?_, by simp, fun onCycle => ?_⟩
        · rw [loopsFrom, if_neg seen, ended]
        · refine ⟨first :: others, by simp, ?_⟩
          rw [← ended, wellFormed.mem_loop]
          exact ⟨onCycle, onCycle⟩

/-- Loops found before are kept, each new one is the loop of a candidate, and each candidate on a
cycle is in one of them. -/
theorem loopsFrom_spec (found : List (List Nat)) (starts : List Nat) :
    (∀ members ∈ found, members ∈ loopsFrom compiled found starts) ∧
    (∀ members ∈ loopsFrom compiled found starts, members ∈ found ∨
      ∃ start ∈ starts, members = loop compiled start) ∧
    (∀ start ∈ starts, TransGen compiled.StepsBack start start →
      ∃ members ∈ loopsFrom compiled found starts, start ∈ members) := by
  -- By induction on the candidates left, for all loops found so far: each candidate adds to them.
  induction starts generalizing found with
  | nil => exact ⟨fun _ member => member, fun _ member => .inl member, by simp⟩
  | cons start rest ih =>
      obtain ⟨more, same, new, covered⟩ := wellFormed.loopsFrom_cons found start rest
      obtain ⟨kept, sound, complete⟩ := ih (found ++ more)
      rw [same]
      refine ⟨fun members member => kept members (List.mem_append_left _ member), ?_, ?_⟩
      · intro members member
        rcases sound members member with old | ⟨origin, listed, isLoop⟩
        · rcases List.mem_append.mp old with older | added
          · exact .inl older
          · exact .inr ⟨start, List.mem_cons_self, new members added⟩
        · exact .inr ⟨origin, List.mem_cons_of_mem _ listed, isLoop⟩
      · intro origin listed onCycle
        rcases List.mem_cons.mp listed with rfl | later
        · obtain ⟨members, member, inside⟩ := covered onCycle
          exact ⟨members, kept members member, inside⟩
        · exact complete origin later onCycle

/-- The loops hold the blocks from which a walk back returns. -/
theorem exists_loop_iff {handle : Nat} :
    (∃ members ∈ loops compiled, handle ∈ members) ↔ TransGen compiled.StepsBack handle handle := by
  obtain ⟨-, sound, complete⟩ := wellFormed.loopsFrom_spec [] (candidates compiled)
  constructor
  · rintro ⟨members, found, member⟩
    rcases sound members found with old | ⟨start, -, rfl⟩
    · cases old
    · obtain ⟨back, forth⟩ := wellFormed.mem_loop.mp member
      exact back.trans forth
  · intro onCycle
    obtain ⟨other, step, -⟩ := TransGen.head'_iff.mp onCycle
    exact complete handle (wellFormed.mem_candidates.mpr step.1) onCycle

end Compiled.WellFormed

end SignalFlow
