import SignalFlow.Compiled.Order
import Mathlib.Data.Fintype.Card
import Mathlib.Data.Fintype.EquivFin
import Mathlib.Data.List.Sort
import Mathlib.Logic.Relation
import Mathlib.Order.WellFounded

/-! # Properties of the evaluation order

The order of the candidates splits into a part in which drivers come first and a part that never
gets ready (`IsSplit`): no handle of the first part has a driver in the second, and each handle of
the second part does. As there are only finitely many handles, a walk back over drivers within the
second part ends in a cycle (`exists_cycle_of_blocked`); without cycles the second part is empty.
-/

namespace SignalFlow

open Relation

/-- No driver of a listed handle stands at the place of the handle or later. -/
def DriversFirst (drivers : Nat → List Nat) : List Nat → Prop
  | [] => True
  | first :: rest => (∀ driver ∈ drivers first, driver ∉ first :: rest) ∧ DriversFirst drivers rest

/-- A list of pending handles ordered in two parts: handles that got ready one after the other, and
handles that wait for each other. -/
structure IsSplit (drivers : Nat → List Nat) (pending ready blocked : List Nat) : Prop where
  perm : (ready ++ blocked).Perm pending
  driversFirst : DriversFirst drivers ready
  independent : ∀ handle ∈ ready, ∀ driver ∈ drivers handle, driver ∉ blocked
  waiting : ∀ handle ∈ blocked, ∃ driver ∈ drivers handle, driver ∈ blocked

variable {drivers : Nat → List Nat}

theorem isReady_iff {pending : List Nat} {handle : Nat} :
    isReady drivers pending handle = true ↔ ∀ driver ∈ drivers handle, driver ∉ pending := by
  simp [isReady]

/-- Where nothing is ready, everything waits. -/
theorem IsSplit.of_find?_eq_none {pending : List Nat}
    (found : pending.find? (isReady drivers pending) = none) :
    IsSplit drivers pending [] pending := by
  refine ⟨.refl _, trivial, by simp, ?_⟩
  intro handle member
  have notReady := List.find?_eq_none.mp found handle member
  rw [isReady_iff] at notReady
  push Not at notReady
  exact notReady

/-- What is put in front once it is ready extends the first part. -/
theorem IsSplit.cons {pending ready blocked : List Nat} {handle : Nat} (member : handle ∈ pending)
    (free : ∀ driver ∈ drivers handle, driver ∉ pending)
    (split : IsSplit drivers (pending.erase handle) ready blocked) :
    IsSplit drivers pending (handle :: ready) blocked := by
  have perm : (handle :: ready ++ blocked).Perm pending :=
    (split.perm.cons handle).trans (List.perm_cons_erase member).symm
  refine ⟨perm, ⟨?_, split.driversFirst⟩, ?_, split.waiting⟩
  · intro driver drives inside
    exact free driver drives (perm.subset (List.mem_append_left _ inside))
  · intro other inside driver drives isBlocked
    rcases List.mem_cons.mp inside with rfl | later
    · exact free driver drives (perm.subset (List.mem_append_right _ isBlocked))
    · exact split.independent other later driver drives isBlocked

theorem orderPending_of_find?_eq_none {pending : List Nat}
    (found : pending.find? (isReady drivers pending) = none) :
    orderPending drivers pending = pending := by
  rw [orderPending, found]

theorem orderPending_of_find?_eq_some {pending : List Nat} {handle : Nat}
    (found : pending.find? (isReady drivers pending) = some handle) :
    orderPending drivers pending = handle :: orderPending drivers (pending.erase handle) := by
  rw [orderPending, found]

/-- Taking ready handles as long as there are some splits the pending ones. -/
theorem exists_split_orderPending (drivers : Nat → List Nat) (pending : List Nat) :
    ∃ ready blocked, orderPending drivers pending = ready ++ blocked ∧
      IsSplit drivers pending ready blocked := by
  induction pending using orderPending.induct drivers with
  | case1 pending found =>
      exact ⟨[], pending, orderPending_of_find?_eq_none found, .of_find?_eq_none found⟩
  | case2 pending handle found ih =>
      obtain ⟨ready, blocked, order, split⟩ := ih
      have isReady := isReady_iff.mp (List.find?_some found)
      refine ⟨handle :: ready, blocked, ?_, split.cons (List.mem_of_find?_eq_some found) isReady⟩
      rw [orderPending_of_find?_eq_some found, order, List.cons_append]

/-- Nothing is erased from a list without repetitions. -/
theorem eraseDups_of_nodup {β : Type} [BEq β] [LawfulBEq β] {items : List β}
    (nodup : items.Nodup) : items.eraseDups = items := by
  induction items with
  | nil => rfl
  | cons item rest ih =>
      obtain ⟨absent, nodup⟩ := List.nodup_cons.mp nodup
      have kept : rest.filter (fun other => !other == item) = rest := by
        apply List.filter_eq_self.mpr
        intro other member
        have different : other ≠ item := fun same => absent (same ▸ member)
        simpa using different
      rw [List.eraseDups_cons, kept, ih nodup]

theorem nodup_eraseDups {β : Type} [BEq β] [LawfulBEq β] (items : List β) :
    items.eraseDups.Nodup := by
  induction size : items.length using Nat.strong_induction_on generalizing items with
  | _ count ih =>
    cases items with
    | nil => simp
    | cons first rest =>
        have shorter : (rest.filter fun item => !item == first).length < count := by
          have bound := List.length_filter_le (fun item => !item == first) rest
          rw [List.length_cons] at size
          omega
        rw [List.eraseDups_cons, List.nodup_cons]
        refine ⟨?_, ih _ shorter _ rfl⟩
        simp

/-- Numbers that are taken once each and put in order ascend. -/
theorem pairwise_lt_mergeSort_eraseDups (numbers : List Nat) :
    (numbers.eraseDups.mergeSort (· ≤ ·)).Pairwise (· < ·) := by
  have sorted : (numbers.eraseDups.mergeSort (· ≤ ·)).Pairwise (· ≤ ·) :=
    List.pairwise_mergeSort' _ _
  have distinct : (numbers.eraseDups.mergeSort (· ≤ ·)).Nodup :=
    (List.mergeSort_perm _ _).nodup_iff.mpr (nodup_eraseDups numbers)
  refine (sorted.and distinct).imp fun both => ?_
  exact Nat.lt_of_le_of_ne both.1 both.2

/-- The order of the candidates splits, whichever way they are given. -/
theorem exists_split_stableOrder (drivers : Nat → List Nat) {candidates : List Nat}
    (nodup : candidates.Nodup) :
    ∃ ready blocked, stableOrder drivers candidates = ready ++ blocked ∧
      IsSplit drivers candidates ready blocked := by
  obtain ⟨ready, blocked, order, split⟩ :=
    exists_split_orderPending drivers (candidates.eraseDups.mergeSort (· ≤ ·))
  have sorted : (candidates.eraseDups.mergeSort (· ≤ ·)).Perm candidates := by
    refine (List.mergeSort_perm _ _).trans ?_
    rw [eraseDups_of_nodup nodup]
  exact ⟨ready, blocked, order, split.perm.trans sorted, split.driversFirst, split.independent,
    split.waiting⟩

/-- The order of candidates without repetitions holds each of them once. -/
theorem stableOrder_perm {candidates : List Nat} (nodup : candidates.Nodup) :
    (stableOrder drivers candidates).Perm candidates := by
  obtain ⟨ready, blocked, order, split⟩ := exists_split_stableOrder drivers nodup
  rw [order]
  exact split.perm

/-! ## Cycles -/

/-- Where each handle of a list has a successor in the list, a walk from any of them runs into a
cycle. -/
theorem exists_cycle_of_blocked (step : Nat → Nat → Prop) {blocked : List Nat}
    (waiting : ∀ handle ∈ blocked, ∃ next ∈ blocked, step handle next) {handle : Nat}
    (member : handle ∈ blocked) :
    ∃ origin, ReflTransGen step handle origin ∧ TransGen step origin origin := by
  by_contra absent
  push Not at absent
  let Reached := { origin : Nat // origin ∈ blocked ∧ ReflTransGen step handle origin }
  have finite : Finite Reached := by
    refine Finite.of_injective (β := blocked.toFinset)
      (fun origin => ⟨origin.1, List.mem_toFinset.mpr origin.2.1⟩) ?_
    intro first second same
    exact Subtype.ext (Subtype.mk.inj same)
  -- The walk goes on from every place, but without cycles it must come to an end.
  let after (next origin : Reached) : Prop := TransGen step origin.1 next.1
  have : IsTrans Reached after := ⟨fun _ _ _ first second => second.trans first⟩
  have : Std.Irrefl after := ⟨fun origin cycle => absent origin.1 origin.2.2 cycle⟩
  obtain ⟨last, -, minimal⟩ :=
    (Finite.wellFounded_of_trans_of_irrefl after).has_min Set.univ ⟨⟨handle, member, .refl⟩, trivial⟩
  obtain ⟨next, inside, stepped⟩ := waiting last.1 last.2.1
  exact minimal ⟨next, inside, last.2.2.tail stepped⟩ trivial (.single stepped)

/-- One candidate depends on another: the other drives it. -/
def DependsAmong (drivers : Nat → List Nat) (candidates : List Nat) (first second : Nat) : Prop :=
  first ∈ candidates ∧ second ∈ candidates ∧ second ∈ drivers first

/-- Without cycles among the candidates nothing is left waiting, and drivers come first. -/
theorem driversFirst_stableOrder {candidates : List Nat} (nodup : candidates.Nodup)
    (acyclic : ∀ handle, ¬ TransGen (DependsAmong drivers candidates) handle handle) :
    DriversFirst drivers (stableOrder drivers candidates) := by
  obtain ⟨ready, blocked, order, split⟩ := exists_split_stableOrder drivers nodup
  have inside : ∀ handle ∈ blocked, handle ∈ candidates := fun handle member =>
    split.perm.subset (List.mem_append_right _ member)
  have waiting : ∀ handle ∈ blocked, ∃ next ∈ blocked, DependsAmong drivers candidates handle next := by
    intro handle member
    obtain ⟨driver, drives, isBlocked⟩ := split.waiting handle member
    exact ⟨driver, isBlocked, inside handle member, inside driver isBlocked, drives⟩
  cases blocked with
  | nil =>
      rw [order, List.append_nil]
      exact split.driversFirst
  | cons handle rest =>
      obtain ⟨origin, -, cycle⟩ :=
        exists_cycle_of_blocked (DependsAmong drivers candidates) waiting List.mem_cons_self
      exact absurd cycle (acyclic origin)

/-! ## A candidate that drives nothing -/

/-- Candidates in ascending order are taken as they are given. -/
theorem stableOrder_of_pairwise {candidates : List Nat} (ascending : candidates.Pairwise (· < ·)) :
    stableOrder drivers candidates = orderPending drivers candidates := by
  have nodup : candidates.Nodup := ascending.imp Nat.ne_of_lt
  have sorted : candidates.Pairwise (fun first second => decide (first ≤ second) = true) :=
    ascending.imp fun less => decide_eq_true (Nat.le_of_lt less)
  rw [stableOrder, eraseDups_of_nodup nodup, List.mergeSort_of_pairwise sorted]

theorem find?_eq_of_mem {handles : List Nat} {test otherTest : Nat → Bool}
    (same : ∀ handle ∈ handles, otherTest handle = test handle) :
    handles.find? otherTest = handles.find? test := by
  induction handles with
  | nil => rfl
  | cons handle rest ih =>
      have first := same handle List.mem_cons_self
      have others := ih fun other member => same other (List.mem_cons_of_mem _ member)
      rw [List.find?_cons, List.find?_cons, first, others]

/-- The order depends on the drivers of the candidates only. -/
theorem orderPending_congr {others : Nat → List Nat} {pending : List Nat}
    (same : ∀ handle ∈ pending, others handle = drivers handle) :
    orderPending others pending = orderPending drivers pending := by
  have firstReady {pending : List Nat} (same : ∀ handle ∈ pending, others handle = drivers handle) :
      pending.find? (isReady others pending) = pending.find? (isReady drivers pending) := by
    apply find?_eq_of_mem
    intro handle member
    rw [isReady, same handle member, isReady]
  induction pending using orderPending.induct drivers with
  | case1 pending found =>
      rw [orderPending_of_find?_eq_none found,
        orderPending_of_find?_eq_none ((firstReady same).trans found)]
  | case2 pending handle found ih =>
      have rest := ih fun other member => same other (List.mem_of_mem_erase member)
      rw [orderPending_of_find?_eq_some found,
        orderPending_of_find?_eq_some ((firstReady same).trans found), rest]

section LastCandidate

variable {last : Nat}

theorem isReady_append_iff {pending : List Nat} {handle : Nat} (unread : last ∉ drivers handle) :
    isReady drivers (pending ++ [last]) handle = isReady drivers pending handle := by
  rw [Bool.eq_iff_iff, isReady_iff, isReady_iff]
  refine forall₂_congr fun driver drives => ?_
  have different : driver ≠ last := fun same => unread (same ▸ drives)
  simp [different]

theorem filter_ne_of_not_mem {handles : List Nat} (absent : last ∉ handles) :
    handles.filter (· ≠ last) = handles := by
  apply List.filter_eq_self.mpr
  intro handle member
  have different : handle ≠ last := fun same => absent (same ▸ member)
  simpa using different

/-- A last candidate that drives none of the others does not change their order. -/
theorem filter_orderPending_append {pending : List Nat} (isNew : last ∉ pending)
    (silent : ∀ handle ∈ pending, last ∉ drivers handle) :
    (orderPending drivers (pending ++ [last])).filter (· ≠ last) = orderPending drivers pending := by
  have firstReady {pending : List Nat} (silent : ∀ handle ∈ pending, last ∉ drivers handle) :
      pending.find? (isReady drivers (pending ++ [last])) =
        pending.find? (isReady drivers pending) :=
    find?_eq_of_mem fun handle member => isReady_append_iff (silent handle member)
  induction pending using orderPending.induct drivers with
  | case1 pending found =>
      have ended : orderPending drivers pending = pending := orderPending_of_find?_eq_none found
      rw [ended, orderPending, List.find?_append, firstReady silent, found]
      -- Only the last candidate may be ready; whether it is or not, the others stay as they are.
      cases lastReady : isReady drivers (pending ++ [last]) last with
      | false =>
          have noneReady : [last].find? (isReady drivers (pending ++ [last])) = none := by
            simp [lastReady]
          rw [noneReady]
          simpa using filter_ne_of_not_mem isNew
      | true =>
          have onlyReady : [last].find? (isReady drivers (pending ++ [last])) = some last := by
            simp [lastReady]
          have erased : (pending ++ [last]).erase last = pending := by
            rw [List.erase_append_right _ isNew]
            simp
          rw [onlyReady]
          simp only [Option.none_or, erased, ended]
          simpa using filter_ne_of_not_mem isNew
  | case2 pending handle found ih =>
      have member := List.mem_of_find?_eq_some found
      have different : handle ≠ last := fun same => isNew (same ▸ member)
      have erased : (pending ++ [last]).erase handle = pending.erase handle ++ [last] :=
        List.erase_append_left _ member
      have rest := ih (fun inside => isNew (List.mem_of_mem_erase inside)) fun other inside =>
        silent other (List.mem_of_mem_erase inside)
      have first :
          (pending ++ [last]).find? (isReady drivers (pending ++ [last])) = some handle := by
        rw [List.find?_append, firstReady silent, found, Option.some_or]
      rw [orderPending_of_find?_eq_some first, orderPending_of_find?_eq_some found, erased,
        List.filter_cons_of_pos (by simpa using different), rest]

end LastCandidate

end SignalFlow
