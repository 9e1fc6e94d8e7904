import SignalFlow.Compiled.Compile
import SignalFlow.Proofs.EvaluationOrder
import Mathlib.Order.Bounds.Defs

/-! # The stable order

The order of the candidates is determined: in each turn the lowest handle is placed that waits for
no candidate any more (`IsNext`), and what never gets its turn follows in ascending order. A
candidate gets its turn exactly if every walk back from it over drivers among the candidates comes
to an end, that is, if the candidate lies neither on a cycle nor behind one
(`Compiled.exists_isStable_stableOrder`).

An endless walk is the same as a handle that is not accessible along the dependencies. Placed
handles are accessible, since their drivers are placed before them; of the rest none is, since each
has a driver in the rest.
-/

namespace SignalFlow

open Relation

/-- From a candidate a walk back over drivers among the candidates goes on without end. -/
def IsEndless (drivers : Nat → List Nat) (candidates : List Nat) (handle : Nat) : Prop :=
  ∃ walk : Nat → Nat, walk 0 = handle ∧
    ∀ step, DependsAmong drivers candidates (walk step) (walk (step + 1))

/-- A handle is the lowest one of the candidates not yet placed whose drivers among the candidates
are all placed. -/
def IsNext (drivers : Nat → List Nat) (candidates placed : List Nat) (handle : Nat) : Prop :=
  IsLeast {other | other ∈ candidates ∧ other ∉ placed ∧
    ∀ driver ∈ drivers other, driver ∈ candidates → driver ∈ placed} handle

/-- The stable order of some candidates in two parts: the handles that get their turn, and the
rest. -/
structure IsStable (drivers : Nat → List Nat) (candidates placed rest : List Nat) : Prop where
  perm : (placed ++ rest).Perm candidates
  isNext {before after : List Nat} {handle : Nat} :
    placed = before ++ handle :: after → IsNext drivers candidates before handle
  mem_placed_iff {handle : Nat} : handle ∈ candidates →
    (handle ∈ placed ↔ ¬ IsEndless drivers candidates handle)
  isEndless_iff {handle : Nat} : handle ∈ candidates →
    (IsEndless drivers candidates handle ↔
      ∃ origin, ReflTransGen (DependsAmong drivers candidates) handle origin ∧
        TransGen (DependsAmong drivers candidates) origin origin)
  ascending : rest.Pairwise (· < ·)
  waiting : ∀ handle ∈ rest, ∃ driver ∈ drivers handle, driver ∈ rest

variable {drivers : Nat → List Nat}

/-! ## Turns -/

/-- The first handle of an ascending list that passes a test is the lowest one. -/
theorem isLeast_of_find?_eq_some {handles : List Nat} {test : Nat → Bool} {handle : Nat}
    (ascending : handles.Pairwise (· < ·)) (found : handles.find? test = some handle) :
    IsLeast {other | other ∈ handles ∧ test other = true} handle := by
  refine ⟨⟨List.mem_of_find?_eq_some found, List.find?_some found⟩, ?_⟩
  rintro other ⟨member, passes⟩
  obtain ⟨-, before, after, rfl, fails⟩ := List.find?_eq_some_iff_append.mp found
  rcases List.mem_append.mp member with earlier | later
  · have failed := fails other earlier
    simp [passes] at failed
  · rcases List.mem_cons.mp later with rfl | later
    · exact Nat.le_refl other
    · exact Nat.le_of_lt ((List.pairwise_cons.mp (List.pairwise_append.mp ascending).2.1).1 _ later)

/-- The first handle of pending ones that is ready has the first turn. -/
theorem isNext_nil_of_find?_eq_some {pending : List Nat} {handle : Nat}
    (ascending : pending.Pairwise (· < ·))
    (found : pending.find? (isReady drivers pending) = some handle) :
    IsNext drivers pending [] handle := by
  have least := isLeast_of_find?_eq_some ascending found
  simpa [IsNext, isReady_iff] using least

/-- Once a handle is placed, the turns of the others are those among the others. -/
theorem isNext_cons_iff {pending placed : List Nat} {first handle : Nat} (nodup : pending.Nodup) :
    IsNext drivers pending (first :: placed) handle ↔
      IsNext drivers (pending.erase first) placed handle := by
  have same : {other | other ∈ pending ∧ other ∉ first :: placed ∧
        ∀ driver ∈ drivers other, driver ∈ pending → driver ∈ first :: placed} =
      {other | other ∈ pending.erase first ∧ other ∉ placed ∧
        ∀ driver ∈ drivers other, driver ∈ pending.erase first → driver ∈ placed} := by
    ext other
    simp only [Set.mem_ofPred_eq, nodup.mem_erase_iff, List.mem_cons]
    grind
  rw [IsNext, same, IsNext]

/-- Taking ready handles from ascending ones gives each its turn, and leaves an ascending rest. -/
theorem exists_turns_orderPending (drivers : Nat → List Nat) {pending : List Nat}
    (ascending : pending.Pairwise (· < ·)) :
    ∃ placed rest, orderPending drivers pending = placed ++ rest ∧
      IsSplit drivers pending placed rest ∧ rest.Pairwise (· < ·) ∧
      ∀ before handle after, placed = before ++ handle :: after →
        IsNext drivers pending before handle := by
  induction pending using orderPending.induct drivers with
  | case1 pending found =>
      exact ⟨[], pending, orderPending_of_find?_eq_none found, .of_find?_eq_none found, ascending,
        by simp⟩
  | case2 pending first found ih =>
      have nodup : pending.Nodup := ascending.imp Nat.ne_of_lt
      obtain ⟨placed, rest, order, split, restAscending, turns⟩ :=
        ih (ascending.sublist List.erase_sublist)
      have free := isReady_iff.mp (List.find?_some found)
      refine ⟨first :: placed, rest, ?_, split.cons (List.mem_of_find?_eq_some found) free,
        restAscending, ?_⟩
      · rw [orderPending_of_find?_eq_some found, order, List.cons_append]
      · intro before handle after divided
        rcases List.cons_eq_append_iff.mp divided with ⟨rfl, same⟩ | ⟨earlier, rfl, later⟩
        · obtain rfl : handle = first := (List.cons.inj same).1
          exact isNext_nil_of_find?_eq_some ascending found
        · exact (isNext_cons_iff nodup).mpr (turns earlier handle after later)

/-! ## Endless walks -/

section Endless

variable {candidates : List Nat} {handle : Nat}

theorem isEndless_iff_not_acc : IsEndless drivers candidates handle ↔
    ¬ Acc (Function.swap (DependsAmong drivers candidates)) handle := by
  rw [not_acc_iff_exists_descending_chain]
  rfl

/-- Behind an accessible handle there is no cycle. -/
theorem not_cycle_of_acc {step : Nat → Nat → Prop} (accessible : Acc (Function.swap step) handle)
    {origin : Nat} (walk : ReflTransGen step handle origin) : ¬ TransGen step origin origin := by
  induction accessible with
  | intro handle _ ih =>
      intro cycle
      rcases ReflTransGen.cases_head walk with rfl | ⟨next, stepped, later⟩
      · obtain ⟨next, stepped, back⟩ := TransGen.head'_iff.mp cycle
        exact ih next stepped back cycle
      · exact ih next stepped later cycle

/-- Handles that have their turns one after the other are accessible: the drivers of each one are
placed before it. -/
theorem acc_of_isNext {placed : List Nat}
    (turns : ∀ before handle after, placed = before ++ handle :: after →
      IsNext drivers candidates before handle) (member : handle ∈ placed) :
    Acc (Function.swap (DependsAmong drivers candidates)) handle := by
  obtain ⟨before, after, divided⟩ := List.append_of_mem member
  induction size : before.length using Nat.strong_induction_on generalizing handle before after with
  | _ count ih =>
      refine .intro handle fun driver depends => ?_
      have driverPlaced : driver ∈ before :=
        (turns before handle after divided).1.2.2 driver depends.2.2 depends.2.1
      obtain ⟨earlier, later, rfl⟩ := List.append_of_mem driverPlaced
      rw [List.append_assoc, List.cons_append] at divided
      have shorter : earlier.length < count := by
        rw [← size, List.length_append, List.length_cons]
        omega
      exact ih earlier.length shorter (divided ▸ by simp) earlier _ divided rfl

/-- Where each handle has a driver in the same list, none is accessible. -/
theorem not_acc_of_waiting {rest : List Nat} (inside : rest ⊆ candidates)
    (waiting : ∀ handle ∈ rest, ∃ driver ∈ drivers handle, driver ∈ rest) (member : handle ∈ rest) :
    ¬ Acc (Function.swap (DependsAmong drivers candidates)) handle := by
  intro accessible
  induction accessible with
  | intro handle _ ih =>
      obtain ⟨driver, drives, isWaiting⟩ := waiting handle member
      exact ih driver ⟨inside member, inside isWaiting, drives⟩ isWaiting

/-- A split whose first part takes its turns and whose second part ascends is the stable order. -/
theorem IsSplit.isStable {placed rest : List Nat} (split : IsSplit drivers candidates placed rest)
    (ascending : rest.Pairwise (· < ·))
    (turns : ∀ before handle after, placed = before ++ handle :: after →
      IsNext drivers candidates before handle) : IsStable drivers candidates placed rest := by
  have inside : rest ⊆ candidates := fun handle member =>
    split.perm.subset (List.mem_append_right _ member)
  have endless {handle : Nat} (member : handle ∈ rest) : IsEndless drivers candidates handle :=
    isEndless_iff_not_acc.mpr (not_acc_of_waiting inside split.waiting member)
  have ends {handle : Nat} (member : handle ∈ placed) : ¬ IsEndless drivers candidates handle :=
    fun walk => isEndless_iff_not_acc.mp walk (acc_of_isNext turns member)
  have part {handle : Nat} (member : handle ∈ candidates) : handle ∈ placed ∨ handle ∈ rest :=
    List.mem_append.mp (split.perm.mem_iff.mpr member)
  refine ⟨split.perm, fun divided => turns _ _ _ divided, ?_, ?_, ascending, split.waiting⟩
  · intro handle member
    refine ⟨ends, fun walkEnds => (part member).resolve_right fun isWaiting => ?_⟩
    exact walkEnds (endless isWaiting)
  · intro handle member
    constructor
    · intro walk
      have isWaiting := (part member).resolve_left fun isPlaced => ends isPlaced walk
      refine exists_cycle_of_blocked (DependsAmong drivers candidates) ?_ isWaiting
      intro other otherWaiting
      obtain ⟨driver, drives, driverWaiting⟩ := split.waiting other otherWaiting
      exact ⟨driver, driverWaiting, inside otherWaiting, inside driverWaiting, drives⟩
    · rintro ⟨origin, walk, cycle⟩
      rw [isEndless_iff_not_acc]
      exact fun accessible => not_cycle_of_acc accessible walk cycle

end Endless

/-! ## The order of the blocks of a diagram -/

namespace Compiled

/-- **The evaluation order is the stable order**: of the candidates without repetitions those that
wait for no cycle are placed, the lowest ready handle first, and the rest follows ascending. -/
theorem exists_isStable_stableOrder {α : Type} (nodes : Array (Node α)) {candidates : List Nat}
    (nodup : candidates.Nodup) :
    ∃ placed rest, stableOrder (driversOf nodes) candidates = placed ++ rest ∧
      IsStable (driversOf nodes) candidates placed rest := by
  let pending := candidates.eraseDups.mergeSort (· ≤ ·)
  have ascending : pending.Pairwise (· < ·) := pairwise_lt_mergeSort_eraseDups candidates
  have perm : pending.Perm candidates := by
    refine (List.mergeSort_perm _ _).trans ?_
    rw [eraseDups_of_nodup nodup]
  obtain ⟨placed, rest, order, split, restAscending, turns⟩ :=
    exists_turns_orderPending (driversOf nodes) ascending
  refine ⟨placed, rest, order, IsSplit.isStable ?_ restAscending ?_⟩
  · exact ⟨split.perm.trans perm, split.driversFirst, split.independent, split.waiting⟩
  · intro before handle after divided
    have turn := turns before handle after divided
    simp only [IsNext, perm.mem_iff] at turn
    exact turn

/-- A product at a handle, with its drivers. -/
def product (handle : Nat) (drivers : List (Nat × Nat)) : Node Rat where
  handle
  id := toString handle
  type := "mult"
  kind := .mult
  payload := .mult
  phase := .algebraic
  drivers
  ports := drivers.map (·.1)
  label := none
  external := false

/-- Products in a knot: `7` reads itself, `1` and `2` read each other, and `0` reads one of them.
The others read what comes from `5`, through two ports in the case of `4`. -/
def knot : Array (Node Rat) :=
  #[product 0 [(0, 1)], product 1 [(0, 2), (1, 4)], product 2 [(0, 1)], product 3 [(0, 4)],
    product 4 [(0, 5), (1, 6)], product 5 [], product 6 [(0, 5)], product 7 [(0, 5), (1, 7)]]

theorem exists_isStable_knot :
    [7, 4, 0, 6, 2, 3, 1].Nodup ∧
      stableOrder (driversOf knot) [7, 4, 0, 6, 2, 3, 1] = [6, 4, 3, 0, 1, 2, 7] ∧
      ∃ placed rest, stableOrder (driversOf knot) [7, 4, 0, 6, 2, 3, 1] = placed ++ rest ∧
        IsStable (driversOf knot) [7, 4, 0, 6, 2, 3, 1] placed rest := by
  have nodup : [7, 4, 0, 6, 2, 3, 1].Nodup := by decide
  have sorted : [7, 4, 0, 6, 2, 3, 1].eraseDups.mergeSort (· ≤ ·) = [0, 1, 2, 3, 4, 6, 7] := by
    rw [eraseDups_of_nodup nodup]
    simp [List.mergeSort]
  have order : stableOrder (driversOf knot) [7, 4, 0, 6, 2, 3, 1] = [6, 4, 3, 0, 1, 2, 7] := by
    rw [stableOrder, sorted]
    decide +kernel
  exact ⟨nodup, order, exists_isStable_stableOrder knot nodup⟩

end Compiled

end SignalFlow
