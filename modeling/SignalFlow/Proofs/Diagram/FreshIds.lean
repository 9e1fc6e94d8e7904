import SignalFlow.Diagram.Basic
import Mathlib.Data.List.Perm.Subperm
import Mathlib.Data.List.Nodup

/-! # Fresh ids

A diagram looks for the next number whose id is neither taken nor reserved. It looks at no more
numbers than there are such ids, and that is enough: different numbers have different ids, so they
cannot all be taken. The search therefore ends where one without a bound would
(`Diagram.freshId_eq`).
-/

namespace SignalFlow

/-- A number is the first one from `next` on that is not taken. -/
structure IsFirstFree (taken : Nat → Prop) (next number : Nat) : Prop where
  le : next ≤ number
  free : ¬ taken number
  taken_of_lt {other : Nat} : next ≤ other → other < number → taken other

theorem Decimal.digitsOf_injective : Function.Injective Decimal.digitsOf := by
  intro first second same
  have digits : Nat.toDigits 10 first = Nat.toDigits 10 second := String.ofList_injective same
  rw [← Nat.ofDigitChars_ten_toDigits (n := first), digits, Nat.ofDigitChars_ten_toDigits]

namespace Diagram

/-- The id of a letter and a number. -/
def numbered (letter : String) (number : Nat) : String := letter ++ Decimal.digitsOf number

theorem numbered_injective (letter : String) : Function.Injective (numbered letter) := by
  intro first second same
  exact Decimal.digitsOf_injective (by simpa [numbered] using same)

theorem numbered_ne_empty {letter : String} (isLetter : letter ≠ "") (number : Nat) :
    numbered letter number ≠ "" := by
  simp [numbered, isLetter]

/-- Either a free number is found or all the numbers in the room are taken. -/
theorem freeNumber_spec (taken : Nat → Bool) (room next : Nat) :
    (∀ other, next ≤ other → other < freeNumber taken room next → taken other = true) ∧
      (next ≤ freeNumber taken room next) ∧
      (taken (freeNumber taken room next) = false ∨ freeNumber taken room next = next + room) := by
  induction room generalizing next with
  | zero =>
      rw [freeNumber]
      exact ⟨fun other above below => absurd above (by omega), Nat.le_refl _, .inr rfl⟩
  | succ room ih =>
      rw [freeNumber]
      split
      · next isTaken =>
          obtain ⟨before, le, found⟩ := ih (next + 1)
          refine ⟨fun other above below => ?_, by omega, found.imp_right (by omega)⟩
          by_cases first : other = next
          · rw [first, isTaken]
          · exact before other (by omega) below
      · next isFree =>
          exact ⟨fun other above below => absurd above (by omega), Nat.le_refl _,
            .inl (by simpa using isFree)⟩

theorem isFirstFree_freeNumber {taken : Nat → Bool} {room next : Nat}
    (bounded : ¬ ∀ other, next ≤ other → other ≤ next + room → taken other = true) :
    IsFirstFree (taken · = true) next (freeNumber taken room next) := by
  obtain ⟨before, le, found⟩ := freeNumber_spec taken room next
  refine ⟨le, fun isTaken => bounded fun other above below => ?_, before _⟩
  have last : freeNumber taken room next = next + room := by simpa [isTaken] using found
  by_cases inside : other < freeNumber taken room next
  · exact before other above inside
  · have same : other = freeNumber taken room next := by omega
    rw [same, isTaken]

theorem block?_isSome_iff {diagram : Diagram String} {id : String} :
    (diagram.block? id).isSome = true ↔ id ∈ diagram.ids := by
  simp [block?, ids]

/-- More different numbers than there are ids cannot all be taken. -/
theorem exists_not_mem_of_length (letter : String) (names : List String) (next : Nat) :
    ¬ ∀ number, next ≤ number → number ≤ next + names.length → numbered letter number ∈ names := by
  intro all
  let candidates := (List.range' next (names.length + 1)).map (numbered letter)
  have nodup : candidates.Nodup := List.Nodup.map (numbered_injective letter) List.nodup_range'
  have subset : candidates ⊆ names := by
    intro id member
    obtain ⟨number, inside, rfl⟩ := List.mem_map.mp member
    rw [List.mem_range'_1] at inside
    exact all number inside.1 (by omega)
  have bound := (List.subperm_of_subset nodup subset).length_le
  simp only [candidates, List.length_map, List.length_range'] at bound
  omega

/-- **The search for a fresh id ends at the first number whose id is free**, however many ids are
taken or reserved. -/
theorem freshId_eq (diagram : Diagram String) (letter : String) (reserved : List String) :
    ∃ number, IsFirstFree (fun n => numbered letter n ∈ reserved ∨ numbered letter n ∈ diagram.ids)
        diagram.nextId number ∧
      diagram.freshId id letter reserved =
        (numbered letter number, { diagram with nextId := number + 1 }) := by
  let taken (number : Nat) : Bool :=
    reserved.contains (numbered letter number) || (diagram.block? (numbered letter number)).isSome
  have taken_iff (number : Nat) : taken number = true ↔
      numbered letter number ∈ reserved ∨ numbered letter number ∈ diagram.ids := by
    simp only [taken, Bool.or_eq_true, List.contains_iff_mem, block?_isSome_iff]
  have bounded : ¬ ∀ other, diagram.nextId ≤ other →
      other ≤ diagram.nextId + (reserved.length + diagram.blocks.length) → taken other = true := by
    intro all
    refine exists_not_mem_of_length letter (reserved ++ diagram.ids) diagram.nextId ?_
    intro number above below
    rw [List.mem_append, ← taken_iff]
    refine all number above ?_
    simpa [ids] using below
  have found := isFirstFree_freeNumber bounded
  simp only [taken_iff] at found
  exact ⟨_, found, rfl⟩

end Diagram

end SignalFlow
