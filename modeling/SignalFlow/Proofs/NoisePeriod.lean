import SignalFlow.Block.Resolve
import SignalFlow.Code.Text
import SignalFlow.Proofs.Persistence
import SignalFlow.Proofs.Sampled.Schedule
import Mathlib.Data.Int.Bitwise
import Mathlib.Data.Int.ModEq
import Mathlib.Data.Nat.Bitwise
import Mathlib.Data.UInt
import Mathlib.Dynamics.PeriodicPts.Lemmas
import Mathlib.Tactic.Ring

/-! # The period of the noise generator

Going `2 ^ k` steps multiplies a state of the generator by a number that is one modulo `2 ^ (k + 2)`
and adds an odd multiple of `2 ^ k` (`exists_iterate_two_pow`). So `2 ^ 32` steps lead back to a
state and `2 ^ 31` do not, which leaves only the full period (`minimalPeriod_nextNoise`): from any
seed the generator goes through all states before it begins again.

The steps that are written into programs are whole-number expressions (`Code.WholeTerm`). One is
computed exactly and masked, the other one in unsigned numbers of a machine, from which the last 32
bits are taken; both give the state that the generator comes to (`Code.value_noiseStep`).
-/

namespace SignalFlow

open Function

/-! ## Iterates -/

section Period

open scoped UInt32.CommRing

/-- A power of two of steps adds an odd multiple of this power, but for multiples of higher ones. -/
theorem exists_iterate_two_pow (k : Nat) : ∃ slope shift : UInt32, ∀ state,
    nextNoise^[2 ^ k] state =
      (1 + 2 ^ (k + 2) * slope) * state + 2 ^ k * (2 * shift + 1) := by
  induction k with
  | zero =>
      refine ⟨416131, 506952111, fun state => ?_⟩
      have multiplier : (1 + 2 ^ (0 + 2) * 416131 : UInt32) = 1664525 := by decide +kernel
      have increment : (2 ^ 0 * (2 * 506952111 + 1) : UInt32) = 1013904223 := by decide +kernel
      rw [multiplier, increment]
      rfl
  | succ k ih =>
      obtain ⟨slope, shift, steps⟩ := ih
      refine ⟨slope + 2 ^ (k + 1) * slope ^ 2, shift + 2 ^ k * slope * (2 * shift + 1), ?_⟩
      intro state
      rw [pow_succ, mul_two, iterate_add_apply, steps, steps]
      ring

theorem two_pow_thirtyTwo : (2 : UInt32) ^ 32 = 0 := by decide +kernel

theorem iterate_two_pow_thirtyTwo (state : UInt32) : nextNoise^[2 ^ 32] state = state := by
  obtain ⟨slope, shift, steps⟩ := exists_iterate_two_pow 32
  rw [steps, pow_add, two_pow_thirtyTwo]
  ring

theorem iterate_two_pow_thirtyOne (state : UInt32) :
    nextNoise^[2 ^ 31] state = state + 2 ^ 31 := by
  obtain ⟨slope, shift, steps⟩ := exists_iterate_two_pow 31
  calc nextNoise^[2 ^ 31] state
      = state + 2 ^ 31 + 2 ^ 32 * (2 * slope * state + shift) := by
        rw [steps]
        ring
    _ = state + 2 ^ 31 := by rw [two_pow_thirtyTwo, zero_mul, add_zero]

/-- **The generator has the full period.** -/
theorem minimalPeriod_nextNoise (state : UInt32) : minimalPeriod nextNoise state = 2 ^ 32 := by
  have prime : Fact (Nat.Prime 2) := ⟨Nat.prime_two⟩
  have notEarlier : ¬ IsPeriodicPt nextNoise (2 ^ 31) state := by
    intro early
    have nothing : state + 2 ^ 31 = state :=
      (iterate_two_pow_thirtyOne state).symm.trans early
    have nonzero : (2 : UInt32) ^ 31 ≠ 0 := by decide +kernel
    exact nonzero (add_eq_left.mp nothing)
  exact minimalPeriod_eq_prime_pow notEarlier (iterate_two_pow_thirtyTwo state)

end Period

theorem iterate_add_two_pow (state : UInt32) (tick : Nat) :
    nextNoise^[tick + 2 ^ 32] state = nextNoise^[tick] state := by
  rw [iterate_add_apply, iterate_two_pow_thirtyTwo]

/-- In a period each state is reached once. -/
theorem existsUnique_iterate (state value : UInt32) :
    ∃! tick, tick < 2 ^ 32 ∧ nextNoise^[tick] state = value := by
  have distinct : Set.InjOn (nextNoise^[·] state) (Set.Iio (2 ^ 32)) := by
    rw [← minimalPeriod_nextNoise state]
    exact iterate_injOn_Iio_minimalPeriod
  let numbered : Fin UInt32.size ≃ UInt32 :=
    ⟨UInt32.ofFin, UInt32.toFin, fun _ => rfl, fun _ => rfl⟩
  let reached (tick : Fin UInt32.size) : UInt32 := nextNoise^[tick.val] state
  have injective : Injective reached := fun first second same =>
    Fin.ext (distinct first.isLt second.isLt same)
  obtain ⟨tick, found⟩ := (Finite.injective_iff_surjective_of_equiv numbered).mp injective value
  refine ⟨tick.val, ⟨tick.isLt, found⟩, fun other ⟨inside, alsoFound⟩ => ?_⟩
  exact distinct inside tick.isLt (alsoFound.trans found.symm)

/-- Counted from one on, too, each state is reached once in a period. -/
theorem existsUnique_iterate_succ (state value : UInt32) :
    ∃! tick, tick ∈ Set.Icc 1 (2 ^ 32) ∧ nextNoise^[tick] state = value := by
  obtain ⟨tick, ⟨inside, found⟩, unique⟩ := existsUnique_iterate (nextNoise state) value
  rw [← iterate_succ_apply] at found
  refine ⟨tick + 1, ⟨Set.mem_Icc.mpr ⟨Nat.le_add_left 1 tick, inside⟩, found⟩, ?_⟩
  rintro other ⟨bounds, alsoFound⟩
  obtain ⟨positive, bounded⟩ := Set.mem_Icc.mp bounds
  obtain ⟨earlier, rfl⟩ := Nat.exists_eq_add_of_le' positive
  rw [iterate_succ_apply] at alsoFound
  rw [unique earlier ⟨bounded, alsoFound⟩]

/-! ## Masks -/

theorem ldiff_two_pow_sub_one (n width : Nat) :
    Nat.ldiff (2 ^ width - 1) n = 2 ^ width - (n % 2 ^ width + 1) := by
  have inside : n % 2 ^ width < 2 ^ width := Nat.mod_lt _ (Nat.two_pow_pos width)
  apply Nat.eq_of_testBit_eq
  intro place
  rw [Nat.testBit_ldiff, Nat.testBit_two_pow_sub_one, Nat.testBit_two_pow_sub_succ inside,
    Nat.testBit_mod_two_pow]
  cases decide (place < width) <;> rfl

/-- Masking a whole number leaves its remainder, also that of a negative one. -/
theorem land_two_pow_sub_one (n : Int) (width : Nat) :
    Int.land n (2 ^ width - 1 : Nat) = n % 2 ^ width := by
  cases n with
  | ofNat n =>
      change ((n &&& (2 ^ width - 1) : Nat) : Int) = n % 2 ^ width
      rw [Nat.and_two_pow_sub_one_eq_mod]
      push_cast
      rfl
  | negSucc n =>
      change ((Nat.ldiff (2 ^ width - 1) n : Nat) : Int) = _
      have inside : n % 2 ^ width < 2 ^ width := Nat.mod_lt _ (Nat.two_pow_pos width)
      rw [ldiff_two_pow_sub_one, Int.negSucc_emod _ (pow_pos two_pos width)]
      push_cast [Nat.succ_le_of_lt inside]
      omega

/-- The numbers of 32 bits are those that the mask leaves as they are. -/
theorem land_mask (n : Int) : Int.land n 0xFFFFFFFF = n % 2 ^ 32 := land_two_pow_sub_one n 32

theorem Payload.toNat_seedOf (n : Int) : ((seedOf n).toNat : Int) = Int.land n 0xFFFFFFFF := by
  rw [land_mask, seedOf, UInt32.toNat_ofNat']
  omega

/-! ## Steps in programs -/

namespace Code

/-- A whole-number expression of a program. -/
inductive WholeTerm where
  /-- What the generator holds. -/
  | state
  | number (n : Nat)
  | add (a b : WholeTerm)
  | mul (a b : WholeTerm)
  | grouped (a : WholeTerm)
  /-- With all bits but the last 32 cleared. -/
  | masked (a : WholeTerm)
  /-- Converted to an unsigned number of 32 bits. -/
  | narrowed (a : WholeTerm)

namespace WholeTerm

/-- The text of an expression. In C the numbers are unsigned. -/
def text (language : Language) (state : String) : WholeTerm → String
  | .state => state
  | .number n =>
      match language with
      | .python => Decimal.digitsOf n
      | .c => Decimal.digitsOf n ++ "u"
  | .add a b => a.text language state ++ " + " ++ b.text language state
  | .mul a b => a.text language state ++ " * " ++ b.text language state
  | .grouped a => "(" ++ a.text language state ++ ")"
  | .masked a => a.text language state ++ " & 0xFFFFFFFF"
  | .narrowed a => "(uint32_t)" ++ a.text language state

/-- The value of an expression. In Python it is exact; in C the operators work on unsigned numbers,
which have 32 bits and maybe more. -/
def value (language : Language) (further : Nat) (state : Int) : WholeTerm → Int
  | .state => state
  | .number n => n
  | .add a b => wrapped (a.value language further state + b.value language further state)
  | .mul a b => wrapped (a.value language further state * b.value language further state)
  | .grouped a => a.value language further state
  | .masked a => Int.land (a.value language further state) 0xFFFFFFFF
  | .narrowed a => a.value language further state % 2 ^ 32
where
  wrapped (n : Int) : Int :=
    match language with
    | .python => n
    | .c => n % 2 ^ (32 + further)

end WholeTerm

/-- The step of a generator as an expression. -/
def noiseStep (language : Language) : WholeTerm :=
  let next : WholeTerm := .grouped (.add (.mul (.number 1664525) .state) (.number 1013904223))
  match language with
  | .python => .masked next
  | .c => .narrowed next

theorem text_noiseStep (language : Language) (rng : Field) :
    (noiseStep language).text language (language.field rng) = language.noise rng := by
  have multiplier : Decimal.digitsOf 1664525 = "1664525" := by decide +kernel
  have increment : Decimal.digitsOf 1013904223 = "1013904223" := by decide +kernel
  generalize shown : language.field rng = state
  cases language with
  | python =>
      have opened : "(1664525 * " = "(" ++ ("1664525" ++ " * ") := by decide +kernel
      have closed : " + 1013904223) & 0xFFFFFFFF" =
          " + " ++ ("1013904223" ++ (")" ++ " & 0xFFFFFFFF")) := by decide +kernel
      change "(" ++ (Decimal.digitsOf 1664525 ++ " * " ++ state ++ " + " ++
          Decimal.digitsOf 1013904223) ++ ")" ++ " & 0xFFFFFFFF" =
        "(1664525 * " ++ Language.python.field rng ++ " + 1013904223) & 0xFFFFFFFF"
      rw [shown, opened, closed, multiplier, increment]
      simp only [String.append_assoc]
  | c =>
      have opened : "(uint32_t)(1664525u * " =
          "(uint32_t)" ++ ("(" ++ ("1664525" ++ ("u" ++ " * "))) := by decide +kernel
      have closed : " + 1013904223u)" = " + " ++ ("1013904223" ++ ("u" ++ ")")) := by decide +kernel
      change "(uint32_t)" ++ ("(" ++ (Decimal.digitsOf 1664525 ++ "u" ++ " * " ++ state ++ " + " ++
          (Decimal.digitsOf 1013904223 ++ "u")) ++ ")") =
        "(uint32_t)(1664525u * " ++ Language.c.field rng ++ " + 1013904223u)"
      rw [shown, opened, closed, multiplier, increment]
      simp only [String.append_assoc]

theorem value_noiseStep (language : Language) (further : Nat) (state : UInt32) :
    (noiseStep language).value language further state.toNat = (nextNoise state).toNat := by
  have next_eq : ((nextNoise state).toNat : Int) =
      (1664525 * (state.toNat : Int) + 1013904223) % 2 ^ 32 := by
    rw [toNat_nextNoise]
    push_cast
    rfl
  rw [next_eq]
  cases language with
  | python => exact land_mask _
  | c =>
      have divides : (2 : Int) ^ 32 ∣ 2 ^ (32 + further) :=
        pow_dvd_pow 2 (Nat.le_add_right 32 further)
      change ((1664525 * (state.toNat : Int)) % 2 ^ (32 + further) + 1013904223) %
        2 ^ (32 + further) % 2 ^ 32 = _
      rw [Int.emod_emod_of_dvd _ divides, Int.add_emod, Int.emod_emod_of_dvd _ divides,
        ← Int.add_emod]

/-- Step after step the programs compute the states of the generator. -/
theorem iterate_noiseStep (language : Language) (further : Nat) (seed : UInt32) (tick : Nat) :
    ((noiseStep language).value language further)^[tick] seed.toNat =
      (nextNoise^[tick] seed).toNat := by
  have steps : Semiconj (fun state : UInt32 => (state.toNat : Int)) nextNoise
      ((noiseStep language).value language further) :=
    fun state => (value_noiseStep language further state).symm
  exact (steps.iterate_right tick seed).symm

end Code

namespace Payload

variable {α : Type} [Scalar α]

/-- The generator makes a step in each tick. -/
theorem stateAt_noise [Host] (amp : α) (seed : UInt32) (schedule : Schedule α) (tick : Nat) :
    (noise amp seed).stateAt schedule tick = .ok (.noise (nextNoise^[tick] seed)) := by
  induction tick with
  | zero => rfl
  | succ tick ih =>
      rw [iterate_succ_apply']
      exact stateAt_succ ih rfl

/-- **The noise generator has the full period.** Its seed is a whole number masked to 32 bits. The
states after the ticks from 1 to `2 ^ 32` are different, so that each state is reached once, and
then they begin again. The steps that are written into programs compute the same states, in C
whatever the width of the unsigned numbers, from 32 bits on. -/
theorem noise_fullPeriod [Host] (amp : α) (n : Int) (schedule : Schedule α) :
    let seed := seedOf n
    let state (tick : Nat) : UInt32 := nextNoise^[tick] seed
    (seed.toNat : Int) = Int.land n 0xFFFFFFFF ∧
    (∀ tick, (noise amp seed).stateAt schedule tick = .ok (.noise (state tick))) ∧
    Set.InjOn state (Set.Icc 1 (2 ^ 32)) ∧
    (∀ value, ∃! tick, tick ∈ Set.Icc 1 (2 ^ 32) ∧ state tick = value) ∧
    (∀ tick, state (tick + 2 ^ 32) = state tick) ∧
    ∀ (language : Language) (rng : Code.Field),
      language.statement (.drawNoise rng) = [language.ended (language.field rng ++ " = " ++
        (Code.noiseStep language).text language (language.field rng))] ∧
      ∀ further tick, ((Code.noiseStep language).value language further)^[tick] seed.toNat =
        (state tick).toNat := by
  intro seed state
  refine ⟨toNat_seedOf n, stateAt_noise amp seed schedule, ?_, existsUnique_iterate_succ seed,
    iterate_add_two_pow seed, fun language rng => ?_⟩
  · intro first inside second alsoInside same
    exact (existsUnique_iterate_succ seed (state second)).unique ⟨inside, same⟩ ⟨alsoInside, rfl⟩
  · rw [Code.text_noiseStep]
    exact ⟨rfl, fun further => Code.iterate_noiseStep language further seed⟩

end Payload

end SignalFlow
