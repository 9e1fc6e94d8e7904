import SignalFlow.Host.Usual
import SignalFlow.Proofs.Linear.Realization
import SignalFlow.Proofs.Sampled.Rate

/-! # Discrete state spaces

A discrete state-space model of order one has the transfer function
`((c b + d) z - a d) / (z - a)`, with the output read after the state has been updated. The block of
the model keeps a state, the block of the transfer function its latest samples and outputs. In every
state that the two come to together the latest output is `c x + d u` (`Realizes`), so the registers
tell of the state what the next output takes, and the two blocks put out the same in every tick
(`Payload.outputAt_dstateSpace_eq_dtf`). All this is about exact arithmetic.
-/

namespace SignalFlow

namespace Recurrence

/-- The coefficients of a transfer function that is monic already are those of its recurrence. -/
theorem realize_monic {num rest : List Rat} (significant : ∃ c ∈ num, 1e-12 ≤ |c|) :
    realize num (1 :: rest) = ⟨num, 1 :: rest⟩ := by
  have one : Polynomial.isNegligible (1 : Rat) = false := by decide +kernel
  have notZero : Polynomial.isZero (1 :: rest) = false :=
    Polynomial.isZero_eq_false_iff.mpr ⟨1, List.mem_cons_self, by norm_num⟩
  have numerator_eq : numerator num = num := by
    rw [numerator, Polynomial.isZero_eq_false_iff.mpr significant, Polynomial.clean_rat]
    rfl
  have denominator_eq : denominator (1 :: rest) = 1 :: rest := by
    rw [denominator, notZero, Polynomial.normalize, Polynomial.trim, Polynomial.clean_rat,
      List.dropWhile_cons_of_neg (by simp [one])]
    rfl
  simp [realize, numerator_eq, denominator_eq]

theorem evaluate_pair (p q r s u older y : Rat) :
    (⟨[p, q], [r, s]⟩ : Recurrence Rat).evaluate [u, older] [y] = p * u + q * older - s * y := by
  norm_num [evaluate]

end Recurrence

namespace Payload

/-- The registers of a recurrence go with the state of a model: the latest output, which is also what
is put out, is that of the state and of the latest sample, and the clocks are set to the same time. -/
inductive Realizes (c d : Rat) : Memory Rat → Memory Rat → Prop
  | intro {x u older out next : Rat} (output_eq : out = c * x + d * u) :
      Realizes c d (.dstateSpace x out next) (.dtf [u, older] [out] out next)

/-- In a tick the two blocks either take the same sample, and what they make of it is the same, or
they stay as they are. -/
theorem Realizes.update {a b c d ts time dt : Rat} {inputs : Inputs Rat} {memory other : Memory Rat}
    (num den : List Rat) (realizes : Realizes c d memory other) :
    Realizes c d ((dstateSpace a b c d ts).update time dt inputs memory)
      ((dtf num den ts ⟨[c * b + d, -a * d], [1, -a]⟩).update time dt inputs other) := by
  cases realizes with
  | @intro x u older out next output_eq =>
      cases fires : clockFires time next with
      | false =>
          simp only [Payload.update, fires, Bool.false_eq_true, if_false]
          exact .intro output_eq
      | true =>
          have next_eq : (c * b + d) * Inputs.value inputs 0 + -a * d * u - -a * out =
              c * (a * x + b * Inputs.value inputs 0) + d * Inputs.value inputs 0 := by
            rw [output_eq]
            ring
          simp only [Payload.update, fires, if_true, shiftIn, List.dropLast,
            Recurrence.evaluate_pair, next_eq]
          exact .intro rfl

section Significant

variable {a b c d : Rat} (significant : 1e-12 ≤ |c * b + d| ∨ 1e-12 ≤ |a * d|)
include significant

/-- The recurrence has the coefficients of the transfer function. -/
theorem realize_stateSpace : Recurrence.realize [c * b + d, -a * d] [1, -a] =
    ⟨[c * b + d, -a * d], [1, -a]⟩ := by
  apply Recurrence.realize_monic
  rcases significant with direct | delayed
  · exact ⟨_, List.mem_cons_self, direct⟩
  · refine ⟨-a * d, by simp, ?_⟩
    rwa [neg_mul, abs_neg]

/-- **A discrete state-space model and its transfer function put out the same** in every tick, for
every sequence of inputs and every sample period, in ticks that lie in time as they like. -/
theorem outputAt_dstateSpace_eq_dtf [Host] (ts : Rat) (schedule : Schedule Rat) (tick : Nat) :
    let num := [c * b + d, -a * d]
    let den := [1, -a]
    ∃ y, (dstateSpace a b c d ts).outputAt schedule tick = .ok y ∧
      (dtf num den ts (Recurrence.realize num den)).outputAt schedule tick = .ok y := by
  intro num den
  rw [realize_stateSpace significant]
  refine exists_outputAt_of_lockstep (Realizes c d) rfl rfl ?_ ?_ ?_ tick
  · exact .intro (by norm_num)
  · rintro tick memory other ⟨-⟩
    exact ⟨_, rfl, rfl⟩
  · exact fun tick memory other realizes => realizes.update num den

end Significant

open Host.Usual

/-- An unstable model with a direct part, sampled in every second tick. -/
theorem outputAt_dstateSpace_eq_dtf_growing :
    let model : Payload Rat := .dstateSpace 2 3 (1 / 2) (-1) (1 / 5)
    let transfer : Payload Rat := .dtf [1 / 2 * 3 + -1, -2 * -1] [1, -2] (1 / 5)
      (Recurrence.realize [1 / 2 * 3 + -1, -2 * -1] [1, -2])
    let schedule := Schedule.regular (1 / 10) fun tick => [(0, 1 + tick)]
    (1e-12 ≤ |(1 / 2 * 3 + -1 : Rat)| ∨ 1e-12 ≤ |(2 * -1 : Rat)|) ∧
      (List.range 7).map (fun tick => (model.outputAt schedule tick).toOption) =
        [some 0, some (1 / 2), some (1 / 2), some (9 / 2), some (9 / 2), some (35 / 2),
          some (35 / 2)] ∧
      ∀ tick, ∃ y, model.outputAt schedule tick = .ok y ∧
        transfer.outputAt schedule tick = .ok y := by
  intro model transfer schedule
  have significant : 1e-12 ≤ |(1 / 2 * 3 + -1 : Rat)| ∨ 1e-12 ≤ |(2 * -1 : Rat)| :=
    .inl (by norm_num [abs_of_pos])
  refine ⟨significant, by decide +kernel, fun tick => ?_⟩
  exact outputAt_dstateSpace_eq_dtf significant (1 / 5) schedule tick

end Payload

end SignalFlow
