import SignalFlow.Proofs.Linear.Realization

/-! # Improper transfer functions

A numerator of a higher degree than its denominator is cut before it is realized. A denominator of
degree one or more keeps the terms of lowest order, as many as it has coefficients itself, and the
model has the transfer function of what is kept. A denominator of degree zero keeps the leading
coefficient in place of the last one (`StateSpace.realize?_of_improper`), so a numerator with more
than one coefficient is cut there in another way than everywhere else
(`StateSpace.not_truncated_constantDenominator`).
-/

open Matrix

namespace SignalFlow.StateSpace

open SignalFlow.Polynomial (value normalize)

/-- The last coefficients of a numerator, those of lowest order. -/
def lowestTerms (count : Nat) (numerator : List Rat) : List Rat :=
  numerator.drop (numerator.length - count)

theorem length_lowestTerms {count : Nat} {numerator : List Rat}
    (inside : count ≤ numerator.length) : (lowestTerms count numerator).length = count := by
  rw [lowestTerms, List.length_drop]
  omega

/-- Nothing is added in front of a numerator that has as many coefficients as are asked for. -/
theorem fit_of_le {count : Nat} {numerator : List Rat} (inside : count ≤ numerator.length) :
    fit count numerator = lowestTerms count numerator := by
  rw [fit, Nat.sub_eq_zero_of_le inside, List.replicate_zero, List.nil_append, lowestTerms]

/-- Division by the leading coefficient makes a denominator monic. -/
theorem value_monic {K : Type*} [Field K] [CharZero K] (s : K) {leading : Rat} {rest : List Rat}
    (nonzero : leading ≠ 0) :
    value s (1 :: rest.map (· / leading)) = value s (leading :: rest) / leading := by
  rw [← Polynomial.value_map_div, List.map_cons, div_self nonzero]

/-- A canonical form has the transfer function of the coefficients that it is made of, whatever
these are. -/
theorem hasTransfer_canonical {leading : Rat} {kept rest : List Rat} (nonzero : leading ≠ 0)
    (length_eq : kept.length = rest.length + 1) :
    (canonical (rest.map (· / leading)) (kept.map (· / leading))).HasTransfer kept
      (leading :: rest) := by
  have shape : (canonical (rest.map (· / leading)) (kept.map (· / leading))).HasShape :=
    hasShape_canonical (by simp [length_eq])
  refine ⟨by simp, shape.derivative_eq, shape.output_eq, ?_⟩
  intro K _ _ s denominator
  obtain ⟨direct, later, rfl⟩ := List.exists_cons_of_length_eq_add_one length_eq
  have castNonzero : (leading : K) ≠ 0 := Rat.cast_ne_zero.mpr nonzero
  have closed : value s (1 :: rest.map (· / leading)) ≠ 0 := by
    rw [value_monic s nonzero]
    exact div_ne_zero denominator castNonzero
  refine ⟨_, equations_canonical_iff closed, ?_⟩
  have lengths : (later.map (· / leading)).length = (rest.map (· / leading)).length := by
    simpa using length_eq
  rw [List.map_cons, output_canonical lengths closed, ← List.map_cons (f := (· / leading)),
    Polynomial.value_map_div, value_monic s nonzero, div_div_div_cancel_right₀ castNonzero]

/-- **What is kept of an improper transfer function.** A denominator of degree one or more keeps as
many terms of lowest order as it has coefficients; one of degree zero keeps the leading coefficient
of the numerator. The model has the transfer function of what is kept. -/
theorem realize?_of_improper {num den : List Rat} (significant : ∃ c ∈ den, 1e-12 ≤ |c|)
    (improper : (normalize den).length < (normalize num).length) :
    ∃ model, realize? num den = some model ∧
      (1 < (normalize den).length → model.HasTransfer
        (lowestTerms (normalize den).length (normalize num)) (normalize den)) ∧
      ((normalize den).length = 1 → model.HasTransfer
        ((normalize num).take 1) (normalize den)) := by
  have notZero := Polynomial.isZero_eq_false_iff.mpr significant
  obtain ⟨leading, rest, normalized, nonzero⟩ := Polynomial.exists_normalize_eq_cons notZero
  unfold realize?
  rw [normalized] at improper ⊢
  rw [notZero]
  cases rest with
  | nil =>
      obtain ⟨first, later, same⟩ := List.exists_cons_of_length_pos (Nat.zero_lt_of_lt improper)
      refine ⟨_, rfl, fun positive => absurd positive (Nat.lt_irrefl 1), fun _ => ?_⟩
      have single : [first].length = ([] : List Rat).length + 1 := rfl
      rw [same]
      exact hasTransfer_canonical nonzero single
  | cons second rest =>
      refine ⟨_, rfl, fun _ => ?_, fun constant => by simp at constant⟩
      have inside := Nat.le_of_lt improper
      rw [List.length_cons (a := leading)] at inside ⊢
      rw [fit_of_le inside]
      exact hasTransfer_canonical nonzero (length_lowestTerms inside)

/-- The realization of `(s³ + 2 s² + 4) / (2 s + 6)` keeps `4`. -/
theorem realize?_of_improper_lag :
    (∃ c ∈ ([2, 6] : List Rat), 1e-12 ≤ |c|) ∧
      (normalize ([2, 6] : List Rat)).length < (normalize ([1, 2, 0, 4] : List Rat)).length ∧
      ∃ model, realize? [1, 2, 0, 4] [2, 6] = some model ∧ model.HasTransfer [0, 4] [2, 6] := by
  have numerator : normalize ([1, 2, 0, 4] : List Rat) = [1, 2, 0, 4] := by decide +kernel
  have denominator : normalize ([2, 6] : List Rat) = [2, 6] := by decide +kernel
  have significant : ∃ c ∈ ([2, 6] : List Rat), 1e-12 ≤ |c| := ⟨2, by simp, by norm_num⟩
  have improper :
      (normalize ([2, 6] : List Rat)).length < (normalize ([1, 2, 0, 4] : List Rat)).length := by
    rw [numerator, denominator]
    decide
  obtain ⟨model, realized, truncated, -⟩ := realize?_of_improper significant improper
  rw [numerator, denominator] at truncated
  exact ⟨significant, improper, model, realized, truncated (by decide)⟩

/-- The realization of `(s² + 2 s + 3) / 2` is the gain `1 / 2`, and not the gain `3 / 2` that its
term of lowest order makes. -/
theorem not_truncated_constantDenominator :
    (∃ c ∈ ([2] : List Rat), 1e-12 ≤ |c|) ∧
      (normalize ([2] : List Rat)).length < (normalize ([1, 2, 3] : List Rat)).length ∧
      ¬ ∃ model, realize? [1, 2, 3] [2] = some model ∧ model.HasTransfer
        (lowestTerms (normalize ([2] : List Rat)).length (normalize [1, 2, 3]))
        (normalize [2]) := by
  have numerator : normalize ([1, 2, 3] : List Rat) = [1, 2, 3] := by decide +kernel
  have denominator : normalize ([2] : List Rat) = [2] := by decide +kernel
  rw [numerator, denominator]
  refine ⟨⟨2, by simp, by norm_num⟩, by decide, ?_⟩
  rintro ⟨model, realized, has⟩
  have gain : (realize? ([1, 2, 3] : List Rat) [2]).map (fun model => (model.b, model.d)) =
      some ([], 1 / 2) := by
    decide +kernel
  rw [realized, Option.map_some, Option.some_inj, Prod.mk.injEq] at gain
  obtain ⟨none, direct⟩ := gain
  obtain ⟨x, -, through⟩ := has.transfer (K := Rat) (s := 0) (by norm_num [value])
  have empty : IsEmpty (Fin model.order) := by
    rw [order, none]
    exact Fin.isEmpty
  rw [dotProduct, Finset.sum_of_isEmpty, direct] at through
  norm_num [value, lowestTerms] at through

end SignalFlow.StateSpace
