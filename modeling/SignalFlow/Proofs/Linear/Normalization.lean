import SignalFlow.Proofs.BlockTotality
import SignalFlow.Proofs.Doubles.Order
import SignalFlow.Proofs.Linear.Shape

/-! # Normalized coefficient lists

A coefficient list is cut in two steps. Leading coefficients that count as zero are stripped, but the
last coefficient stays in any case, and only then it is asked whether anything counts. Together the
two steps come to one rule: the coefficients from the first one that counts on, or zero if none does
(`Polynomial.reduce_of_split`, `Polynomial.reduce_of_forall`). So whatever doubles a list has, and
whatever is missing in it, a realization never divides by zero, and cutting what has been cut changes
nothing (`Polynomial.reduce_normalizes`).
-/

namespace SignalFlow.Polynomial

section Stripping

variable {α : Type} [Scalar α]

theorem isNegligible_iff_lt {coefficient : α} :
    isNegligible coefficient = true ↔ Scalar.abs coefficient < 1e-12 :=
  decide_eq_true_iff

/-- In a list there is a first coefficient that counts, unless all of them count as zero. -/
theorem exists_first_significant (coefficients : List α) :
    (∀ c ∈ coefficients, isNegligible c = true) ∨
      ∃ before leading rest, coefficients = before ++ leading :: rest ∧
        (∀ c ∈ before, isNegligible c = true) ∧ isNegligible leading = false := by
  induction coefficients with
  | nil => exact .inl (List.forall_mem_nil _)
  | cons c rest ih =>
      cases negligible : isNegligible c with
      | false => exact .inr ⟨[], c, rest, rfl, List.forall_mem_nil _, negligible⟩
      | true =>
          rcases ih with all | ⟨before, leading, later, same, small, significant⟩
          · exact .inl (List.forall_mem_cons.mpr ⟨negligible, all⟩)
          · refine .inr ⟨c :: before, leading, later, ?_, ?_, significant⟩
            · rw [same, List.cons_append]
            · exact List.forall_mem_cons.mpr ⟨negligible, small⟩

/-- Stripping takes coefficients from the front only. -/
theorem strip_suffix (coefficients : List α) : strip coefficients <:+ coefficients := by
  fun_induction strip coefficients with
  | case1 => exact List.suffix_rfl
  | case2 => exact List.suffix_rfl
  | case3 first second rest _ ih => exact ih.trans (List.suffix_cons _ _)
  | case4 => exact List.suffix_rfl

/-- A coefficient that counts as zero is stripped if it is not the last one. -/
theorem strip_cons_of_pos {first : α} {rest : List α} (negligible : isNegligible first = true)
    (notLast : rest ≠ []) : strip (first :: rest) = strip rest := by
  cases rest with
  | nil => exact absurd rfl notLast
  | cons second rest => rw [strip, if_pos negligible]

theorem strip_cons_of_neg {first : α} (significant : isNegligible first = false)
    (rest : List α) : strip (first :: rest) = first :: rest := by
  cases rest with
  | nil => rfl
  | cons second rest => rw [strip, significant, if_neg Bool.false_ne_true]

section Split

variable {before rest : List α} {leading : α} (small : ∀ c ∈ before, isNegligible c = true)
  (significant : isNegligible leading = false)
include small significant

theorem strip_of_split : strip (before ++ leading :: rest) = leading :: rest := by
  induction before with
  | nil => exact strip_cons_of_neg significant rest
  | cons first before ih =>
      rw [List.forall_mem_cons] at small
      rw [List.cons_append, strip_cons_of_pos small.1 (by simp), ih small.2]

/-- A list with a coefficient that counts is cut in front of the first such one. -/
theorem reduce_of_split {coefficients : List α}
    (cleaned : clean coefficients = before ++ leading :: rest) :
    reduce coefficients = (leading :: rest, false) := by
  rw [reduce, cleaned, strip_of_split small significant]
  simp [significant]

theorem normalize_of_split {coefficients : List α}
    (cleaned : clean coefficients = before ++ leading :: rest) :
    normalize coefficients = leading :: rest ∧ isZero coefficients = false := by
  constructor
  · rw [normalize, trim, cleaned, List.dropWhile_append_of_pos small,
      List.dropWhile_cons_of_neg (by simp [significant])]
  · simp [isZero, cleaned, significant]

end Split

/-- A list without a coefficient that counts is zero. -/
theorem reduce_of_forall {coefficients : List α}
    (small : ∀ c ∈ clean coefficients, isNegligible c = true) :
    reduce coefficients = ([0.0], true) := by
  have all : (strip (clean coefficients)).all isNegligible = true :=
    List.all_eq_true.mpr fun c member => small c ((strip_suffix _).subset member)
  rw [reduce, all, if_pos rfl]

/-- Cutting a list in one go finds what the two questions about it find one by one. -/
theorem reduce_eq (coefficients : List α) :
    reduce coefficients = (normalize coefficients, isZero coefficients) := by
  rcases exists_first_significant (clean coefficients) with
    small | ⟨before, leading, rest, cleaned, small, significant⟩
  · have zero : isZero coefficients = true := List.all_eq_true.mpr small
    have nothing : trim (clean coefficients) = [] := (trim_clean_eq_nil_iff coefficients).mpr zero
    rw [reduce_of_forall small, normalize, nothing, zero]
  · obtain ⟨same, notZero⟩ := normalize_of_split small significant cleaned
    rw [reduce_of_split small significant cleaned, same, notZero]

end Stripping

/-! ## Doubles -/

/-- What is missing, no number or infinite becomes zero, and nothing else changes. -/
theorem clean_ofNullable (given : Option (List (Option Float))) :
    clean (ofNullable given) = (given.getD []).map fun c => (c.filter Float.isFinite).getD 0.0 := by
  have gap : Binary64.notANumber.isFinite = false := by decide +kernel
  rw [clean, ofNullable, List.map_map]
  refine List.map_congr_left fun c _ => ?_
  cases c with
  | none => simp [Scalar.isFinite, gap]
  | some c => cases finite : c.isFinite <;> simp [Scalar.isFinite, Option.filter, finite]

theorem isFinite_of_mem_clean {coefficients : List Float} {c : Float}
    (member : c ∈ clean coefficients) : c.isFinite = true := by
  obtain ⟨given, -, rfl⟩ := List.mem_map.mp member
  split
  · assumption
  · decide +kernel

theorem clean_eq_self {coefficients : List Float}
    (finite : ∀ c ∈ coefficients, c.isFinite = true) : clean coefficients = coefficients := by
  have kept : ∀ c ∈ coefficients, (if Scalar.isFinite c then c else 0.0) = id c :=
    fun c member => if_pos (finite c member)
  rw [clean, List.map_congr_left kept, List.map_id]

theorem isFinite_abs (c : Float) : (Scalar.abs c).isFinite = c.isFinite := by
  unfold Scalar.abs
  split
  · exact Binary64.isFinite_neg c
  · rfl

/-- A finite coefficient counts if its magnitude comes to the tolerance. -/
theorem le_abs_of_significant {c : Float} (finite : c.isFinite = true)
    (significant : isNegligible c = false) : 1e-12 ≤ Scalar.abs c := by
  have notLess : ¬ Scalar.abs c < 1e-12 := by
    rw [← isNegligible_iff_lt, significant]
    exact Bool.false_ne_true
  have isNumber {x : Float} (finite : x.isFinite = true) : x.isNaN = false := by
    rw [Binary64.isFinite_eq] at finite
    simp_all
  refine (Binary64.not_lt_iff (isNumber ?_) (isNumber ?_)).mp notLess
  · rw [isFinite_abs, finite]
  · decide +kernel

/-- A coefficient that counts is not zero. -/
theorem ne_zero_of_significant {c : Float} (significant : isNegligible c = false) :
    (c == 0.0) = false := by
  rw [Bool.eq_false_iff]
  intro same
  rw [Payload.isNegligible_of_eq_zero same] at significant
  cases significant

/-- Cutting what has been cut changes nothing. -/
theorem reduce_reduce (coefficients : List Float) :
    reduce (reduce coefficients).1 = reduce coefficients := by
  rcases exists_first_significant (clean coefficients) with
    small | ⟨before, leading, rest, cleaned, small, significant⟩
  · rw [reduce_of_forall small]
    decide +kernel
  · rw [reduce_of_split small significant cleaned]
    have finite : ∀ c ∈ leading :: rest, c.isFinite = true := by
      intro c member
      have inside : c ∈ clean coefficients := by
        rw [cleaned]
        exact List.mem_append_right before member
      exact isFinite_of_mem_clean inside
    exact reduce_of_split (List.forall_mem_nil _) significant (clean_eq_self finite)

/-! ## Realizations -/

/-- The model of a numerator and of a denominator, all divided by the leading coefficient of the
latter. -/
def dividedModel (num : List Float) (leading : Float) (rest : List Float) : StateSpace Float :=
  if rest = [] then ⟨[], [], [], num.headD 0.0 / leading⟩
  else StateSpace.canonical (rest.map (· / leading))
    ((StateSpace.fit (rest.length + 1) num).map (· / leading))

/-- The recurrence of a numerator and of a denominator, all divided by the leading coefficient of the
latter. -/
def dividedRecurrence (num : List Float) (leading : Float) (rest : List Float) :
    Recurrence Float :=
  ⟨(Recurrence.numerator num).map (· / leading), (leading :: rest).map (· / leading)⟩

/-- Nothing is realized of a denominator that is zero; a recurrence takes one in its place. -/
theorem realizations_of_zero {den : List Float} (zero : (reduce den).2 = true)
    (num : List Float) : StateSpace.realize? num den = none ∧
      Recurrence.realize num den = dividedRecurrence num 1.0 [] := by
  have isZero : isZero den = true := by rwa [reduce_eq] at zero
  constructor
  · rw [StateSpace.realize?, isZero, if_pos rfl]
  · rw [Recurrence.realize, Recurrence.denominator, isZero]
    rfl

/-- Of any other denominator both realizations divide by the first coefficient that counts. -/
theorem realizations_of_reduce {den rest : List Float} {leading : Float}
    (reduced : reduce den = (leading :: rest, false)) (num : List Float) :
    StateSpace.realize? num den = some (dividedModel (reduce num).1 leading rest) ∧
      Recurrence.realize num den = dividedRecurrence num leading rest := by
  rw [reduce_eq, Prod.mk.injEq] at reduced
  obtain ⟨normalized, notZero⟩ := reduced
  rw [reduce_eq num]
  constructor
  · rw [StateSpace.realize?, notZero, normalized]
    cases rest <;> rfl
  · rw [Recurrence.realize, Recurrence.denominator, notZero, normalized]
    rfl

/-- **Cutting coefficients comes to one rule.** Missing coefficients and those that are not finite
count as zero. If all magnitudes are below the tolerance, the polynomial is zero. Otherwise what is
left are the coefficients from the first one on that reaches the tolerance. This one is not zero, and
it is what both realizations divide by. Cutting the result once more changes nothing. -/
theorem reduce_normalizes (given : Option (List (Option Float))) :
    let coefficients := ofNullable given
    let cleaned := (given.getD []).map fun c => (c.filter Float.isFinite).getD 0.0
    ((reduce coefficients).2 = true ↔ ∀ c ∈ cleaned, Scalar.abs c < 1e-12) ∧
    ((reduce coefficients).2 = true → (reduce coefficients).1 = [0.0] ∧
      ∀ num, StateSpace.realize? num coefficients = none ∧
        Recurrence.realize num coefficients = dividedRecurrence num 1.0 []) ∧
    ((reduce coefficients).2 = false → ∃ before leading rest,
      cleaned = before ++ leading :: rest ∧ (∀ c ∈ before, Scalar.abs c < 1e-12) ∧
      1e-12 ≤ Scalar.abs leading ∧ (leading == 0.0) = false ∧
      (reduce coefficients).1 = leading :: rest ∧
      ∀ num, StateSpace.realize? num coefficients =
          some (dividedModel (reduce num).1 leading rest) ∧
        Recurrence.realize num coefficients = dividedRecurrence num leading rest) ∧
    reduce (reduce coefficients).1 = reduce coefficients := by
  intro coefficients cleaned
  have same : clean coefficients = cleaned := clean_ofNullable given
  simp only [← isNegligible_iff_lt]
  rw [← same]
  refine ⟨?_, fun zero => ⟨?_, realizations_of_zero zero⟩, fun counts => ?_,
    reduce_reduce coefficients⟩
  · rw [reduce_eq]
    exact List.all_eq_true
  · rcases exists_first_significant (clean coefficients) with
      small | ⟨before, leading, rest, parted, small, significant⟩
    · rw [reduce_of_forall small]
    · rw [reduce_of_split small significant parted] at zero
      cases zero
  · rcases exists_first_significant (clean coefficients) with
      small | ⟨before, leading, rest, parted, small, significant⟩
    · rw [reduce_of_forall small] at counts
      cases counts
    · have reduced := reduce_of_split small significant parted
      have finite : leading.isFinite = true :=
        isFinite_of_mem_clean (parted ▸ List.mem_append_right before List.mem_cons_self)
      exact ⟨before, leading, rest, parted, small, le_abs_of_significant finite significant,
        ne_zero_of_significant significant, congrArg Prod.fst reduced,
        realizations_of_reduce reduced⟩

/-- Small coefficients stay behind the first one that counts, and a list of nothing but small ones,
gaps and infinities is zero. -/
example :
    reduce (ofNullable (some [none, some 1e-13, some 2.0, none, some 1e-13])) =
        ([2.0, 0.0, 1e-13], false) ∧
      reduce (ofNullable (some [some (1.0 / 0.0), some (-1e-13)])) = ([0.0], true) := by
  decide +kernel

end SignalFlow.Polynomial
