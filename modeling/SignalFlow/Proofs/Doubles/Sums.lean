import SignalFlow.Proofs.Doubles.Nearest

/-! # Sums of doubles

The sum of two finite doubles is the double nearest to the sum of their units
(`Binary64.signedUnits_add`), and a sum with an infinite double is infinite. So a finite double may
be added to both sides of an inequality (`Binary64.add_le_add_right`).
-/

namespace SignalFlow.Binary64

open Float.Model Float.Model.UnpackedFloat

theorem apply_mul (sign : Sign) (n m : Int) : sign.apply n * m = sign.apply (n * m) := by
  cases sign
  · exact Int.neg_mul n m
  · rfl

theorem nearestUnits_apply_mul (sign : Sign) (n : Nat) (exponent : Int) :
    nearestUnits (sign.apply n * 2 ^ (exponent + 1074).toNat) =
      sign.apply (min (roundUnits (units n exponent)) boundary : Nat) := by
  rw [apply_mul, ← nearestUnits_apply, units_eq]
  norm_cast

/-- A whole multiple of a power of two is rounded to the double nearest to its units. -/
theorem unitsOf_normalize (mantissa : Int) {exponent : Int} (low : -1074 ≤ exponent) (sign : Sign) :
    (Float.Model.pack (UnpackedFloat.normalize .binary64 mantissa exponent sign)).unpack ≠
        .notANumber ∧
      unitsOf (Float.Model.pack
          (UnpackedFloat.normalize .binary64 mantissa exponent sign)).unpack =
        nearestUnits (mantissa * 2 ^ (exponent + 1074).toNat) := by
  unfold UnpackedFloat.normalize
  rcases order : compare mantissa 0 with _ | _ | _
  · have negative := Int.compare_eq_lt.mp order
    obtain ⟨n, rfl⟩ : ∃ n : Nat, mantissa = -n := ⟨mantissa.natAbs, by omega⟩
    have product : nearestUnits (-(n : Int) * 2 ^ (exponent + 1074).toNat) = _ :=
      nearestUnits_apply_mul .negative n exponent
    rw [product]
    dsimp only
    rw [Int.neg_neg, Int.toNat_natCast]
    exact unitsOf_round (by omega) low
  · obtain rfl := Int.compare_eq_eq.mp order
    rw [Int.zero_mul, nearestUnits_zero]
    dsimp only
    rw [unpack_pack_zero]
    exact ⟨by simp, rfl⟩
  · have positive := Int.compare_eq_gt.mp order
    obtain ⟨n, rfl⟩ : ∃ n : Nat, mantissa = n := ⟨mantissa.natAbs, by omega⟩
    have product : nearestUnits ((n : Int) * 2 ^ (exponent + 1074).toNat) = _ :=
      nearestUnits_apply_mul .positive n exponent
    rw [product]
    dsimp only
    rw [Int.toNat_natCast]
    exact unitsOf_round (by omega) low

/-- A mantissa that is taken to a smaller exponent keeps its units. -/
theorem apply_shiftLeft_mul (sign : Sign) (mantissa : Nat) {exponent start : Int}
    (below : start ≤ exponent) (low : -1074 ≤ start) :
    sign.apply ((mantissa <<< (exponent - start).toNat : Nat) : Int) * 2 ^ (start + 1074).toNat =
      sign.apply (units mantissa exponent) := by
  have scale : (exponent + 1074).toNat = (exponent - start).toNat + (start + 1074).toNat := by omega
  rw [apply_mul, units_eq, scale, Nat.shiftLeft_eq, Nat.pow_add, ← Nat.mul_assoc]
  norm_cast

/-- The sum of two finite numbers is rounded to the double nearest to the sum of their units. -/
theorem unitsOf_add {first second : UnpackedFloat} (hasFirst : HasDouble first)
    (hasSecond : HasDouble second) (firstFinite : first.isFinite = true)
    (secondFinite : second.isFinite = true) :
    (Float.Model.pack (UnpackedFloat.add Format.binary64 first second)).unpack ≠ .notANumber ∧
      unitsOf (Float.Model.pack (UnpackedFloat.add Format.binary64 first second)).unpack =
        nearestUnits (unitsOf first + unitsOf second) := by
  have nearestFirst := nearestUnits_unitsOf hasFirst firstFinite
  have nearestSecond := nearestUnits_unitsOf hasSecond secondFinite
  cases first with
  | notANumber => cases firstFinite
  | infinity => cases firstFinite
  | zero s₁ =>
      rw [show unitsOf (.zero s₁) = 0 from rfl, Int.zero_add, nearestSecond]
      cases second with
      | notANumber => cases secondFinite
      | infinity => cases secondFinite
      | zero s₂ =>
          obtain ⟨sign, sum⟩ : ∃ sign,
              UnpackedFloat.add Format.binary64 (.zero s₁) (.zero s₂) = .zero sign := by
            cases s₁ <;> cases s₂ <;> exact ⟨_, rfl⟩
          rw [sum, unpack_pack_zero]
          exact ⟨by simp, rfl⟩
      | finite s₂ m₂ e₂ p₂ =>
          change (Float.Model.pack (.finite s₂ m₂ e₂ p₂)).unpack ≠ _ ∧
            unitsOf (Float.Model.pack (.finite s₂ m₂ e₂ p₂)).unpack = _
          rw [unpack_pack_finite hasSecond]
          exact ⟨by simp, rfl⟩
  | finite s₁ m₁ e₁ p₁ =>
      cases second with
      | notANumber => cases secondFinite
      | infinity => cases secondFinite
      | zero s₂ =>
          rw [show unitsOf (.zero s₂) = 0 from rfl, Int.add_zero, nearestFirst]
          change (Float.Model.pack (.finite s₁ m₁ e₁ p₁)).unpack ≠ _ ∧
            unitsOf (Float.Model.pack (.finite s₁ m₁ e₁ p₁)).unpack = _
          rw [unpack_pack_finite hasFirst]
          exact ⟨by simp, rfl⟩
      | finite s₂ m₂ e₂ p₂ =>
          have firstLow := hasFirst.low
          have secondLow := hasSecond.low
          have low : -1074 ≤ min e₁ e₂ := by omega
          rw [unitsOf, unitsOf, ← apply_shiftLeft_mul s₁ m₁ (Int.min_le_left e₁ e₂) low,
            ← apply_shiftLeft_mul s₂ m₂ (Int.min_le_right e₁ e₂) low, ← Int.add_mul]
          exact unitsOf_normalize _ low .positive

section Add

variable {x y c : Float}

/-- **The sum of two finite doubles is the double nearest to the sum of their units.** -/
theorem signedUnits_add (xFinite : x.isFinite = true) (yFinite : y.isFinite = true) :
    (x + y).isNaN = false ∧ signedUnits (x + y) = nearestUnits (signedUnits x + signedUnits y) := by
  rw [isNaN_eq_false_iff]
  exact unitsOf_add (hasDouble_unpack x) (hasDouble_unpack y) xFinite yFinite

/-- A sum with an infinite double is infinite. -/
theorem unpack_add_of_infinite {sign : Sign} (infinite : x.toModel.unpack = .infinity sign)
    (cFinite : c.isFinite = true) : (x + c).toModel.unpack = .infinity sign := by
  change c.toModel.unpack.isFinite = true at cFinite
  change (Float.Model.pack (UnpackedFloat.add Format.binary64 x.toModel.unpack
    c.toModel.unpack)).unpack = _
  rw [infinite]
  cases unpacked : c.toModel.unpack with
  | notANumber => rw [unpacked] at cFinite; cases cFinite
  | infinity => rw [unpacked] at cFinite; cases cFinite
  | zero => exact unpack_pack_infinity sign
  | finite => exact unpack_pack_infinity sign

/-- A double that is a number is finite or infinite. -/
theorem isFinite_or_infinite (xIsNumber : x.isNaN = false) :
    x.isFinite = true ∨ ∃ sign, x.toModel.unpack = .infinity sign := by
  rw [isNaN_eq_false_iff] at xIsNumber
  change x.toModel.unpack.isFinite = true ∨ _
  cases unpacked : x.toModel.unpack with
  | notANumber => exact absurd unpacked xIsNumber
  | infinity sign => exact .inr ⟨sign, rfl⟩
  | zero => exact .inl rfl
  | finite => exact .inl rfl

variable (cFinite : c.isFinite = true)
include cFinite

theorem isNaN_add (xIsNumber : x.isNaN = false) : (x + c).isNaN = false := by
  rcases isFinite_or_infinite xIsNumber with finite | ⟨sign, infinite⟩
  · exact (signedUnits_add finite cFinite).1
  · rw [isNaN_eq_false_iff, unpack_add_of_infinite infinite cFinite]
    simp

/-- **A finite double may be added to both sides of an inequality.** -/
protected theorem add_le_add_right (le : x ≤ y) : x + c ≤ y + c := by
  obtain ⟨xIsNumber, yIsNumber⟩ := isNaN_of_le le
  rw [le_iff_signedUnits (isNaN_add cFinite xIsNumber) (isNaN_add cFinite yIsNumber)]
  rw [le_iff_signedUnits xIsNumber yIsNumber] at le
  have unitsOf_infinite {z : Float} {sign : Sign} (infinite : z.toModel.unpack = .infinity sign) :
      signedUnits z = sign.apply boundary := by rw [signedUnits, infinite]; rfl
  have xInside := unitsOf_inside (hasDouble_unpack x)
  have yInside := unitsOf_inside (hasDouble_unpack y)
  change _ → -_ < signedUnits x ∧ signedUnits x < _ at xInside
  change _ → -_ < signedUnits y ∧ signedUnits y < _ at yInside
  rcases isFinite_or_infinite xIsNumber with xFinite | ⟨s, xInfinite⟩
  · rcases isFinite_or_infinite yIsNumber with yFinite | ⟨t, yInfinite⟩
    · rw [(signedUnits_add xFinite cFinite).2, (signedUnits_add yFinite cFinite).2]
      exact nearestUnits_mono (by omega)
    · rw [unitsOf_infinite (unpack_add_of_infinite yInfinite cFinite)]
      rw [unitsOf_infinite yInfinite] at le
      cases t with
      | negative => exact absurd le (Int.not_le.mpr (xInside xFinite).1)
      | positive => exact (signedUnits_bounds _).2
  · rw [unitsOf_infinite (unpack_add_of_infinite xInfinite cFinite)]
    rw [unitsOf_infinite xInfinite] at le
    cases s with
    | negative => exact (signedUnits_bounds _).1
    | positive =>
        rcases isFinite_or_infinite yIsNumber with yFinite | ⟨t, yInfinite⟩
        · exact absurd le (Int.not_le.mpr (yInside yFinite).2)
        · rw [unitsOf_infinite (unpack_add_of_infinite yInfinite cFinite)]
          rwa [unitsOf_infinite yInfinite] at le

end Add

end SignalFlow.Binary64
