import SignalFlow.Proofs.Doubles.Order

/-! # The nearest double

A number of units is rounded to the double nearest to it (`Binary64.nearestUnits`): to 53 bits, and
to an infinite double from the boundary on (`Binary64.unitsOf_round`). The more units, the more units
has the nearest double (`Binary64.nearestUnits_mono`), and a double is the nearest one to itself.
-/

namespace SignalFlow.Binary64

open Float.Model Float.Model.UnpackedFloat

/-! ## Quotients rounded to whole numbers -/

section RoundDiv

variable {a b n d : Nat}

theorem div_le_roundDiv (n d : Nat) : n / d ≤ roundDiv n d := by
  unfold roundDiv
  dsimp only
  split
  · exact Nat.le_refl _
  · split <;> omega

theorem roundDiv_le (n d : Nat) : roundDiv n d ≤ n / d + 1 := by
  unfold roundDiv
  dsimp only
  split
  · omega
  · split <;> omega

theorem roundDiv_mul (positive : 0 < d) (n : Nat) : roundDiv (n * d) d = n := by
  unfold roundDiv
  rw [Nat.mul_mod_left, Nat.mul_div_cancel _ positive]
  exact if_pos positive

theorem roundDiv_mul_mul (positive : 0 < a) (n d : Nat) :
    roundDiv (n * a) (d * a) = roundDiv n d := by
  unfold roundDiv
  have twice : 2 * (n * a % (d * a)) = 2 * (n % d) * a := by
    rw [Nat.mul_mod_mul_right, Nat.mul_assoc]
  simp only [twice, Nat.mul_div_mul_right _ _ positive, Nat.mul_lt_mul_right positive]

/-- The larger a number, the larger its quotient. -/
theorem roundDiv_mono (le : a ≤ b) (d : Nat) : roundDiv a d ≤ roundDiv b d := by
  rcases Nat.lt_or_eq_of_le (Nat.div_le_div_right (c := d) le) with less | same
  · have := roundDiv_le a d
    have := div_le_roundDiv b d
    omega
  · have rest : a % d ≤ b % d := by
      have := Nat.div_add_mod a d
      have := Nat.div_add_mod b d
      rw [same] at *
      omega
    unfold roundDiv
    dsimp only
    rw [same]
    generalize b / d = quotient
    split_ifs <;> omega

end RoundDiv

/-! ## Rounding a mantissa -/

/-- The residual bits behind a mantissa that has been shifted tell whether what has been lost is at
least a half, and whether it is neither nothing nor a half. -/
theorem residue_shiftRight (mantissa count : Nat) :
    ((ExtendedMantissa.mk mantissa false false >>> count).roundBit = true ↔
      2 ^ count ≤ 2 * (mantissa % 2 ^ count)) ∧
    ((ExtendedMantissa.mk mantissa false false >>> count).stickyBit = true ↔
      2 * (mantissa % 2 ^ count) % 2 ^ count ≠ 0) := by
  induction count with
  | zero =>
      rw [Nat.pow_zero, Nat.mod_one]
      exact ⟨iff_of_false Bool.false_ne_true (by decide), iff_of_false Bool.false_ne_true (by decide)⟩
  | succ count ih =>
      have sticky : (ExtendedMantissa.mk mantissa false false >>> (count + 1)).stickyBit =
          ((ExtendedMantissa.mk mantissa false false >>> count).roundBit ||
            (ExtendedMantissa.mk mantissa false false >>> count).stickyBit) := rfl
      rw [sticky, roundBit_shiftRight_succ, Bool.or_eq_true, ih.1, ih.2, bne_iff_ne, Nat.pow_succ,
        Nat.mod_mul]
      have positive : 0 < 2 ^ count := by positivity
      have rest : mantissa % 2 ^ count < 2 ^ count := Nat.mod_lt _ positive
      generalize mantissa / 2 ^ count = quotient
      generalize mantissa % 2 ^ count = lost at *
      generalize 2 ^ count = unit at *
      have remains : 2 * (lost + unit * (quotient % 2)) % (unit * 2) = 2 * lost := by
        have double : 2 * (lost + unit * (quotient % 2)) = 2 * lost + unit * 2 * (quotient % 2) := by
          ring
        rw [double, Nat.add_mul_mod_self_left, Nat.mod_eq_of_lt (by omega)]
      constructor
      · rcases Nat.mod_two_eq_zero_or_one quotient with even | odd
        · rw [even]
          omega
        · rw [odd]
          omega
      · rw [remains]
        rcases Nat.lt_or_ge (2 * lost) unit with less | more
        · rw [Nat.mod_eq_of_lt less]
          omega
        · omega

/-- A mantissa is rounded to the nearest whole number of what it is shifted by. -/
theorem roundedMantissa_shifted (mantissa : Nat) (exponent : Int) :
    (shifted mantissa exponent .exact).roundedMantissa =
      roundDiv mantissa (2 ^ shiftCount mantissa exponent) := by
  have quotient := mantissa_shifted mantissa exponent .exact
  have residue := residue_shiftRight mantissa (shiftCount mantissa exponent)
  change ((shifted mantissa exponent .exact).roundBit = true ↔ _) ∧
    ((shifted mantissa exponent .exact).stickyBit = true ↔ _) at residue
  have positive : 0 < 2 ^ shiftCount mantissa exponent := by positivity
  have rest := Nat.mod_lt mantissa positive
  unfold roundDiv
  dsimp only
  rw [← quotient]
  generalize 2 ^ shiftCount mantissa exponent = unit at *
  generalize mantissa % unit = lost at *
  have once : 2 * lost % unit = if 2 * lost < unit then 2 * lost else 2 * lost - unit := by
    split
    · exact Nat.mod_eq_of_lt ‹_›
    · rw [Nat.mod_eq_sub_mod (by omega), Nat.mod_eq_of_lt (by omega)]
  rw [once] at residue
  generalize shifted mantissa exponent .exact = extended at *
  obtain ⟨whole, round, sticky⟩ := extended
  obtain ⟨half, other⟩ := residue
  dsimp only at half other ⊢
  cases round with
  | false =>
      rw [roundedMantissa_of_roundBit_eq_false rfl, if_pos]
      simpa using half
  | true =>
      have above : unit ≤ 2 * lost := half.mp rfl
      rw [if_neg (by omega)] at other ⊢
      cases sticky with
      | false =>
          rw [if_neg]
          · rfl
          · have : ¬ 2 * lost - unit ≠ 0 := fun more => Bool.false_ne_true (other.mpr more)
            omega
      | true =>
          rw [if_pos]
          · rfl
          · have := other.mp rfl
            omega

/-! ## Packing and unpacking -/

theorem unpack_pack (number : UnpackedFloat) : (Float.Model.pack number).unpack =
    UnpackedFloat.unpack Format.binary64 (UnpackedFloat.pack Format.binary64 number) := rfl

theorem unpack_pack_infinity (sign : Sign) :
    (Float.Model.pack (.infinity sign)).unpack = .infinity sign := by
  change UnpackedFloat.unpack Format.binary64 (packedInfinity Format.binary64 sign) = _
  simp [UnpackedFloat.unpack, packedInfinity]

theorem unpack_pack_zero (sign : Sign) : (Float.Model.pack (.zero sign)).unpack = .zero sign :=
  unpack_packedZero

/-- The bits of a finite number by its sign, biased exponent and fraction. -/
theorem pack_finite {sign : Sign} {mantissa : Nat} {exponent : Int} {positive : 0 < mantissa}
    (canonical : IsCanonical mantissa exponent) :
    UnpackedFloat.pack Format.binary64 (.finite sign mantissa exponent positive) =
      packComponents Format.binary64 sign
        (BitVec.ofNat _ (if mantissa < 2 ^ 52 then 0 else (exponent + 1075).toNat))
        (BitVec.ofNat _ mantissa) := by
  obtain ⟨fits, low, high, normal⟩ := canonical
  have inside : ¬ 2 ^ Format.binary64.exponentBits ≤ (exponent + (Format.binary64.exponentBias : Int) +
      (Format.binary64.mantissaBitsWithoutImplicit : Int)).toNat + 1 := by
    change ¬ 2 ^ 11 ≤ (exponent + 1023 + 52).toNat + 1
    omega
  have nonzero := Nat.ne_of_gt positive
  unfold UnpackedFloat.pack
  dsimp only
  rw [if_neg inside]
  by_cases small : mantissa < 2 ^ 52
  · have := (Nat.log2_lt nonzero).mpr small
    have short : ¬ mantissa.log2 + 1 = Format.binary64.mantissaBits := by
      change ¬ mantissa.log2 + 1 = 53
      omega
    rw [if_neg short, if_pos small]
  · have := (Nat.log2_lt nonzero).mpr fits
    have := (Nat.le_log2 nonzero).mpr (Nat.not_lt.mp small)
    have whole : mantissa.log2 + 1 = Format.binary64.mantissaBits := by
      change mantissa.log2 + 1 = 53
      omega
    rw [if_pos whole, if_neg small, Int.add_assoc]
    rfl

/-- A finite double is packed and unpacked. -/
theorem unpack_pack_finite {sign : Sign} {mantissa : Nat} {exponent : Int} {positive : 0 < mantissa}
    (canonical : IsCanonical mantissa exponent) :
    (Float.Model.pack (.finite sign mantissa exponent positive)).unpack =
      .finite sign mantissa exponent positive := by
  rw [unpack_pack, pack_finite canonical]
  obtain ⟨fits, low, high, normal⟩ := canonical
  have fraction : (BitVec.ofNat Format.binary64.mantissaBitsWithoutImplicit mantissa).toNat =
    mantissa % 2 ^ 52 := BitVec.toNat_ofNat ..
  unfold UnpackedFloat.unpack
  simp only [unpackExponent_packComponents, unpackMantissa_packComponents,
    unpackSign_packComponents, Sign.ofBitVec_toBitVec]
  by_cases small : mantissa < 2 ^ 52
  · rw [if_pos small, if_neg (by decide), if_pos rfl, dif_neg]
    · obtain rfl : exponent = -1074 := normal.resolve_left (by omega)
      congr 1
      rw [fraction, Nat.mod_eq_of_lt small]
    · rw [← BitVec.toNat_inj, fraction, Nat.mod_eq_of_lt small]
      exact Nat.ne_of_gt positive
  · have biased : (BitVec.ofNat Format.binary64.exponentBits (exponent + 1075).toNat).toNat =
        (exponent + 1075).toNat := by
      rw [BitVec.toNat_ofNat]
      exact Nat.mod_eq_of_lt (show _ < 2 ^ 11 by omega)
    rw [if_neg small, if_neg, if_neg]
    · congr 1
      · rw [BitVec.toNat_append, ← Nat.shiftLeft_add_eq_or_of_lt (BitVec.isLt _), fraction]
        change 2 ^ 52 + mantissa % 2 ^ 52 = mantissa
        omega
      · rw [biased]
        change ((exponent + 1075).toNat : Int) - (1023 + 52) = exponent
        omega
    · rw [← BitVec.toNat_inj, biased]
      change ¬ (exponent + 1075).toNat = 0
      omega
    · rw [← BitVec.toNat_inj, biased]
      change ¬ (exponent + 1075).toNat = 2047
      omega

/-- What is too large for a finite double is packed as an infinite one. -/
theorem unpack_pack_of_lt {sign : Sign} {mantissa : Nat} {exponent : Int} {positive : 0 < mantissa}
    (high : 971 < exponent) :
    (Float.Model.pack (.finite sign mantissa exponent positive)).unpack = .infinity sign := by
  have overflow : 2 ^ Format.binary64.exponentBits ≤ (exponent + (Format.binary64.exponentBias : Int) +
      (Format.binary64.mantissaBitsWithoutImplicit : Int)).toNat + 1 := by
    change 2 ^ 11 ≤ (exponent + 1023 + 52).toNat + 1
    omega
  have packed : UnpackedFloat.pack Format.binary64 (.finite sign mantissa exponent positive) =
      packedInfinity Format.binary64 sign := by
    unfold UnpackedFloat.pack
    exact if_pos overflow
  rw [unpack_pack, packed]
  exact unpack_pack_infinity sign

/-- A finite number is packed as the double of its units, or as an infinite one from the boundary
on. -/
theorem unitsOf_pack_dite (sign : Sign) {mantissa : Nat} {exponent : Int}
    (fits : mantissa < 2 ^ 53) (low : -1074 ≤ exponent)
    (normal : 2 ^ 52 ≤ mantissa ∨ exponent = -1074) :
    (Float.Model.pack (if zero : mantissa = 0 then .zero sign
      else .finite sign mantissa exponent (Nat.pos_of_ne_zero zero))).unpack ≠ .notANumber ∧
    unitsOf (Float.Model.pack (if zero : mantissa = 0 then .zero sign
      else .finite sign mantissa exponent (Nat.pos_of_ne_zero zero))).unpack =
        sign.apply (min (units mantissa exponent) boundary : Nat) := by
  by_cases zero : mantissa = 0
  · rw [dif_pos zero, unpack_pack_zero, zero]
    refine ⟨by simp, ?_⟩
    rw [units_eq, Nat.zero_mul, Nat.zero_min]
    cases sign <;> rfl
  · rw [dif_neg zero]
    by_cases high : exponent ≤ 971
    · have canonical : IsCanonical mantissa exponent := ⟨fits, low, high, normal⟩
      rw [unpack_pack_finite canonical, Nat.min_eq_left (units_lt_boundary canonical).le]
      exact ⟨by simp, rfl⟩
    · have large : boundary ≤ units mantissa exponent := by
        rw [boundary, units_eq, units_eq]
        exact Nat.mul_le_mul (normal.resolve_right (by omega))
          (Nat.pow_le_pow_right (by decide) (by omega))
      rw [unpack_pack_of_lt (by omega), Nat.min_eq_right large]
      exact ⟨by simp, rfl⟩

/-! ## Rounding units -/

/-- A number of units rounded to 53 bits. -/
def roundUnits (n : Nat) : Nat :=
  roundDiv n (2 ^ (n.log2 - 52)) * 2 ^ (n.log2 - 52)

/-- The units of the double nearest to some units. -/
def nearestUnits (n : Int) : Int := n.sign * (min (roundUnits n.natAbs) boundary : Nat)

theorem shiftCount_of_low {mantissa : Nat} {exponent : Int} (low : -1074 ≤ exponent) :
    shiftCount mantissa exponent = mantissa.log2 - 52 := by
  unfold shiftCount totalExponent
  omega

theorem units_zero (exponent : Int) : units 0 exponent = 0 := Nat.zero_mul _

/-- Rounding a mantissa rounds the units. -/
theorem units_roundDiv {mantissa : Nat} {exponent : Int} (low : -1074 ≤ exponent)
    (normal : 52 ≤ mantissa.log2 ∨ exponent = -1074) :
    units (roundDiv mantissa (2 ^ (mantissa.log2 - 52))) (exponent + (mantissa.log2 - 52 : Nat)) =
      roundUnits (units mantissa exponent) := by
  rcases Nat.eq_zero_or_pos mantissa with rfl | positive
  · rw [units_zero]
    exact units_zero _
  · have log : (units mantissa exponent).log2 - 52 =
        mantissa.log2 - 52 + (exponent + 1074).toNat := by
      rw [units_eq, log2_mul_two_pow positive]
      omega
    have scale : (exponent + (mantissa.log2 - 52 : Nat) + 1074).toNat =
        mantissa.log2 - 52 + (exponent + 1074).toNat := by omega
    rw [roundUnits, log, units_eq, scale, units_eq, Nat.pow_add, roundDiv_mul_mul (by positivity)]

/-- What a mantissa is rounded to fits, but for the next power of two, which is shifted once more. -/
theorem shifted_whole {whole : Nat} {start : Int} (bound : whole ≤ 2 ^ 53) (low : -1074 ≤ start)
    (normal : 2 ^ 52 ≤ whole ∨ start = -1074) :
    (shifted whole start .exact).mantissa < 2 ^ 53 ∧
      (2 ^ 52 ≤ (shifted whole start .exact).mantissa ∨ start + shiftCount whole start = -1074) ∧
      units (shifted whole start .exact).mantissa (start + shiftCount whole start) =
        units whole start := by
  rw [mantissa_shifted]
  rcases Nat.lt_or_eq_of_le bound with below | rfl
  · rw [shiftCount_eq_zero below low, Nat.pow_zero, Nat.div_one]
    refine ⟨below, ?_, ?_⟩
    · simpa using normal
    · simp
  · rw [shiftCount_two_pow low]
    refine ⟨by decide, .inl (by decide), ?_⟩
    have scale : (start + (1 : Nat) + 1074).toNat = 1 + (start + 1074).toNat := by omega
    rw [units_eq, units_eq, scale, Nat.pow_add, ← Nat.mul_assoc]
    rfl

/-- A mantissa of at least 53 bits, or with the least exponent, is rounded to the double nearest to
its units. -/
theorem unitsOf_rounded {sign : Sign} {mantissa : Nat} {exponent : Int} (low : -1074 ≤ exponent)
    (normal : 52 ≤ mantissa.log2 ∨ exponent = -1074) :
    (rounded sign mantissa exponent .exact).unpack ≠ .notANumber ∧
      unitsOf (rounded sign mantissa exponent .exact).unpack =
        sign.apply (min (roundUnits (units mantissa exponent)) boundary : Nat) := by
  have count : shiftCount mantissa exponent = mantissa.log2 - 52 := shiftCount_of_low low
  have whole := roundedMantissa_shifted mantissa exponent
  have bound : (shifted mantissa exponent .exact).roundedMantissa ≤ 2 ^ 53 := by
    have := roundedMantissa_le (shifted mantissa exponent .exact)
    have := mantissa_shifted_lt mantissa exponent .exact
    omega
  have startLow : -1074 ≤ exponent + (shiftCount mantissa exponent : Int) := by omega
  have startNormal : 2 ^ 52 ≤ (shifted mantissa exponent .exact).roundedMantissa ∨
      exponent + (shiftCount mantissa exponent : Int) = -1074 := by
    rcases Nat.lt_or_ge mantissa.log2 52 with short | long
    · exact .inr (by omega)
    · refine .inl (Nat.le_trans ?_ (le_roundedMantissa _))
      have positive : mantissa ≠ 0 := by
        rintro rfl
        exact absurd long (by decide)
      rw [mantissa_shifted, count, Nat.le_div_iff_mul_le (by positivity), ← Nat.pow_add]
      exact (Nat.pow_le_pow_right (by decide) (by omega)).trans (Nat.log2_self_le positive)
  obtain ⟨fits, lastNormal, same⟩ := shifted_whole bound startLow startNormal
  rw [whole, count, units_roundDiv low normal, ← count, ← whole] at same
  have packed := unitsOf_pack_dite sign fits (by omega) lastNormal
  rw [same] at packed
  exact packed

/-- A finite number is rounded to the double nearest to its units. -/
theorem unitsOf_round {sign : Sign} {mantissa : Nat} {exponent : Int} (positive : 0 < mantissa)
    (low : -1074 ≤ exponent) :
    (Float.Model.pack (UnpackedFloat.round Format.binary64 sign mantissa exponent)).unpack ≠
        .notANumber ∧
      unitsOf (Float.Model.pack
        (UnpackedFloat.round Format.binary64 sign mantissa exponent)).unpack =
        sign.apply (min (roundUnits (units mantissa exponent)) boundary : Nat) := by
  unfold UnpackedFloat.round decreaseExponent
  dsimp only
  rw [targetExponent_eq, totalExponent, Nat.shiftLeft_eq]
  generalize shift_eq :
    (exponent - max ((mantissa.log2 : Int) + 1 + exponent - 53) (-1074)).toNat = shift
  -- The mantissa is given 53 bits, unless the exponent becomes the least one before.
  have log := log2_mul_two_pow positive shift
  have scaled : units (mantissa * 2 ^ shift) (exponent - shift) = units mantissa exponent := by
    have scale : (exponent + 1074).toNat = shift + (exponent - shift + 1074).toNat := by omega
    rw [units_eq, units_eq, scale, Nat.pow_add, Nat.mul_assoc]
  rw [← scaled]
  exact unitsOf_rounded (by omega) (by omega)

/-! ## Rounding keeps the order -/

theorem roundUnits_mono {n m : Nat} (le : n ≤ m) : roundUnits n ≤ roundUnits m := by
  rcases Nat.eq_zero_or_pos n with rfl | positive
  · exact Nat.zero_le _
  have logs : n.log2 ≤ m.log2 := by
    rw [Nat.le_log2 (by omega)]
    exact (Nat.log2_self_le (by omega)).trans le
  rcases Nat.lt_or_eq_of_le (Nat.sub_le_sub_right logs 52) with less | same
  · -- A finer grid ends where the first number of 53 bits of the coarser one stands, or before.
    have upper : roundDiv n (2 ^ (n.log2 - 52)) ≤ 2 ^ 53 := by
      have bound : n ≤ 2 ^ 53 * 2 ^ (n.log2 - 52) := by
        rw [← Nat.pow_add]
        exact Nat.lt_log2_self.le.trans (Nat.pow_le_pow_right (by decide) (by omega))
      exact (roundDiv_mono bound _).trans_eq (roundDiv_mul (by positivity) _)
    have lower : 2 ^ 52 ≤ roundDiv m (2 ^ (m.log2 - 52)) := by
      have bound : 2 ^ 52 * 2 ^ (m.log2 - 52) ≤ m := by
        rw [← Nat.pow_add, show 52 + (m.log2 - 52) = m.log2 by omega]
        exact Nat.log2_self_le (by omega)
      exact (roundDiv_mul (by positivity) _).symm.trans_le (roundDiv_mono bound _)
    calc roundUnits n ≤ 2 ^ 53 * 2 ^ (n.log2 - 52) := Nat.mul_le_mul_right _ upper
      _ = 2 ^ (53 + (n.log2 - 52)) := (Nat.pow_add ..).symm
      _ ≤ 2 ^ (52 + (m.log2 - 52)) := Nat.pow_le_pow_right (by decide) (by omega)
      _ = 2 ^ 52 * 2 ^ (m.log2 - 52) := Nat.pow_add ..
      _ ≤ roundUnits m := Nat.mul_le_mul_right _ lower
  · rw [roundUnits, roundUnits, same]
    exact Nat.mul_le_mul_right _ (roundDiv_mono le _)

@[simp] theorem roundUnits_zero : roundUnits 0 = 0 := rfl

@[simp] theorem nearestUnits_zero : nearestUnits 0 = 0 := Int.zero_mul _

theorem nearestUnits_apply (sign : Sign) (n : Nat) :
    nearestUnits (sign.apply n) = sign.apply (min (roundUnits n) boundary : Nat) := by
  rcases Nat.eq_zero_or_pos n with rfl | positive
  · cases sign <;> simp [Sign.apply]
  · have isOne : (n : Int).sign = 1 := Int.sign_eq_one_of_pos (by omega)
    cases sign with
    | negative =>
        simp only [nearestUnits, Sign.apply, Int.sign_neg, Int.natAbs_neg, Int.natAbs_natCast, isOne,
          Int.neg_mul, Int.one_mul]
    | positive =>
        simp only [nearestUnits, Sign.apply, Int.natAbs_natCast, isOne, Int.one_mul]

/-- **Rounding keeps the order.** -/
theorem nearestUnits_mono {n m : Int} (le : n ≤ m) : nearestUnits n ≤ nearestUnits m := by
  have capped {a b : Nat} (below : a ≤ b) : min (roundUnits a) boundary ≤ min (roundUnits b) boundary :=
    min_le_min_right _ (roundUnits_mono below)
  have signed (n : Int) : ∃ sign : Sign, n = sign.apply n.natAbs := by
    rcases Int.natAbs_eq n with same | same
    · exact ⟨.positive, same⟩
    · exact ⟨.negative, same⟩
  obtain ⟨s, n_eq⟩ := signed n
  obtain ⟨t, m_eq⟩ := signed m
  generalize n.natAbs = a at n_eq
  generalize m.natAbs = b at m_eq
  subst n_eq m_eq
  rw [nearestUnits_apply, nearestUnits_apply]
  cases s <;> cases t <;> simp only [Sign.apply] at le ⊢
  · have := capped (show b ≤ a by omega)
    omega
  · omega
  · obtain ⟨rfl, rfl⟩ : a = 0 ∧ b = 0 := by omega
    simp
  · have := capped (show a ≤ b by omega)
    omega

/-- A finite double is the nearest one to itself. -/
theorem nearestUnits_unitsOf {number : UnpackedFloat} (has : HasDouble number)
    (finite : number.isFinite = true) : nearestUnits (unitsOf number) = unitsOf number := by
  cases number with
  | notANumber => cases finite
  | infinity => cases finite
  | zero => exact nearestUnits_zero
  | finite sign mantissa exponent positive =>
      have inside := units_lt_boundary has
      obtain ⟨fits, low, high, normal⟩ := has
      have nonzero := Nat.ne_of_gt positive
      have short := (Nat.log2_lt nonzero).mpr fits
      have normalLog : 52 ≤ mantissa.log2 ∨ exponent = -1074 :=
        normal.imp_left (Nat.le_log2 nonzero).mpr
      have exact := units_roundDiv low normalLog
      rw [show mantissa.log2 - 52 = 0 by omega] at exact
      have whole : roundDiv mantissa (2 ^ 0) = mantissa := by
        have := roundDiv_mul Nat.one_pos mantissa
        rwa [Nat.mul_one] at this
      rw [whole, Nat.cast_zero, Int.add_zero] at exact
      rw [unitsOf, nearestUnits_apply, ← exact, Nat.min_eq_left inside.le]

end SignalFlow.Binary64
