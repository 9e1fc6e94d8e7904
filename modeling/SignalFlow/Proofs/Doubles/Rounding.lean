import SignalFlow.Number.Binary64
import Mathlib.Tactic.Positivity
import Mathlib.Tactic.Ring

/-! # Rounding to finite doubles

The model of doubles rounds a number `mantissa * 2 ^ exponent` by shifting the mantissa to 53 bits
and looking at the first bit that is lost. The result is finite unless its exponent becomes too
large (`Binary64.isFinite_rounded_iff`). Of the whole numbers those below `2 ^ 1024 - 2 ^ 970` are
rounded to finite doubles (`Binary64.isFinite_ofInt_iff`), and the negative and the half of a finite
double are finite.
-/

namespace SignalFlow.Binary64

open Float.Model Float.Model.UnpackedFloat

/-! ## Finite doubles by their bits -/

theorem isFinite_unpack_iff (bits : BitVec Format.binary64.numBits) :
    (UnpackedFloat.unpack Format.binary64 bits).isFinite = true ↔
      unpackExponent bits ≠ -1#_ := by
  unfold UnpackedFloat.unpack
  dsimp only
  by_cases top : unpackExponent bits = -1#_
  · rw [if_pos top]
    split <;> exact iff_of_false Bool.false_ne_true fun differs => differs top
  · rw [if_neg top]
    refine iff_of_true ?_ top
    by_cases bottom : unpackExponent bits = 0#_
    · rw [if_pos bottom]
      by_cases zero : unpackMantissa bits = 0#_
      · rw [dif_pos zero]
        rfl
      · rw [dif_neg zero]
        rfl
    · rw [if_neg bottom]
      rfl

theorem isFinite_pack_iff (number : UnpackedFloat) :
    (Float.Model.pack number).isFinite = true ↔
      unpackExponent (UnpackedFloat.pack Format.binary64 number) ≠ -1#_ :=
  isFinite_unpack_iff _

theorem isFinite_pack_zero (sign : Sign) : (Float.Model.pack (.zero sign)).isFinite = true := by
  rw [isFinite_pack_iff]
  change unpackExponent (packedZero Format.binary64 sign) ≠ -1#_
  simp [packedZero]

theorem isFinite_pack_finite_iff {sign : Sign} {mantissa : Nat} {exponent : Int}
    {positive : 0 < mantissa} :
    (Float.Model.pack (.finite sign mantissa exponent positive)).isFinite = true ↔
      exponent ≤ 971 := by
  have bound : 2 ^ Format.binary64.exponentBits ≤
      (exponent + (Format.binary64.exponentBias : Int) +
        (Format.binary64.mantissaBitsWithoutImplicit : Int)).toNat + 1 ↔ 971 < exponent := by
    change 2 ^ 11 ≤ (exponent + 1023 + 52).toNat + 1 ↔ _
    omega
  rw [isFinite_pack_iff]
  unfold UnpackedFloat.pack
  dsimp only
  split
  · rename_i overflow
    simp [packedInfinity, bound.mp overflow]
  · rename_i inside
    rw [bound] at inside
    refine iff_of_true ?_ (by omega)
    split
    · rw [unpackExponent_packComponents, ne_eq, ← BitVec.toNat_inj]
      change ¬ ((exponent + 1023 + 52).toNat % 2 ^ 11 = 2047)
      omega
    · rw [unpackExponent_packComponents]
      decide

theorem isFinite_pack_dite_iff (sign : Sign) (mantissa : Nat) (exponent : Int) :
    (Float.Model.pack (if zero : mantissa = 0 then .zero sign
      else .finite sign mantissa exponent (Nat.pos_of_ne_zero zero))).isFinite = true ↔
      mantissa = 0 ∨ exponent ≤ 971 := by
  by_cases zero : mantissa = 0
  · rw [dif_pos zero]
    exact iff_of_true (isFinite_pack_zero sign) (.inl zero)
  · rw [dif_neg zero, isFinite_pack_finite_iff]
    exact (or_iff_right zero).symm

/-- A mantissa and an exponent as a finite double has them. -/
structure IsCanonical (mantissa : Nat) (exponent : Int) : Prop where
  fits : mantissa < 2 ^ 53
  low : -1074 ≤ exponent
  high : exponent ≤ 971
  /-- Only at the least exponent the first bit may be missing. -/
  normal : 2 ^ 52 ≤ mantissa ∨ exponent = -1074

theorem isCanonical_of_unpack {x : Float} {sign : Sign} {mantissa : Nat} {exponent : Int}
    {positive : 0 < mantissa}
    (unpacked : x.toModel.unpack = .finite sign mantissa exponent positive) :
    IsCanonical mantissa exponent := by
  unfold Float.Model.unpack UnpackedFloat.unpack at unpacked
  dsimp only at unpacked
  have bias : (Format.binary64.exponentBias : Int) = 1023 := rfl
  by_cases top : @unpackExponent Format.binary64 x.toModel.toBits.toBitVec = -1#_
  · rw [if_pos top] at unpacked
    by_cases zero : @unpackMantissa Format.binary64 x.toModel.toBits.toBitVec = 0#_
    · rw [if_pos zero] at unpacked
      cases unpacked
    · rw [if_neg zero] at unpacked
      cases unpacked
  · rw [if_neg top] at unpacked
    by_cases bottom : @unpackExponent Format.binary64 x.toModel.toBits.toBitVec = 0#_
    · rw [if_pos bottom] at unpacked
      by_cases zero : @unpackMantissa Format.binary64 x.toModel.toBits.toBitVec = 0#_
      · rw [dif_pos zero] at unpacked
        cases unpacked
      · rw [dif_neg zero] at unpacked
        cases unpacked
        have small := (@unpackMantissa Format.binary64 x.toModel.toBits.toBitVec).isLt
        rw [bottom, bias]
        exact ⟨small.trans (by decide), by decide, by decide, .inr rfl⟩
    · rw [if_neg bottom] at unpacked
      cases unpacked
      have fraction := (@unpackMantissa Format.binary64 x.toModel.toBits.toBitVec).isLt
      have small := (1#1 ++ @unpackMantissa Format.binary64 x.toModel.toBits.toBitVec).isLt
      have inside := (@unpackExponent Format.binary64 x.toModel.toBits.toBitVec).isLt
      rw [← BitVec.toNat_inj] at top bottom
      change ¬ _ = 2047 at top
      change ¬ _ = 0 at bottom
      change _ < 2 ^ 11 at inside
      rw [bias]
      refine ⟨small, ?_, ?_, .inl ?_⟩
      · change (-1074 : Int) ≤ _ - (1023 + 52)
        omega
      · change _ - (1023 + 52) ≤ (971 : Int)
        omega
      · rw [BitVec.toNat_append, ← Nat.shiftLeft_add_eq_or_of_lt fraction]
        exact Nat.le_add_right _ _

/-- The mantissa and the exponent of a finite double are in range. -/
theorem range_of_unpack {x : Float} {sign : Sign} {mantissa : Nat} {exponent : Int}
    {positive : 0 < mantissa}
    (unpacked : x.toModel.unpack = .finite sign mantissa exponent positive) :
    mantissa < 2 ^ 53 ∧ -1074 ≤ exponent ∧ exponent ≤ 971 :=
  have canonical := isCanonical_of_unpack unpacked
  ⟨canonical.fits, canonical.low, canonical.high⟩

/-! ## Shifting and rounding mantissas -/

theorem targetExponent_eq (total : Int) :
    Format.binary64.targetExponent total = max (total - 53) (-1074) := rfl

theorem mantissa_shiftRight (extended : ExtendedMantissa) (count : Nat) :
    (extended >>> count).mantissa = extended.mantissa / 2 ^ count := by
  induction count with
  | zero => simp [HShiftRight.hShiftRight, Nat.repeat]
  | succ count ih =>
      change (extended >>> count).mantissa / 2 = _
      rw [ih, Nat.div_div_eq_div_mul, Nat.pow_succ]

theorem roundBit_shiftRight_succ (extended : ExtendedMantissa) (count : Nat) :
    (extended >>> (count + 1)).roundBit = (extended.mantissa / 2 ^ count % 2 != 0) := by
  rw [← mantissa_shiftRight]
  rfl

theorem roundedMantissa_le (extended : ExtendedMantissa) :
    extended.roundedMantissa ≤ extended.mantissa + 1 := by
  obtain ⟨mantissa, round, sticky⟩ := extended
  cases round <;> cases sticky <;>
    simp [ExtendedMantissa.roundedMantissa, ExtendedMantissa.accuracy,
      Accuracy.roundToNearestEven]
  omega

theorem le_roundedMantissa (extended : ExtendedMantissa) :
    extended.mantissa ≤ extended.roundedMantissa := by
  obtain ⟨mantissa, round, sticky⟩ := extended
  cases round <;> cases sticky <;>
    simp [ExtendedMantissa.roundedMantissa, ExtendedMantissa.accuracy,
      Accuracy.roundToNearestEven]

theorem roundedMantissa_of_roundBit_eq_false {extended : ExtendedMantissa}
    (exact : extended.roundBit = false) : extended.roundedMantissa = extended.mantissa := by
  obtain ⟨mantissa, round, sticky⟩ := extended
  cases exact
  cases sticky <;> rfl

theorem roundedMantissa_of_roundBit {extended : ExtendedMantissa}
    (half : extended.roundBit = true) (odd : extended.mantissa % 2 = 1) :
    extended.roundedMantissa = extended.mantissa + 1 := by
  obtain ⟨mantissa, round, sticky⟩ := extended
  cases half
  cases sticky
  · change mantissa + mantissa % 2 = _
    rw [odd]
  · rfl

/-- How far a mantissa is shifted before it is rounded. -/
def shiftCount (mantissa : Nat) (exponent : Int) : Nat :=
  (max (totalExponent mantissa exponent - 53) (-1074) - exponent).toNat

/-- A mantissa with its residual bits before it is rounded. -/
def shifted (mantissa : Nat) (exponent : Int) (accuracy : Accuracy) : ExtendedMantissa :=
  ExtendedMantissa.ofMantissaAndAccuracy mantissa accuracy >>> shiftCount mantissa exponent

theorem mantissa_shifted (mantissa : Nat) (exponent : Int) (accuracy : Accuracy) :
    (shifted mantissa exponent accuracy).mantissa =
      mantissa / 2 ^ shiftCount mantissa exponent := by
  rw [shifted, mantissa_shiftRight]
  congr 1
  cases accuracy with
  | exact => rfl
  | inexact relative => cases relative <;> rfl

theorem log2_le_shiftCount (mantissa : Nat) (exponent : Int) :
    mantissa.log2 ≤ 52 + shiftCount mantissa exponent := by
  unfold shiftCount totalExponent
  omega

theorem mantissa_shifted_lt (mantissa : Nat) (exponent : Int) (accuracy : Accuracy) :
    (shifted mantissa exponent accuracy).mantissa < 2 ^ 53 := by
  rw [mantissa_shifted, Nat.div_lt_iff_lt_mul (by positivity), ← Nat.pow_add]
  refine Nat.lt_log2_self.trans_le (Nat.pow_le_pow_right (by decide) ?_)
  have := log2_le_shiftCount mantissa exponent
  omega

/-- A mantissa that fits is not shifted. -/
theorem shiftCount_eq_zero {mantissa : Nat} {exponent : Int} (fits : mantissa < 2 ^ 53)
    (inside : -1074 ≤ exponent) : shiftCount mantissa exponent = 0 := by
  have small : mantissa.log2 ≤ 52 := by
    rcases Nat.eq_zero_or_pos mantissa with rfl | positive
    · decide
    · have := (Nat.log2_lt (Nat.ne_of_gt positive)).mpr fits
      omega
  unfold shiftCount totalExponent
  omega

theorem shiftCount_two_pow {exponent : Int} (inside : -1074 ≤ exponent) :
    shiftCount (2 ^ 53) exponent = 1 := by
  unfold shiftCount totalExponent
  rw [Nat.log2_two_pow]
  omega

/-- What a number is rounded to. -/
abbrev rounded (sign : Sign) (mantissa : Nat) (exponent : Int) (accuracy : Accuracy) :
    Float.Model :=
  .pack (roundWithAccuracy Format.binary64 sign mantissa exponent accuracy)

/-- A number is rounded to a finite double unless its exponent becomes too large, by itself or since
the mantissa is rounded up to the next power of two. -/
theorem isFinite_rounded_iff (sign : Sign) (mantissa : Nat) (exponent : Int)
    (accuracy : Accuracy) :
    (rounded sign mantissa exponent accuracy).isFinite = true ↔
      (shifted mantissa exponent accuracy).roundedMantissa = 0 ∨
        exponent + shiftCount mantissa exponent ≤ 970 ∨
        exponent + shiftCount mantissa exponent = 971 ∧
          (shifted mantissa exponent accuracy).roundedMantissa < 2 ^ 53 := by
  have inside : -1074 ≤ exponent + shiftCount mantissa exponent := by
    unfold shiftCount
    omega
  have small := mantissa_shifted_lt mantissa exponent accuracy
  have bound := roundedMantissa_le (shifted mantissa exponent accuracy)
  have again := isFinite_pack_dite_iff sign
    (shifted (shifted mantissa exponent accuracy).roundedMantissa
      (exponent + shiftCount mantissa exponent) .exact).mantissa
    (exponent + shiftCount mantissa exponent +
      shiftCount (shifted mantissa exponent accuracy).roundedMantissa
        (exponent + shiftCount mantissa exponent))
  refine Iff.trans again ?_
  rw [mantissa_shifted]
  generalize exponent + (shiftCount mantissa exponent : Int) = shiftedExponent at inside ⊢
  generalize (shifted mantissa exponent accuracy).roundedMantissa = whole at bound ⊢
  rcases Nat.lt_or_ge whole (2 ^ 53) with below | above
  · rw [shiftCount_eq_zero below inside]
    omega
  · obtain rfl : whole = 2 ^ 53 := by omega
    rw [shiftCount_two_pow inside]
    omega

/-- A number below `2 ^ 1023` is rounded to a finite double. -/
theorem isFinite_rounded_of_le {sign : Sign} {mantissa : Nat} {exponent : Int}
    {accuracy : Accuracy} (total : totalExponent mantissa exponent ≤ 1023)
    (low : exponent ≤ 970) : (rounded sign mantissa exponent accuracy).isFinite = true := by
  rw [isFinite_rounded_iff]
  refine .inr (.inl ?_)
  unfold shiftCount
  omega

/-! ## Negation, products and halves -/

theorem isFinite_neg (x : Float) : (-x).isFinite = x.isFinite := by
  change (Float.Model.pack x.toModel.unpack.neg).isFinite = x.toModel.unpack.isFinite
  cases unpacked : x.toModel.unpack with
  | notANumber => rfl
  | infinity sign => cases sign <;> rfl
  | zero sign => exact isFinite_pack_zero _
  | finite sign mantissa exponent positive =>
      exact isFinite_pack_finite_iff.mpr (range_of_unpack unpacked).2.2

theorem log2_mul_two_pow {mantissa : Nat} (positive : 0 < mantissa) (count : Nat) :
    (mantissa * 2 ^ count).log2 = mantissa.log2 + count := by
  induction count with
  | zero => simp
  | succ count ih =>
      have double : mantissa * 2 ^ (count + 1) = 2 * (mantissa * 2 ^ count) := by ring
      rw [double, Nat.log2_two_mul (by positivity), ih]
      rfl

theorem log2_shiftLeft_div_le {mantissa : Nat} (positive : 0 < mantissa) (up down : Nat) :
    ((mantissa <<< up) / 2 ^ down).log2 + down ≤ max down (mantissa.log2 + up) := by
  rcases Nat.eq_zero_or_pos ((mantissa <<< up) / 2 ^ down) with zero | quotientPos
  · rw [zero]
    simp
  · have lower := Nat.log2_self_le (Nat.ne_of_gt quotientPos)
    have scaled : 2 ^ (((mantissa <<< up) / 2 ^ down).log2 + down) ≤ mantissa * 2 ^ up := by
      rw [Nat.pow_add, ← Nat.shiftLeft_eq mantissa]
      exact (Nat.mul_le_mul_right _ lower).trans (Nat.div_mul_le_self _ _)
    have upper := scaled.trans_lt Nat.lt_log2_self
    rw [log2_mul_two_pow positive] at upper
    have := (Nat.pow_lt_pow_iff_right (by decide)).mp upper
    omega

theorem unpack_one : (Float.ofBits 0x3FF0000000000000).toModel.unpack =
    .finite .positive (2 ^ 52) (-52) (by decide) := by
  have bits : (Float.ofBits 0x3FF0000000000000).toBits = 0x3FF0000000000000 := by decide +kernel
  change UnpackedFloat.unpack Format.binary64
    (Float.ofBits 0x3FF0000000000000).toBits.toBitVec = _
  rw [bits]
  rfl

theorem unpack_two : (2.0 : Float).toModel.unpack =
    .finite .positive (2 ^ 52) (-51) (by decide) := by
  have bits : (2.0 : Float).toBits = 0x4000000000000000 := by decide +kernel
  change UnpackedFloat.unpack Format.binary64 (2.0 : Float).toBits.toBitVec = _
  rw [bits]
  rfl

/-- A finite double times one is finite. -/
theorem isFinite_mul_one {x : Float} (finite : x.isFinite = true) :
    (x * Float.ofBits 0x3FF0000000000000).isFinite = true := by
  change x.toModel.unpack.isFinite = true at finite
  change (Float.Model.pack (UnpackedFloat.mul Format.binary64 x.toModel.unpack
    (Float.ofBits 0x3FF0000000000000).toModel.unpack)).isFinite = true
  rw [unpack_one]
  cases unpacked : x.toModel.unpack with
  | notANumber => rw [unpacked] at finite; cases finite
  | infinity sign => rw [unpacked] at finite; cases finite
  | zero sign => exact isFinite_pack_zero _
  | finite sign mantissa exponent positive =>
      obtain ⟨fits, low, high⟩ := range_of_unpack unpacked
      have small : mantissa.log2 < 53 := (Nat.log2_lt (Nat.ne_of_gt positive)).mpr fits
      refine (isFinite_rounded_iff _ _ _ _).mpr (.inr ?_)
      have count : (exponent + -52 + shiftCount (mantissa * 2 ^ 52) (exponent + -52) ≤ 970) ∨
          exponent + -52 + shiftCount (mantissa * 2 ^ 52) (exponent + -52) = 971 ∧
            shiftCount (mantissa * 2 ^ 52) (exponent + -52) = 52 := by
        unfold shiftCount totalExponent
        rw [log2_mul_two_pow positive]
        omega
      refine count.imp id fun ⟨top, whole⟩ => ⟨top, ?_⟩
      have exact : (shifted (mantissa * 2 ^ 52) (exponent + -52) .exact).roundBit = false := by
        rw [shifted, whole, roundBit_shiftRight_succ]
        change (mantissa * (2 ^ 51 * 2) / 2 ^ 51 % 2 != 0) = false
        rw [Nat.mul_left_comm, Nat.mul_div_cancel_left _ (by decide)]
        simp
      rw [roundedMantissa_of_roundBit_eq_false exact, mantissa_shifted, whole,
        Nat.mul_div_cancel _ (by decide)]
      exact fits

/-- Half a finite double is finite. -/
theorem isFinite_half {x : Float} (finite : x.isFinite = true) : (x / 2.0).isFinite = true := by
  change x.toModel.unpack.isFinite = true at finite
  change (Float.Model.pack (UnpackedFloat.div Format.binary64 x.toModel.unpack
    (2.0 : Float).toModel.unpack)).isFinite = true
  rw [unpack_two]
  cases unpacked : x.toModel.unpack with
  | notANumber => rw [unpacked] at finite; cases finite
  | infinity sign => rw [unpacked] at finite; cases finite
  | zero sign => exact isFinite_pack_zero _
  | finite sign mantissa exponent positive =>
      obtain ⟨fits, low, high⟩ := range_of_unpack unpacked
      have small : mantissa.log2 < 53 := (Nat.log2_lt (Nat.ne_of_gt positive)).mpr fits
      have target : totalExponent mantissa exponent - totalExponent (2 ^ 52) (-51) =
          mantissa.log2 + exponent - 1 := by
        unfold totalExponent
        rw [Nat.log2_two_pow]
        omega
      unfold UnpackedFloat.div divCore
      dsimp only
      rw [targetExponent_eq, target]
      generalize chosen : min (exponent - -51) (max (mantissa.log2 + exponent - 1 - 53) (-1074)) =
        start
      refine isFinite_rounded_of_le ?_ (by omega)
      have log := log2_shiftLeft_div_le positive (exponent - -51 - start).toNat 52
      unfold totalExponent
      omega

/-! ## Whole numbers -/

/-- The least natural number that is rounded to infinity, `2 ^ 1024 - 2 ^ 970`: it lies halfway
between the largest finite double and the next power of two. -/
def overflow : Nat := (2 ^ 54 - 1) * 2 ^ 970

theorem lt_overflow_iff (n : Nat) : n < overflow ↔ n / 2 ^ 970 < 2 ^ 54 - 1 := by
  rw [overflow, Nat.div_lt_iff_lt_mul (by positivity)]

theorem ofScientific_eq {n : Nat} (positive : 0 < n) : Float.Model.ofScientific n 0 =
    rounded .positive (n * 2 ^ 53) (-53) .exact := by
  have notHuge : ¬ (2 ^ Format.binary64.exponentBits : Int) < 0 := by decide
  have notTiny : ¬ (0 : Int) < -((2 ^ Format.binary64.exponentBits : Int) + n.log2) := by
    change ¬ (0 : Int) < -(2 ^ 11 + (n.log2 : Int))
    omega
  unfold Float.Model.ofScientific UnpackedFloat.ofScientific
  rw [dif_neg (Nat.ne_of_gt positive), if_neg notHuge, if_neg notTiny, if_pos (Int.le_refl 0)]
  change rounded .positive (n <<< 53 * 1) (-53 + 0) .exact = _
  rw [Nat.mul_one, Nat.shiftLeft_eq, Int.add_zero]

theorem div_lt_two_pow_iff {n : Nat} (positive : 0 < n) (down count : Nat) :
    n / 2 ^ down < 2 ^ count ↔ n.log2 < count + down := by
  rw [Nat.div_lt_iff_lt_mul (by positivity), ← Nat.pow_add, Nat.log2_lt (Nat.ne_of_gt positive)]

theorem mul_two_pow_div_two_pow (n up down : Nat) :
    n * 2 ^ up / 2 ^ (down + up) = n / 2 ^ down := by
  rw [Nat.pow_add, Nat.mul_div_mul_right _ _ (by positivity)]

/-- The double that a natural number is rounded to is finite if the number is not too large. -/
theorem isFinite_ofScientific_iff {n : Nat} (positive : 0 < n) :
    (Float.Model.ofScientific n 0).isFinite = true ↔ n < overflow := by
  have count : shiftCount (n * 2 ^ 53) (-53) = n.log2 + 1 := by
    unfold shiftCount totalExponent
    rw [log2_mul_two_pow positive]
    omega
  have quotient : (shifted (n * 2 ^ 53) (-53) .exact).mantissa =
      n * 2 ^ 53 / 2 ^ (n.log2 + 1) := by
    rw [mantissa_shifted, count]
  have remains : 0 < (shifted (n * 2 ^ 53) (-53) .exact).roundedMantissa := by
    refine Nat.lt_of_lt_of_le ?_ (le_roundedMantissa _)
    rw [quotient, Nat.pow_succ', Nat.div_pos_iff]
    have := Nat.log2_self_le (Nat.ne_of_gt positive)
    refine ⟨by positivity, ?_⟩
    omega
  have bound := div_lt_two_pow_iff positive 970
  rw [ofScientific_eq positive, isFinite_rounded_iff, lt_overflow_iff, count]
  rcases Nat.lt_trichotomy n.log2 1023 with below | top | above
  · have small := (bound 53).mpr below
    exact iff_of_true (.inr (.inl (by omega))) (by omega)
  · -- The mantissa of 53 bits is rounded up to the next power of two if all its bits and the
    -- one behind them are set.
    have small := (bound 54).mpr (by omega)
    have whole : (shifted (n * 2 ^ 53) (-53) .exact).mantissa = n / 2 ^ 970 / 2 := by
      rw [quotient, top, show 1023 + 1 = 970 + 1 + 53 from rfl, mul_two_pow_div_two_pow,
        Nat.div_div_eq_div_mul, ← Nat.pow_succ]
    have roundBit : (shifted (n * 2 ^ 53) (-53) .exact).roundBit = (n / 2 ^ 970 % 2 != 0) := by
      have start : (ExtendedMantissa.ofMantissaAndAccuracy (n * 2 ^ 53) .exact).mantissa =
          n * 2 ^ 53 := rfl
      rw [shifted, count, roundBit_shiftRight_succ, start, top, show 1023 = 970 + 53 from rfl]
      rw [mul_two_pow_div_two_pow]
    have upper := roundedMantissa_le (shifted (n * 2 ^ 53) (-53) .exact)
    rw [whole] at upper
    generalize n / 2 ^ 970 = digits at small whole roundBit upper ⊢
    rcases Nat.lt_or_ge digits (2 ^ 54 - 2) with less | more
    · exact iff_of_true (.inr (.inr ⟨by omega, by omega⟩)) (by omega)
    · obtain rfl | rfl : digits = 2 ^ 54 - 2 ∨ digits = 2 ^ 54 - 1 := by omega
      · rw [roundedMantissa_of_roundBit_eq_false roundBit, whole]
        exact iff_of_true (.inr (.inr ⟨by omega, by decide⟩)) (by decide)
      · rw [roundedMantissa_of_roundBit roundBit (by rw [whole]; decide), whole]
        omega
  · have large := (bound 54).not.mpr (by omega)
    omega

theorem isFinite_pack_round {sign : Sign} {mantissa : Nat} (positive : 0 < mantissa)
    (small : mantissa.log2 < 1022) :
    (Float.Model.pack (UnpackedFloat.round Format.binary64 sign mantissa 0)).isFinite = true := by
  unfold UnpackedFloat.round decreaseExponent
  dsimp only
  refine isFinite_rounded_of_le ?_ (by omega)
  unfold totalExponent
  rw [Nat.shiftLeft_eq, log2_mul_two_pow positive]
  omega

theorem isFinite_toFloat (n : UInt64) : n.toFloat.isFinite = true := by
  have small : n.toNat < 2 ^ 64 := n.toNat_lt
  change (Float.Model.pack (UnpackedFloat.normalize Format.binary64 n.toNat 0 .positive)).isFinite =
    true
  rcases Nat.eq_zero_or_pos n.toNat with zero | positive
  · rw [zero]
    exact isFinite_pack_zero .positive
  · have order : compare (n.toNat : Int) 0 = .gt := by
      rw [Int.compare_eq_gt]
      omega
    have log := (Nat.log2_lt (Nat.ne_of_gt positive)).mpr small
    unfold UnpackedFloat.normalize
    rw [order, Int.toNat_natCast]
    exact isFinite_pack_round positive (by omega)

/-- **A natural number is rounded to a finite double exactly if it lies below
`2 ^ 1024 - 2 ^ 970`.** -/
theorem isFinite_ofNat_iff (n : Nat) : (Float.ofNat n).isFinite = true ↔ n < overflow := by
  change (Float.ofScientific n false 0).isFinite = true ↔ _
  unfold Float.ofScientific
  split
  · rename_i small
    refine iff_of_true (isFinite_mul_one (isFinite_toFloat _)) ?_
    rw [lt_overflow_iff]
    exact (Nat.div_le_self _ _).trans_lt (small.1.trans (by decide))
  · rename_i large
    have positive : 0 < n := by omega
    exact isFinite_ofScientific_iff positive

theorem isFinite_ofInt_iff (n : Int) : (Float.ofInt n).isFinite = true ↔ n.natAbs < overflow := by
  cases n with
  | ofNat n => exact isFinite_ofNat_iff n
  | negSucc n =>
      change (-Float.ofNat (n + 1)).isFinite = true ↔ _
      rw [isFinite_neg, isFinite_ofNat_iff]
      rfl

theorem ofInt?_eq_none_iff (n : Int) : ofInt? n = none ↔ overflow ≤ n.natAbs := by
  unfold ofInt?
  dsimp only
  rw [← Nat.not_lt, ← isFinite_ofInt_iff]
  split <;> simp_all

theorem isFinite_of_ofInt? {n : Int} {x : Float} (rounded : ofInt? n = some x) :
    x.isFinite = true := by
  unfold ofInt? at rounded
  dsimp only at rounded
  split at rounded
  · cases rounded
    assumption
  · cases rounded

end SignalFlow.Binary64
