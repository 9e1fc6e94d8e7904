import SignalFlow.Value.Whole

/-! # Infinite doubles

The parts of a double tell infinite doubles from finite ones as its model does
(`Binary64.unpack_cases`). Of all values only an infinite double is too large to be a whole number
(`Value.toInt_eq_tooLarge_iff`).
-/

namespace SignalFlow

namespace Binary64

open Float.Model Float.Model.UnpackedFloat

theorem exponent_iff (x : Float) :
    @unpackExponent Format.binary64 x.toModel.toBits.toBitVec = -1#_ ↔
      x.toBits.toNat / Nat.pow 2 52 % Nat.pow 2 11 = 2047 := by
  rw [← BitVec.toNat_inj]
  simp only [unpackExponent, BitVec.toNat_cast, BitVec.extractLsb_toNat, Nat.shiftRight_eq_div_pow]
  exact Iff.rfl

theorem mantissa_iff (x : Float) :
    @unpackMantissa Format.binary64 x.toModel.toBits.toBitVec = 0#_ ↔
      x.toBits.toNat % Nat.pow 2 52 = 0 := by
  rw [← BitVec.toNat_inj]
  simp only [unpackMantissa, BitVec.toNat_cast, BitVec.extractLsb_toNat, Nat.shiftRight_zero]
  exact Iff.rfl

/-- The parts of a double agree with its model on what it is. -/
theorem unpack_cases (x : Float) :
    (parts x = .notANumber ∧ x.toModel.unpack = .notANumber) ∨
      (∃ negative sign, parts x = .infinite negative ∧ x.toModel.unpack = .infinity sign) ∨
      ((∃ negative mantissa exponent, parts x = .finite negative mantissa exponent) ∧
        x.isInf = false ∧ x.isNaN = false) := by
  change _ ∨ _ ∨ (_ ∧ x.toModel.unpack.isInf = false ∧ x.toModel.unpack.isNaN = false)
  unfold Float.Model.unpack UnpackedFloat.unpack parts
  dsimp only
  by_cases top : x.toBits.toNat / Nat.pow 2 52 % Nat.pow 2 11 = 2047
  · rw [if_pos (beq_iff_eq.mpr top), if_pos ((exponent_iff x).mpr top)]
    by_cases zero : x.toBits.toNat % Nat.pow 2 52 = 0
    · rw [if_pos (beq_iff_eq.mpr zero), if_pos ((mantissa_iff x).mpr zero)]
      exact .inr (.inl ⟨_, _, rfl, rfl⟩)
    · rw [if_neg (by simpa using zero), if_neg (mt (mantissa_iff x).mp zero)]
      exact .inl ⟨rfl, rfl⟩
  · rw [if_neg (by simpa using top), if_neg (mt (exponent_iff x).mp top)]
    refine .inr (.inr ⟨?_, ?_⟩)
    · split <;> exact ⟨_, _, _, rfl⟩
    · by_cases bottom : @unpackExponent Format.binary64 x.toModel.toBits.toBitVec = 0#_
      · rw [if_pos bottom]
        by_cases zero : @unpackMantissa Format.binary64 x.toModel.toBits.toBitVec = 0#_
        · rw [dif_pos zero]
          exact ⟨rfl, rfl⟩
        · rw [dif_neg zero]
          exact ⟨rfl, rfl⟩
      · rw [if_neg bottom]
        exact ⟨rfl, rfl⟩

end Binary64

namespace Value

theorem toInt_float_eq_tooLarge_iff (x : Float) :
    (Value.float x).toInt = .error .tooLarge ↔ x.isInf = true := by
  unfold toInt Binary64.truncate?
  rcases Binary64.unpack_cases x with
    ⟨isParts, isModel⟩ | ⟨negative, sign, isParts, isModel⟩ |
      ⟨⟨negative, mantissa, exponent, isParts⟩, notInf, notNaN⟩
  · have notInf : x.isInf = false := congrArg Float.Model.UnpackedFloat.isInf isModel
    have isNaN : x.isNaN = true := congrArg Float.Model.UnpackedFloat.isNaN isModel
    simp only [isParts, notInf, isNaN]
    simp
  · have isInf : x.isInf = true := congrArg Float.Model.UnpackedFloat.isInf isModel
    have notNaN : x.isNaN = false := congrArg Float.Model.UnpackedFloat.isNaN isModel
    simp only [isParts, isInf, notNaN]
    simp
  · simp [isParts, notInf]

theorem toInt_eq_tooLarge_iff (value : Value) :
    value.toInt = .error .tooLarge ↔ ∃ x, value = .float x ∧ x.isInf = true := by
  cases value with
  | float x => simp [toInt_float_eq_tooLarge_iff]
  | text s =>
      cases read : Number.readInt? s <;> simp [toInt, read]
  | _ => simp [toInt]

theorem isPresent_of_isInf {x : Float} (isInf : x.isInf = true) :
    (Value.float x).isPresent = true := by
  have differs : (x == 0.0) = false := by
    change x.toModel.unpack.beq (.zero .positive) = false
    have isInf : x.toModel.unpack.isInf = true := isInf
    cases found : x.toModel.unpack with
    | infinity sign => cases sign <;> rfl
    | _ =>
        rw [found] at isInf
        cases isInf
  simp [isPresent, differs]

end Value

end SignalFlow
