import SignalFlow.Number.Decimal
import SignalFlow.Number.Read
import SignalFlow.Proofs.Doubles.Literals
import SignalFlow.Proofs.Doubles.Nearest
import SignalFlow.Proofs.Expr.Spellings

/-! # Doubles with six places

A double is written with six places after its point and read again. What is read
(`Binary64.sixPlaces`) is the double nearest to the number that is written, and what is no number or
infinite is read as it has been written (`Number.readFloat?_fixed_six`).
-/

namespace SignalFlow

namespace Binary64

open Float.Model Float.Model.UnpackedFloat

/-! ## Quotients -/

/-- What is a finite double already is rounded to itself. -/
theorem roundWithAccuracy_exact {sign : Sign} {mantissa : Nat} {exponent : Int}
    (positive : 0 < mantissa) (canonical : IsCanonical mantissa exponent) :
    roundWithAccuracy Format.binary64 sign mantissa exponent .exact =
      .finite sign mantissa exponent positive := by
  have none : shiftCount mantissa exponent = 0 := shiftCount_eq_zero canonical.fits canonical.low
  have same : shiftToTargetExponent Format.binary64 mantissa exponent .exact =
      (⟨mantissa, false, false⟩, exponent) := by
    unfold shiftToTargetExponent shiftToExponent
    change (shifted mantissa exponent .exact, exponent + (shiftCount mantissa exponent : Int)) = _
    rw [shifted, none, Int.ofNat_zero, Int.add_zero]
    rfl
  have whole : (ExtendedMantissa.mk mantissa false false).roundedMantissa = mantissa := rfl
  unfold roundWithAccuracy
  rw [same]
  dsimp only
  rw [whole, same]
  exact dif_neg (Nat.ne_of_gt positive)

/-- A natural number below `2 ^ 53` is a double. -/
theorem unpack_toFloat {n : Nat} (positive : 0 < n) (fits : n < 2 ^ 53) :
    n.toUInt64.toFloat.toModel.unpack =
      .finite .positive (n * 2 ^ (52 - n.log2)) (-(52 - n.log2 : Nat))
        (Nat.mul_pos positive (Nat.two_pow_pos _)) := by
  have small := (Nat.log2_lt (Nat.ne_of_gt positive)).mpr fits
  have canonical : IsCanonical (n * 2 ^ (52 - n.log2)) (-(52 - n.log2 : Nat)) := by
    have log := log2_mul_two_pow positive (52 - n.log2)
    have scaled := Nat.mul_pos positive (Nat.two_pow_pos (52 - n.log2))
    refine ⟨?_, by omega, by omega, .inl ?_⟩
    · rw [← Nat.log2_lt (Nat.ne_of_gt scaled)]
      omega
    · rw [← Nat.le_log2 (Nat.ne_of_gt scaled)]
      omega
  have round_eq : UnpackedFloat.round Format.binary64 .positive n 0 =
      .finite .positive (n * 2 ^ (52 - n.log2)) (-(52 - n.log2 : Nat))
        (Nat.mul_pos positive (Nat.two_pow_pos _)) := by
    have shift : (0 - max (totalExponent n 0 - 53) (-1074)).toNat = 52 - n.log2 := by
      unfold totalExponent
      omega
    unfold UnpackedFloat.round decreaseExponent
    dsimp only
    rw [targetExponent_eq, shift, Nat.shiftLeft_eq, Int.zero_sub]
    exact roundWithAccuracy_exact _ canonical
  have order : compare (n : Int) 0 = .gt := by
    rw [Int.compare_eq_gt]
    omega
  have exact_nat : n.toUInt64.toNat = n :=
    UInt64.toNat_ofNat_of_lt (fits.trans (by decide))
  change (Float.Model.pack (UnpackedFloat.normalize Format.binary64 n.toUInt64.toNat 0
    .positive)).unpack = _
  rw [exact_nat]
  unfold UnpackedFloat.normalize
  rw [order, Int.toNat_natCast]
  dsimp only
  rw [round_eq, unpack_pack_finite canonical]

/-- What a quotient leaves is compared with its half, whatever both are multiplied by. -/
theorem accuracyOfFraction_mul (rest divisor : Nat) {scale : Nat} (positive : 0 < scale) :
    accuracyOfFraction (rest * scale) (divisor * scale) = accuracyOfFraction rest divisor := by
  have zero_iff : rest * scale = 0 ↔ rest = 0 := by
    rw [Nat.mul_eq_zero, or_iff_left (Nat.ne_of_gt positive)]
  have compare_eq : compare (2 * (rest * scale)) (divisor * scale) = compare (2 * rest) divisor := by
    simp only [← Nat.mul_assoc, Nat.compare_eq_ite_lt, Nat.mul_lt_mul_right positive]
  unfold accuracyOfFraction
  simp only [zero_iff, compare_eq]

/-- Two numbers have the same quotient whatever powers of two their mantissas are written with. -/
theorem divCore_mul_two_pow {m d a b : Nat} (mPositive : 0 < m) (dPositive : 0 < d)
    (fine : max ((m.log2 : Int) - d.log2 - 53) (-1074) ≤ min 0 ((b : Int) - a)) :
    divCore Format.binary64 (m * 2 ^ a) (-a) (d * 2 ^ b) (-b) =
      divCore Format.binary64 m 0 d 0 := by
  have total : totalExponent (m * 2 ^ a) (-a) - totalExponent (d * 2 ^ b) (-b) =
      (m.log2 : Int) - d.log2 := by
    unfold totalExponent
    rw [log2_mul_two_pow mPositive, log2_mul_two_pow dPositive]
    omega
  have plain : totalExponent m 0 - totalExponent d 0 = (m.log2 : Int) - d.log2 := by
    unfold totalExponent
    omega
  unfold divCore
  rw [total, plain, targetExponent_eq]
  generalize max ((m.log2 : Int) - d.log2 - 53) (-1074) = target at fine ⊢
  rw [min_eq_right (by omega), min_eq_right (by omega)]
  have scaled : (m * 2 ^ a) <<< (-(a : Int) - -b - target).toNat =
      m <<< (0 - 0 - target).toNat * 2 ^ b := by
    rw [Nat.shiftLeft_eq, Nat.shiftLeft_eq, Nat.mul_assoc, Nat.mul_assoc, ← Nat.pow_add,
      ← Nat.pow_add]
    congr 2
    omega
  dsimp only
  rw [scaled, Nat.mul_div_mul_right _ _ (Nat.two_pow_pos b), Nat.mul_mod_mul_right,
    accuracyOfFraction_mul _ _ (Nat.two_pow_pos b)]

/-- The double `10 ^ 6`. -/
theorem unpack_million : (Float.ofBits 0x412E848000000000).toModel.unpack =
    .finite .positive (10 ^ 6 * 2 ^ 33) (-33) (by decide) := by
  have bits : (Float.ofBits 0x412E848000000000).toBits = 0x412E848000000000 := by decide +kernel
  change UnpackedFloat.unpack Format.binary64
    (Float.ofBits 0x412E848000000000).toBits.toBitVec = _
  rw [bits]
  rfl

/-- A number of millionths is read as the double nearest to the quotient. -/
theorem ofScientific_six (n : Nat) : Float.ofScientific n true 6 = ofRatio false n (10 ^ 6) := by
  rcases Nat.eq_zero_or_pos n with rfl | positive
  · decide +kernel
  · have quotient : ofRatio false n (10 ^ 6) = .ofModel (Float.Model.pack
        (UnpackedFloat.div Format.binary64 (.finite .positive n 0 positive)
          (.finite .positive (10 ^ 6) 0 (by decide)))) := by
      unfold ofRatio
      rw [dif_pos positive, dif_pos (by decide)]
      rfl
    rw [quotient, Float.ofScientific]
    by_cases small : n < 2 ^ 53
    · rw [dif_pos ⟨small, by decide⟩]
      change Float.ofModel (Float.Model.pack (UnpackedFloat.div Format.binary64
        n.toUInt64.toFloat.toModel.unpack (Float.ofBits 0x412E848000000000).toModel.unpack)) = _
      have log : (10 ^ 6 : Nat).log2 = 19 := by decide
      have cores : divCore Format.binary64 (n * 2 ^ (52 - n.log2)) (-(52 - n.log2 : Nat))
          (10 ^ 6 * 2 ^ 33) (-33) = divCore Format.binary64 n 0 (10 ^ 6) 0 := by
        have fits := (Nat.log2_lt (Nat.ne_of_gt positive)).mpr small
        refine divCore_mul_two_pow positive (by decide) ?_
        rw [log]
        omega
      rw [unpack_toFloat positive small, unpack_million]
      unfold UnpackedFloat.div
      dsimp only
      rw [cores]
    · rw [dif_neg fun both => small both.1]
      have notHuge : ¬ (2 ^ Format.binary64.exponentBits : Int) < -6 := by decide
      have notTiny : ¬ (-6 : Int) < -((2 ^ Format.binary64.exponentBits : Int) + n.log2) := by
        change ¬ (-6 : Int) < -(2 ^ 11 + (n.log2 : Int))
        omega
      change Float.ofModel (Float.Model.pack (UnpackedFloat.ofScientific Format.binary64 n (-6))) = _
      unfold UnpackedFloat.ofScientific
      rw [dif_neg (Nat.ne_of_gt positive), if_neg notHuge, if_neg notTiny, if_neg (by decide)]
      rfl

end Binary64

/-- The mantissa and the exponent of a finite double are in range. -/
theorem Binary64.range_of_parts {x : Float} {negative : Bool} {mantissa : Nat} {exponent : Int}
    (found : parts x = .finite negative mantissa exponent) :
    mantissa < 2 ^ 53 ∧ exponent ≤ 971 := by
  unfold parts at found
  dsimp only at found
  have power : Nat.pow 2 52 = 2 ^ 52 := rfl
  have range : Nat.pow 2 11 = 2 ^ 11 := rfl
  rw [power, range] at found
  split at found
  · split at found <;> cases found
  · rename_i finite
    split at found
    · obtain ⟨rfl, rfl, rfl⟩ := Parts.finite.inj found
      omega
    · obtain ⟨rfl, rfl, rfl⟩ := Parts.finite.inj found
      rw [beq_iff_eq] at finite
      omega

/-! ## Digits read back -/

namespace Number

/-- The value of a digit. -/
def digitValue (c : Char) : Nat := c.toNat - '0'.toNat

theorem asciiDigit?_of_isDigit {c : Char} (digit : c.isDigit = true) :
    Text.asciiDigit? c = some (digitValue c) := by
  rw [Char.isDigit, Bool.and_eq_true, decide_eq_true_eq, decide_eq_true_eq] at digit
  rw [Text.asciiDigit?, if_pos]
  · rfl
  · rw [Bool.and_eq_true, decide_eq_true_eq, decide_eq_true_eq]
    exact digit

theorem ne_of_isDigit {c other : Char} (digit : c.isDigit = true)
    (notDigit : other.isDigit = false) : c ≠ other := by
  rintro rfl
  exact Bool.false_ne_true (notDigit.symm.trans digit)

/-- Digits are read up to a character that is neither a digit nor an underscore. -/
theorem digitRunFrom_append {digits rest : List Char} (isDigit : ∀ c ∈ digits, c.isDigit = true)
    (ends : ∀ c ∈ rest.head?, c ≠ '_' ∧ Text.asciiDigit? c = none) (inside : Bool) :
    digitRunFrom inside (digits ++ rest) = (digits.map digitValue, rest) := by
  induction digits generalizing inside with
  | nil =>
      cases rest with
      | nil => rfl
      | cons c rest =>
          obtain ⟨notUnderscore, notDigit⟩ := ends c rfl
          simp [digitRunFrom, notUnderscore, notDigit]
  | cons c digits ih =>
      obtain ⟨first, others⟩ := List.forall_mem_cons.mp isDigit
      have notUnderscore : c ≠ '_' := ne_of_isDigit first rfl
      simp [digitRunFrom, notUnderscore, asciiDigit?_of_isDigit first, ih others]

theorem digitsValue_map (text : List Char) :
    digitsValue (text.map digitValue) = Nat.ofDigitChars 10 text 0 := by
  rw [digitsValue, List.foldl_map, Nat.ofDigitChars_eq_foldl]
  rfl

/-- Digits on both sides of a point are read as one number, scaled by the digits behind the point. -/
theorem decimal?_point {whole fraction : List Char} (isWhole : IsDigits whole)
    (isFraction : IsDigits fraction) :
    decimal? (whole ++ '.' :: fraction) =
      some (Nat.ofDigitChars 10 (whole ++ fraction) 0, -(fraction.length : Int), []) := by
  have first : digitRun (whole ++ '.' :: fraction) = (whole.map digitValue, '.' :: fraction) := by
    refine digitRunFrom_append isWhole.2 ?_ false
    rintro c ⟨⟩
    exact ⟨by decide, rfl⟩
  have second : digitRun fraction = (fraction.map digitValue, []) := by
    have reads := @digitRunFrom_append fraction [] isFraction.2 (by simp) false
    rwa [List.append_nil] at reads
  have some_digits : (whole.map digitValue).isEmpty = false := by
    simpa using isWhole.1
  simp only [decimal?, first, second, some_digits, Bool.false_and, Bool.false_eq_true, if_false,
    exponentPart, ← List.map_append, digitsValue_map, Option.map_some, List.length_map,
    Int.zero_sub]

/-- What begins with a digit is no name. -/
theorem named?_of_isDigit {c : Char} (digit : c.isDigit = true) (rest : List Char) :
    named? (c :: rest) = none := by
  have lower : c.toLower = c := by
    rw [Char.isDigit, Bool.and_eq_true, decide_eq_true_eq, decide_eq_true_eq] at digit
    refine dif_neg fun upper => ?_
    exact absurd (UInt32.le_trans upper.1 digit.2) (by decide)
  have differs (word : String) {other : Char} {more : List Char}
      (characters : word.toList = other :: more) (notDigit : other.isDigit = false) :
      (String.ofList ((c :: rest).map Char.toLower) == word) = false := by
    rw [beq_eq_false_iff_ne, ← String.toList_inj.ne, String.toList_ofList, characters, List.map_cons,
      lower]
    intro same
    exact ne_of_isDigit digit notDigit (List.cons.inj same).1
  unfold named?
  dsimp only
  rw [differs "inf" rfl rfl, differs "infinity" rfl rfl, differs "nan" rfl rfl]
  rfl

end Number

namespace Decimal

theorem length_padded {width n : Nat} (positive : 0 < width) (fits : n < 10 ^ width) :
    (padded width n).toList.length = width := by
  have short : (Nat.toDigits 10 n).length ≤ width :=
    (Nat.length_toDigits_le_iff (by decide) positive).mpr fits
  simp only [padded, digitsOf, String.toList_append, String.toList_ofList, List.length_append,
    List.length_replicate, String.length_ofList]
  omega

/-- The digits of a number and those of a fraction make up one number. -/
theorem ofDigitChars_digitsOf_padded {width : Nat} (positive : 0 < width) (n : Nat) :
    Nat.ofDigitChars 10 ((digitsOf (n / 10 ^ width)).toList ++
      (padded width (n % 10 ^ width)).toList) 0 = n := by
  have width_eq := length_padded positive (Nat.mod_lt n (by positivity : 0 < 10 ^ width))
  have fraction : Nat.ofDigitChars 10 (padded width (n % 10 ^ width)).toList 0 = n % 10 ^ width := by
    rw [padded, String.toList_append, String.toList_ofList, Nat.ofDigitChars_append,
      Nat.ofDigitChars_replicate_zero, Nat.mul_zero, digitsOf, String.toList_ofList,
      Nat.ofDigitChars_ten_toDigits]
  rw [Nat.ofDigitChars_append, digitsOf, String.toList_ofList, Nat.ofDigitChars_ten_toDigits,
    Nat.ofDigitChars_eq_ofDigitChars_zero, width_eq, fraction]
  exact Nat.div_add_mod n (10 ^ width)

end Decimal

/-- What is written for a double with six places: the nearest double to it, or the double itself if
it is no number or infinite. -/
def Binary64.sixPlaces (x : Float) : Float :=
  match parts x with
  | .notANumber => notANumber
  | .infinite negative => if negative then -infinity else infinity
  | .finite negative mantissa exponent =>
      let (numerator, denominator) := ratio mantissa exponent
      ofRatio negative (roundDiv (numerator * 10 ^ 6) denominator) (10 ^ 6)

/-! ## Texts with six places -/

section Point

variable {negative : Bool} {whole fraction : List Char} (isWhole : IsDigits whole)
  (isFraction : IsDigits fraction)
include isWhole isFraction

theorem isVisible_point :
    Text.IsVisible ((Decimal.sign negative).toList ++ (whole ++ '.' :: fraction)) := by
  have visible {c : Char} (digit : c.isDigit = true) : 33 ≤ c.toNat ∧ c.toNat ≤ 126 := by
    rw [Char.isDigit, Bool.and_eq_true, decide_eq_true_eq, decide_eq_true_eq] at digit
    have low : 48 ≤ c.toNat := UInt32.le_iff_toNat_le.mp digit.1
    have high : c.toNat ≤ 57 := UInt32.le_iff_toNat_le.mp digit.2
    omega
  intro c member
  rw [List.mem_append, List.mem_append, List.mem_cons] at member
  rcases member with sign | inWhole | rfl | inFraction
  · cases negative
    · cases sign
    · rw [List.mem_singleton.mp sign]
      decide
  · exact visible (isWhole.2 c inWhole)
  · decide
  · exact visible (isFraction.2 c inFraction)

/-- A decimal number with a point is read as its digits say. -/
theorem Number.readFloat?_point {text : String}
    (characters : text.toList = (Decimal.sign negative).toList ++ (whole ++ '.' :: fraction)) :
    readFloat? text = some (scaledFloat negative (Nat.ofDigitChars 10 (whole ++ fraction) 0)
      (-(fraction.length : Int))) := by
  have visible : Text.IsVisible text.toList := characters ▸ isVisible_point isWhole isFraction
  obtain ⟨digit, more, isDigit, begins⟩ :=
    (IsUnsigned.plain (.point isWhole isFraction)).exists_eq_cons
  have signed : signOf ((Decimal.sign negative).toList ++ (whole ++ '.' :: fraction)) =
      (negative, whole ++ '.' :: fraction) := by
    cases negative
    · rw [begins]
      have notMark : digit ∉ ['+', '-', '.'] := by
        simp [ne_of_isDigit isDigit]
      exact signOf_of_not_mem notMark
    · rfl
  rw [readFloat?, asciiForm_of_isVisible visible, characters, signed]
  dsimp only
  rw [decimal?_point isWhole isFraction, begins, named?_of_isDigit isDigit]

end Point

namespace Decimal

/-- A number of millionths as it is written. -/
def millionths (negative : Bool) (units : Nat) : String :=
  sign negative ++ digitsOf (units / 10 ^ 6) ++ ("." ++ padded 6 (units % 10 ^ 6))

theorem toList_millionths (negative : Bool) (units : Nat) :
    (millionths negative units).toList = (sign negative).toList ++
      ((digitsOf (units / 10 ^ 6)).toList ++ '.' :: (padded 6 (units % 10 ^ 6)).toList) := by
  rw [millionths, String.toList_append, String.toList_append, String.toList_append,
    List.append_assoc, show ".".toList = ['.'] from rfl, List.singleton_append]

theorem length_padded_six (units : Nat) : (padded 6 (units % 10 ^ 6)).toList.length = 6 :=
  length_padded (by decide) (Nat.mod_lt units (by decide))

/-- A double with six places is a number of millionths, unless it is no number or infinite. -/
theorem fixed_six_of_finite {x : Float} {negative : Bool} {mantissa : Nat} {exponent : Int}
    (found : Binary64.parts x = .finite negative mantissa exponent) :
    fixed 6 x = millionths negative (Binary64.roundDiv
      ((Binary64.ratio mantissa exponent).1 * 10 ^ 6) (Binary64.ratio mantissa exponent).2) := by
  rw [fixed, found]
  rfl

theorem isVisible_fixed_six (x : Float) : Text.IsVisible (fixed 6 x).toList := by
  cases found : Binary64.parts x with
  | notANumber =>
      rw [fixed, found]
      change Text.IsVisible ['n', 'a', 'n']
      simp [Text.IsVisible]
  | infinite negative =>
      rw [fixed, found]
      change Text.IsVisible (sign negative ++ "inf").toList
      cases negative <;> simp [Text.IsVisible, sign]
  | finite negative mantissa exponent =>
      rw [fixed_six_of_finite found, toList_millionths]
      exact isVisible_point (isDigits_digitsOf _) (isDigits_padded _ _)

theorem length_millionths_le (negative : Bool) {units count : Nat} (positive : 0 < count)
    (small : units / 10 ^ 6 < 10 ^ count) : (millionths negative units).length ≤ count + 8 := by
  have whole : (digitsOf (units / 10 ^ 6)).toList.length ≤ count := by
    rw [digitsOf, String.toList_ofList]
    exact (Nat.length_toDigits_le_iff (by decide) positive).mpr small
  have signLength : (sign negative).toList.length ≤ 1 := by cases negative <;> decide
  rw [← String.length_toList, toList_millionths, List.length_append, List.length_append,
    List.length_cons, length_padded_six]
  omega

/-- The whole millionths of a double do not exceed the double by one. -/
theorem units_div_le {mantissa top : Nat} {exponent : Int} (fits : mantissa < 2 ^ 53)
    (high : exponent ≤ top) :
    Binary64.roundDiv ((Binary64.ratio mantissa exponent).1 * 10 ^ 6)
      (Binary64.ratio mantissa exponent).2 / 10 ^ 6 ≤ 2 ^ 53 * 2 ^ top := by
  have quotient : (Binary64.ratio mantissa exponent).1 * 10 ^ 6 /
      (Binary64.ratio mantissa exponent).2 ≤ 2 ^ 53 * 2 ^ top * 10 ^ 6 := by
    refine (Nat.div_le_self _ _).trans (Nat.mul_le_mul_right _ ?_)
    cases exponent with
    | ofNat up =>
        exact Nat.mul_le_mul fits.le (Nat.pow_le_pow_right (by decide) (Int.ofNat_le.mp high))
    | negSucc down => exact fits.le.trans (Nat.le_mul_of_pos_right _ (Nat.two_pow_pos _))
  have rounded := Binary64.roundDiv_le ((Binary64.ratio mantissa exponent).1 * 10 ^ 6)
    (Binary64.ratio mantissa exponent).2
  generalize 2 ^ 53 * 2 ^ top = bound at quotient ⊢
  omega

/-- No double has more digits before its point than the largest one. -/
theorem length_fixed_six_le (x : Float) : (fixed 6 x).length ≤ 317 := by
  cases found : Binary64.parts x with
  | notANumber =>
      rw [fixed, found]
      decide +kernel
  | infinite negative =>
      rw [fixed, found]
      cases negative <;> decide +kernel
  | finite negative mantissa exponent =>
      obtain ⟨fits, high⟩ := Binary64.range_of_parts found
      have whole := @units_div_le mantissa 971 exponent fits high
      have bound : 2 ^ 53 * 2 ^ 971 < 10 ^ 309 := by decide +kernel
      rw [fixed_six_of_finite found]
      exact length_millionths_le negative (Nat.zero_lt_succ 308) (whole.trans_lt bound)

end Decimal

namespace Number

theorem scaledFloat_six (negative : Bool) (units : Nat) :
    scaledFloat negative units (-6) = Binary64.ofRatio negative units (10 ^ 6) := by
  change (if negative then -Float.ofScientific units true 6
    else Float.ofScientific units true 6) = _
  rw [Binary64.ofScientific_six]
  rfl

/-- A number of millionths is read from its digits. -/
theorem readFloat?_millionths (negative : Bool) (units : Nat) :
    readFloat? (Decimal.millionths negative units) =
      some (Binary64.ofRatio negative units (10 ^ 6)) := by
  rw [readFloat?_point (Decimal.isDigits_digitsOf _) (Decimal.isDigits_padded _ _)
    (Decimal.toList_millionths negative units), Decimal.ofDigitChars_digitsOf_padded (by decide),
    Decimal.length_padded_six]
  exact congrArg some (scaledFloat_six negative units)

/-- **A double that is written with six places is read as the nearest double to what is written.** -/
theorem readFloat?_fixed_six (x : Float) :
    readFloat? (Decimal.fixed 6 x) = some (Binary64.sixPlaces x) := by
  cases found : Binary64.parts x with
  | notANumber =>
      rw [Decimal.fixed, Binary64.sixPlaces, found]
      decide +kernel
  | infinite negative =>
      rw [Decimal.fixed, Binary64.sixPlaces, found]
      cases negative <;> decide +kernel
  | finite negative mantissa exponent =>
      rw [Decimal.fixed_six_of_finite found, readFloat?_millionths, Binary64.sixPlaces, found]

end Number

end SignalFlow
