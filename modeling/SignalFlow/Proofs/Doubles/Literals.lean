import SignalFlow.Proofs.Doubles.Finite
import SignalFlow.Value

/-! # Decimal literals

The text of a double is a decimal literal, of a form that Python and C share (`IsDecimalLiteral`),
exactly if the double is finite (`Decimal.isDecimalLiteral_shortest_iff`).
-/

namespace SignalFlow

/-- One or more decimal digits. -/
def IsDigits (text : List Char) : Prop := text ≠ [] ∧ ∀ c ∈ text, c.isDigit = true

/-- Digits, or digits on both sides of a point. -/
inductive IsMantissa : List Char → Prop
  | whole {digits : List Char} : IsDigits digits → IsMantissa digits
  | point {whole fraction : List Char} : IsDigits whole → IsDigits fraction →
      IsMantissa (whole ++ '.' :: fraction)

/-- A decimal number without a sign: a mantissa, with an exponent or without one. -/
inductive IsUnsigned : List Char → Prop
  | plain {mantissa : List Char} : IsMantissa mantissa → IsUnsigned mantissa
  | scaled {mantissa exponent : List Char} {sign : Char} : IsMantissa mantissa →
      sign = '+' ∨ sign = '-' → IsDigits exponent →
        IsUnsigned (mantissa ++ 'e' :: sign :: exponent)

/-- A finite decimal number as programs write it. -/
def IsDecimalLiteral (text : String) : Prop :=
  ∃ negative unsigned, IsUnsigned unsigned ∧
    text.toList = (Decimal.sign negative).toList ++ unsigned

namespace IsDigits

theorem zero : IsDigits ['0'] := ⟨List.cons_ne_nil _ _, List.forall_mem_singleton.mpr rfl⟩

theorem append {first rest : List Char} (digits : IsDigits first)
    (more : ∀ c ∈ rest, c.isDigit = true) : IsDigits (first ++ rest) := by
  refine ⟨by simp [digits.1], fun c member => ?_⟩
  rcases List.mem_append.mp member with inFirst | inRest
  · exact digits.2 c inFirst
  · exact more c inRest

theorem replicate_zero_append {text : List Char} (digits : IsDigits text) (count : Nat) :
    IsDigits (List.replicate count '0' ++ text) := by
  refine ⟨by simp [digits.1], fun c member => ?_⟩
  rcases List.mem_append.mp member with isZero | digit
  · rw [List.eq_of_mem_replicate isZero]
    decide
  · exact digits.2 c digit

theorem take {text : List Char} (digits : IsDigits text) {count : Nat} (positive : 0 < count) :
    IsDigits (text.take count) := by
  refine ⟨?_, fun c member => digits.2 c (List.mem_of_mem_take member)⟩
  have present := digits.1
  cases text with
  | nil => exact absurd rfl present
  | cons first rest =>
      cases count with
      | zero => exact absurd positive (Nat.lt_irrefl 0)
      | succ count => exact List.cons_ne_nil _ _

theorem drop {text : List Char} (digits : IsDigits text) {count : Nat}
    (shorter : count < text.length) : IsDigits (text.drop count) :=
  ⟨by simpa [List.drop_eq_nil_iff] using shorter,
    fun c member => digits.2 c (List.mem_of_mem_drop member)⟩

end IsDigits

/-- An unsigned decimal number starts with a digit. -/
theorem IsUnsigned.exists_eq_cons {text : List Char} (unsigned : IsUnsigned text) :
    ∃ digit rest, digit.isDigit = true ∧ text = digit :: rest := by
  have ofDigits {digits : List Char} (isDigits : IsDigits digits) (more : List Char) :
      ∃ digit rest, digit.isDigit = true ∧ digits ++ more = digit :: rest := by
    cases digits with
    | nil => exact absurd rfl isDigits.1
    | cons digit rest => exact ⟨digit, rest ++ more, isDigits.2 digit List.mem_cons_self, rfl⟩
  have ofMantissa {mantissa : List Char} (isMantissa : IsMantissa mantissa) (more : List Char) :
      ∃ digit rest, digit.isDigit = true ∧ mantissa ++ more = digit :: rest := by
    cases isMantissa with
    | whole digits => exact ofDigits digits more
    | point whole fraction =>
        rw [List.append_assoc]
        exact ofDigits whole _
  cases unsigned with
  | plain isMantissa => simpa using ofMantissa isMantissa []
  | scaled isMantissa => exact ofMantissa isMantissa _

namespace Decimal

theorem isDigits_digitsOf (n : Nat) : IsDigits (digitsOf n).toList := by
  rw [digitsOf, String.toList_ofList]
  exact ⟨Nat.toDigits_ne_nil, fun c member =>
    Nat.isDigit_of_mem_toDigits (by decide) (by decide) member⟩

theorem isDigits_padded (width n : Nat) : IsDigits (padded width n).toList := by
  rw [padded, String.toList_append, String.toList_ofList]
  exact (isDigits_digitsOf n).replicate_zero_append _

theorem exists_exponentText_eq (width : Nat) (e : Int) :
    ∃ mark exponent, (mark = '+' ∨ mark = '-') ∧ IsDigits exponent ∧
      (exponentText width e).toList = mark :: exponent := by
  unfold exponentText
  split
  · exact ⟨'-', _, .inr rfl, isDigits_padded width e.natAbs, by simp⟩
  · exact ⟨'+', _, .inl rfl, isDigits_padded width e.natAbs, by simp⟩

/-- Digits with a power of ten are laid out as an unsigned decimal number. -/
theorem isUnsigned_place (scaled : Scaled) : IsUnsigned (plain.place scaled).toList := by
  have digits := isDigits_digitsOf scaled.digits
  have zeros (count : Nat) : ∀ c ∈ List.replicate count '0', c.isDigit = true := by
    intro c member
    rw [List.eq_of_mem_replicate member]
    decide
  unfold Layout.place
  dsimp only
  split
  · split
    · have text := IsUnsigned.plain
        (.point (digits.append (zeros scaled.exponent.toNat)) .zero)
      simpa using text
    · split
      · rename_i below above
        -- The point stands within the digits.
        have length : (digitsOf scaled.digits).length = (digitsOf scaled.digits).toList.length :=
          String.length_toList.symm
        have text := IsUnsigned.plain (.point
          (digits.take (show 0 < (scaled.exponent + (digitsOf scaled.digits).length - 1 + 1).toNat
            by omega))
          (digits.drop (show (scaled.exponent + (digitsOf scaled.digits).length - 1 + 1).toNat <
            (digitsOf scaled.digits).toList.length by omega)))
        simpa using text
      · have fraction : IsDigits (List.replicate
            (-(scaled.exponent + (digitsOf scaled.digits).length - 1) - 1).toNat '0' ++
              (digitsOf scaled.digits).toList) := digits.replicate_zero_append _
        simpa using IsUnsigned.plain (.point .zero fraction)
  · obtain ⟨mark, exponent, isMark, isExponent, same⟩ := exists_exponentText_eq 2
      (scaled.exponent + (digitsOf scaled.digits).length - 1)
    have mantissa : IsMantissa ((digitsOf scaled.digits).toList.take 1 ++
        (if ((digitsOf scaled.digits).toList.drop 1).isEmpty then ""
          else "." ++ String.ofList ((digitsOf scaled.digits).toList.drop 1)).toList) := by
      have first := digits.take Nat.one_pos
      split
      · simpa using IsMantissa.whole first
      · rename_i more
        have rest := digits.drop (show 1 < (digitsOf scaled.digits).toList.length by
          rw [List.isEmpty_iff, List.drop_eq_nil_iff] at more
          omega)
        simpa using IsMantissa.point first rest
    have text := IsUnsigned.scaled mantissa isMark isExponent
    simp only [String.toList_append, String.toList_ofList, plain, same] at text ⊢
    simpa using text

/-- A text whose first character behind a sign is no digit is not a decimal literal. -/
theorem not_isDecimalLiteral {negative : Bool} {c : Char} {rest : List Char} {text : String}
    (same : text.toList = (sign negative).toList ++ c :: rest) (notDigit : c.isDigit = false)
    (notSign : c ≠ '-') : ¬ IsDecimalLiteral text := by
  rintro ⟨otherNegative, unsigned, isUnsigned, other⟩
  obtain ⟨digit, more, isDigit, rfl⟩ := isUnsigned.exists_eq_cons
  rw [same] at other
  cases negative <;> cases otherNegative
  · obtain ⟨rfl, -⟩ := List.cons.inj other
    rw [notDigit] at isDigit
    cases isDigit
  · exact notSign (List.cons.inj other).1
  · obtain ⟨rfl, -⟩ := List.cons.inj other
    cases isDigit
  · obtain ⟨rfl, -⟩ := List.cons.inj (List.cons.inj other).2
    rw [notDigit] at isDigit
    cases isDigit

/-- **The text of a double is a decimal literal exactly if the double is finite.** -/
theorem isDecimalLiteral_shortest_iff (x : Float) :
    IsDecimalLiteral (shortest x) ↔ x.isFinite = true := by
  rw [Binary64.isFinite_iff_parts]
  unfold shortest
  cases found : Binary64.parts x with
  | notANumber =>
      refine iff_of_false ?_ (by simp)
      have same : "nan".toList = (sign false).toList ++ 'n' :: ['a', 'n'] := by decide
      exact not_isDecimalLiteral same (by decide) (by decide)
  | infinite negative =>
      refine iff_of_false ?_ (by simp)
      have same : (sign negative ++ "inf").toList = (sign negative).toList ++ 'i' :: ['n', 'f'] := by
        rw [String.toList_append]
        rfl
      exact not_isDecimalLiteral same (by decide) (by decide)
  | finite negative mantissa exponent =>
      refine iff_of_true ?_ ⟨_, _, _, rfl⟩
      cases mantissa with
      | zero =>
          exact ⟨negative, _, .plain (.point .zero .zero), String.toList_append⟩
      | succ mantissa => exact ⟨negative, _, isUnsigned_place _, String.toList_append⟩

end Decimal

namespace Value

/-- A finite number. -/
def IsFiniteNumber : Value → Prop
  | .int _ => True
  | .float x => x.isFinite = true
  | _ => False

/-- A finite number is written as a decimal literal. -/
theorem isDecimalLiteral_quoted {value : Value} (finite : value.IsFiniteNumber) :
    IsDecimalLiteral value.quoted := by
  cases value with
  | int n =>
      have digits := IsUnsigned.plain (.whole (Decimal.isDigits_digitsOf n.natAbs))
      rw [quoted]
      split
      · exact ⟨true, _, digits, String.toList_append⟩
      · exact ⟨false, _, digits, rfl⟩
  | float x => exact (Decimal.isDecimalLiteral_shortest_iff x).mpr finite
  | _ => exact finite.elim

end Value

end SignalFlow
