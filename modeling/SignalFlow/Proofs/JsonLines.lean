import SignalFlow.Json.Reader
import SignalFlow.Json.Writer
import SignalFlow.Text.Lines
import Mathlib.Tactic.SplitIfs

/-! # Lines of JSON texts

A text that is written as JSON has no carriage return in it: within texts it is escaped, and lines
end with a line feed. Reading the text with unified line ends therefore leaves it as it is
(`Json.unifyBreaks_indented`).
-/

namespace SignalFlow

namespace Text

/-- Line ends are unified already where there is no carriage return. -/
theorem unifyBreaks_of_not_mem {text : String} (unbroken : '\r' ∉ text.toList) :
    unifyBreaks text = text := by
  rw [unifyBreaks, unifyBreakList_of_not_mem unbroken, String.ofList_toList]

theorem hexCharacter_ne : ∀ digit < 16, hexCharacter digit ≠ '\r' := by decide

theorem not_mem_hexText (count n : Nat) : '\r' ∉ hexText count n := by
  induction count generalizing n with
  | zero => exact List.not_mem_nil
  | succ count ih =>
      rw [hexText, List.mem_append, List.mem_singleton, not_or]
      exact ⟨ih _, (hexCharacter_ne _ (Nat.mod_lt _ (by decide))).symm⟩

end Text

namespace Decimal

theorem not_mem_digitsOf (n : Nat) : '\r' ∉ (digitsOf n).toList := by
  rw [digitsOf, String.toList_ofList]
  intro member
  have isDigit := Nat.isDigit_of_mem_toDigits (by decide) (by decide) member
  exact absurd isDigit (by decide)

theorem not_mem_padded (width n : Nat) : '\r' ∉ (padded width n).toList := by
  simp [padded, not_mem_digitsOf]

theorem not_mem_place (scaled : Scaled) : '\r' ∉ (plain.place scaled).toList := by
  have digits := not_mem_digitsOf scaled.digits
  have front (count : Nat) : '\r' ∉ (digitsOf scaled.digits).toList.take count :=
    fun member => digits (List.mem_of_mem_take member)
  have back (count : Nat) : '\r' ∉ (digitsOf scaled.digits).toList.drop count :=
    fun member => digits (List.mem_of_mem_drop member)
  have exponent (e : Int) : '\r' ∉ (exponentText 2 e).toList := by
    unfold exponentText
    split <;> simp [not_mem_padded]
  unfold Layout.place
  dsimp only
  split
  · split
    · simp only [String.toList_append, String.toList_ofList, List.mem_append, not_or]
      exact ⟨⟨digits, by simp⟩, by decide⟩
    · split
      · simp only [String.toList_append, String.toList_ofList, List.mem_append, not_or]
        exact ⟨⟨front _, by decide⟩, back _⟩
      · simp only [String.toList_append, String.toList_ofList, List.mem_append, not_or]
        exact ⟨⟨by decide, by simp⟩, digits⟩
  · simp only [String.toList_append, String.toList_ofList, List.mem_append, not_or]
    refine ⟨⟨⟨front 1, ?_⟩, by decide⟩, exponent _⟩
    split
    · decide
    · simp only [String.toList_append, String.toList_ofList, List.mem_append, not_or]
      exact ⟨by decide, back 1⟩

theorem not_mem_shortest (x : Float) : '\r' ∉ (shortest x).toList := by
  have noSign (negative : Bool) : '\r' ∉ (sign negative).toList := by cases negative <;> decide
  unfold shortest
  split
  · decide
  · simp [noSign, plain]
  · simp [noSign]
  · simp [noSign, not_mem_place]

end Decimal

namespace Json

theorem not_mem_characterText (c : Char) : '\r' ∉ characterText c := by
  have unit (n : Nat) : '\r' ∉ unitText n := by simp [unitText, Text.not_mem_hexText]
  unfold characterText
  by_cases isReturn : c = '\r'
  · subst isReturn
    decide
  · repeat' split
    all_goals simp [unit, Ne.symm isReturn]

theorem not_mem_textLiteral (text : String) : '\r' ∉ (textLiteral text).toList := by
  simp [textLiteral, not_mem_characterText]

theorem not_mem_floatLiteral (x : Float) : '\r' ∉ (floatLiteral x).toList := by
  unfold floatLiteral
  split_ifs
  · decide
  · decide
  · decide
  · exact Decimal.not_mem_shortest x

theorem not_mem_leafText (value : Value) : '\r' ∉ (leafText value).toList := by
  cases value with
  | null => decide
  | bool b => cases b <;> decide
  | int n =>
      rw [leafText, Value.quoted]
      split <;> simp [Decimal.not_mem_digitsOf]
  | float x => exact not_mem_floatLiteral x
  | text s => exact not_mem_textLiteral s
  | list _ => simp [leafText]
  | mapping _ => simp [leafText]

theorem not_mem_breakLine (width depth : Nat) : '\r' ∉ (breakLine width depth).toList := by
  simp [breakLine]

theorem not_mem_comma (width depth : Nat) : '\r' ∉ ("," ++ breakLine width depth).toList := by
  simp [not_mem_breakLine]

theorem not_mem_intercalate {separator : String} {texts : List String}
    (between : '\r' ∉ separator.toList) (each : ∀ text ∈ texts, '\r' ∉ text.toList) :
    '\r' ∉ (separator.intercalate texts).toList := by
  induction texts with
  | nil => simp
  | cons text rest ih =>
      obtain ⟨first, others⟩ := List.forall_mem_cons.mp each
      cases rest with
      | nil => simpa using first
      | cons next rest =>
          rw [String.intercalate_cons_cons, String.toList_append, String.toList_append]
          simp only [List.mem_append, not_or]
          exact ⟨⟨first, between⟩, ih others⟩

mutual

theorem not_mem_indentedAt (width depth : Nat) :
    ∀ value, '\r' ∉ (indentedAt width depth value).toList
  | .list [] => by simp [indentedAt]
  | .list (item :: rest) => by
      have inside := not_mem_intercalate (not_mem_comma width (depth + 1))
        (not_mem_indentedItems width (depth + 1) (item :: rest))
      simp only [indentedAt, String.toList_append, List.mem_append, not_or]
      exact ⟨⟨⟨⟨by decide, not_mem_breakLine _ _⟩, inside⟩, not_mem_breakLine _ _⟩, by decide⟩
  | .mapping [] => by simp [indentedAt]
  | .mapping (entry :: rest) => by
      have inside := not_mem_intercalate (not_mem_comma width (depth + 1))
        (not_mem_indentedEntries width (depth + 1) (entry :: rest))
      simp only [indentedAt, String.toList_append, List.mem_append, not_or]
      exact ⟨⟨⟨⟨by decide, not_mem_breakLine _ _⟩, inside⟩, not_mem_breakLine _ _⟩, by decide⟩
  | .null | .bool _ | .int _ | .float _ | .text _ => by
      simpa only [indentedAt] using not_mem_leafText _

theorem not_mem_indentedItems (width depth : Nat) :
    ∀ items, ∀ text ∈ indentedItems width depth items, '\r' ∉ text.toList
  | [] => by simp [indentedItems]
  | item :: rest => by
      rw [indentedItems, List.forall_mem_cons]
      exact ⟨not_mem_indentedAt width depth item, not_mem_indentedItems width depth rest⟩

theorem not_mem_indentedEntries (width depth : Nat) :
    ∀ entries, ∀ text ∈ indentedEntries width depth entries, '\r' ∉ text.toList
  | [] => by simp [indentedEntries]
  | (key, value) :: rest => by
      rw [indentedEntries, List.forall_mem_cons]
      refine ⟨?_, not_mem_indentedEntries width depth rest⟩
      simp [not_mem_textLiteral, not_mem_indentedAt width depth value]

end

theorem unifyBreaks_indented (width : Nat) (value : Value) :
    Text.unifyBreaks (indented width value) = indented width value :=
  Text.unifyBreaks_of_not_mem (not_mem_indentedAt width 0 value)

/-- A text is read as its characters are. -/
theorem parse_of_toList [Host] {text : String} {value : Value} (characters : List Char)
    (same : text.toList = characters)
    (read : readValue Host.jsonDepth (2 * characters.length + 2) [] (skip characters) =
      .ok (value, [])) :
    parse text = .ok value := by
  simp only [parse, same, read]
  rfl

end Json

end SignalFlow
