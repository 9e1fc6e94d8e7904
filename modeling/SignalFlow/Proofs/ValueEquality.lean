import SignalFlow.Value

/-! # Equality of values

Values are equal if they are built alike (`Value.isAlike`), so their equality can be decided.
-/

namespace SignalFlow

namespace Value

mutual

/-- Whether two values are built alike. -/
def isAlike : Value → Value → Bool
  | .null, .null => true
  | .bool a, .bool b => decide (a = b)
  | .int a, .int b => decide (a = b)
  | .float a, .float b => decide (a = b)
  | .text a, .text b => decide (a = b)
  | .list a, .list b => areAlike a b
  | .mapping a, .mapping b => entriesAlike a b
  | _, _ => false

/-- Whether the items of two lists are built alike. -/
def areAlike : List Value → List Value → Bool
  | [], [] => true
  | a :: rest, b :: others => isAlike a b && areAlike rest others
  | _, _ => false

/-- Whether the entries of two mappings are built alike. -/
def entriesAlike : List (String × Value) → List (String × Value) → Bool
  | [], [] => true
  | (key, a) :: rest, (name, b) :: others =>
      decide (key = name) && (isAlike a b && entriesAlike rest others)
  | _, _ => false

end

mutual

theorem isAlike_iff : ∀ a b : Value, isAlike a b = true ↔ a = b
  | .null, b | .bool _, b | .int _, b | .float _, b | .text _, b => by
      cases b <;> simp [isAlike]
  | .list a, b => by
      cases b with
      | list b => simp [isAlike, areAlike_iff a b]
      | _ => simp [isAlike]
  | .mapping a, b => by
      cases b with
      | mapping b => simp [isAlike, entriesAlike_iff a b]
      | _ => simp [isAlike]

theorem areAlike_iff : ∀ a b : List Value, areAlike a b = true ↔ a = b
  | [], b => by cases b <;> simp [areAlike]
  | a :: rest, b => by
      cases b with
      | nil => simp [areAlike]
      | cons b others => simp [areAlike, isAlike_iff a b, areAlike_iff rest others]

theorem entriesAlike_iff : ∀ a b : List (String × Value), entriesAlike a b = true ↔ a = b
  | [], b => by cases b <;> simp [entriesAlike]
  | (key, a) :: rest, b => by
      cases b with
      | nil => simp [entriesAlike]
      | cons entry others =>
          obtain ⟨name, b⟩ := entry
          simp [entriesAlike, isAlike_iff a b, entriesAlike_iff rest others, and_assoc]

end

instance : DecidableEq Value := fun a b => decidable_of_iff _ (isAlike_iff a b)

end Value

end SignalFlow
