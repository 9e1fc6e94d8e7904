import SignalFlow.Constants

/-! # Texts of values

A text can be made of a value unless something in it stands in the way: a whole number that is too
long, or values nested too deep. What the search for an obstacle finds (`Value.obstacle?`) is what
stands in the way first (`Value.Obstructs`), and it finds nothing exactly if everything in a value
can be written (`Value.IsWritable`). Nothing stands in the way of a text.
-/

namespace SignalFlow

namespace Value

/-! ## Obstacles -/

/-- A value can be written with `room` for that many levels of values, itself among them: it is not
nested deeper, and no whole number in it is too long. -/
inductive IsWritable : Nat → Value → Prop
  | null {room : Nat} : IsWritable (room + 1) .null
  | bool {room : Nat} {b : Bool} : IsWritable (room + 1) (.bool b)
  | int {room : Nat} {n : Int} (short : n.natAbs < Nat.pow 10 Number.digitLimit) :
      IsWritable (room + 1) (.int n)
  | float {room : Nat} {x : Float} : IsWritable (room + 1) (.float x)
  | text {room : Nat} {text : String} : IsWritable (room + 1) (.text text)
  | list {room : Nat} {items : List Value} (each : ∀ item ∈ items, IsWritable room item) :
      IsWritable (room + 1) (.list items)
  | mapping {room : Nat} {entries : List (String × Value)}
      (each : ∀ entry ∈ entries, IsWritable room entry.2) : IsWritable (room + 1) (.mapping entries)

/-- What stands first in the way of a value that is written from left to right, with `room` for that
many levels of values: a value for which there is no level left, or a long whole number. -/
inductive Obstructs : Nat → Value → Fault → Prop
  | deep {value : Value} : Obstructs 0 value .tooDeep
  | long {room : Nat} {n : Int} (long : Nat.pow 10 Number.digitLimit ≤ n.natAbs) :
      Obstructs (room + 1) (.int n) .undefined
  | item {room : Nat} {before after : List Value} {item : Value} {fault : Fault}
      (written : ∀ other ∈ before, IsWritable room other) (obstructs : Obstructs room item fault) :
      Obstructs (room + 1) (.list (before ++ item :: after)) fault
  | entry {room : Nat} {before after : List (String × Value)} {entry : String × Value}
      {fault : Fault} (written : ∀ other ∈ before, IsWritable room other.2)
      (obstructs : Obstructs room entry.2 fault) :
      Obstructs (room + 1) (.mapping (before ++ entry :: after)) fault

/-- What a search for an obstacle finds: nothing, or what stands in the way first. -/
inductive Finds (room : Nat) (value : Value) : Option Fault → Prop
  | nothing (written : IsWritable room value) : Finds room value none
  | obstacle {fault : Fault} (obstructs : Obstructs room value fault) :
      Finds room value (some fault)

theorem finds_ite {room : Nat} {value : Value} {fault : Fault} {hinders : Prop} [Decidable hinders]
    (obstructs : hinders → Obstructs room value fault)
    (written : ¬ hinders → IsWritable room value) :
    Finds room value (if hinders then some fault else none) := by
  split
  · next holds => exact .obstacle (obstructs holds)
  · next fails => exact .nothing (written fails)

mutual

/-- The search finds what stands in the way first. -/
theorem finds_obstacle? : (room : Nat) → (value : Value) → Finds room value (obstacle? room value)
  | 0, value => by
      unfold obstacle?
      exact .obstacle .deep
  | room + 1, value => by
      unfold obstacle?
      rw [if_neg (by rw [Nat.beq_eq_true_eq]; exact Nat.succ_ne_zero room)]
      cases value with
      | null => exact .nothing .null
      | bool => exact .nothing .bool
      | float => exact .nothing .float
      | text => exact .nothing .text
      | int n => exact finds_ite .long fun short => .int (Nat.lt_of_not_le short)
      | list items => exact finds_obstacleAmong? room [] items nofun
      | mapping entries => exact finds_obstacleUnder? room [] entries nofun

/-- The items of a list are searched once those before them can be written. -/
theorem finds_obstacleAmong? (room : Nat) (before : List Value) : (items : List Value) →
    (∀ other ∈ before, IsWritable room other) →
      Finds (room + 1) (.list (before ++ items)) (obstacleAmong? room items)
  | [], written => .nothing (.list (by simpa using written))
  | item :: rest, written => by
      rw [obstacleAmong?]
      have own := finds_obstacle? room item
      generalize obstacle? room item = found at own ⊢
      cases own with
      | obstacle obstructs => exact .obstacle (.item written obstructs)
      | nothing first =>
          have others := finds_obstacleAmong? room (before ++ [item]) rest
            (List.forall_mem_append.mpr ⟨written, List.forall_mem_singleton.mpr first⟩)
          rwa [List.append_assoc] at others

/-- The entries of a mapping are searched once those before them can be written. -/
theorem finds_obstacleUnder? (room : Nat) (before : List (String × Value)) :
    (entries : List (String × Value)) → (∀ other ∈ before, IsWritable room other.2) →
      Finds (room + 1) (.mapping (before ++ entries)) (obstacleUnder? room entries)
  | [], written => .nothing (.mapping (by simpa using written))
  | (key, value) :: rest, written => by
      rw [obstacleUnder?]
      have own := finds_obstacle? room value
      generalize obstacle? room value = found at own ⊢
      cases own with
      | obstacle obstructs => exact .obstacle (.entry written obstructs)
      | nothing first =>
          have others := finds_obstacleUnder? room (before ++ [(key, value)]) rest
            (List.forall_mem_append.mpr ⟨written, List.forall_mem_singleton.mpr first⟩)
          rwa [List.append_assoc] at others

end

/-! ## What is found -/

variable {room : Nat} {value : Value} {fault : Fault}

theorem Obstructs.not_isWritable (obstructs : Obstructs room value fault) :
    ¬ IsWritable room value := by
  induction obstructs with
  | deep => exact nofun
  | long long =>
      rintro (_ | _ | short)
      exact absurd short (Nat.not_lt.mpr long)
  | item _ _ ih =>
      rintro (_ | _ | _ | _ | _ | each)
      exact ih (each _ (by simp))
  | entry _ _ ih =>
      rintro (_ | _ | _ | _ | _ | _ | each)
      exact ih (each _ (by simp))

/-- A list has only one first item without a property. -/
theorem eq_of_first {α : Type} {property : α → Prop} {before other after rest : List α} {x y : α}
    (same : before ++ x :: after = other ++ y :: rest) (first : ∀ z ∈ before, property z)
    (lacks : ¬ property x) (otherFirst : ∀ z ∈ other, property z) (otherLacks : ¬ property y) :
    x = y := by
  rcases List.append_eq_append_iff.mp same with ⟨more, rfl, split⟩ | ⟨more, rfl, split⟩
  · cases more with
    | nil => exact (List.cons.inj split).1
    | cons z more =>
        obtain ⟨rfl, -⟩ := List.cons.inj split
        exact absurd (otherFirst x (by simp)) lacks
  · cases more with
    | nil => exact (List.cons.inj split).1.symm
    | cons z more =>
        obtain ⟨rfl, -⟩ := List.cons.inj split
        exact absurd (first y (by simp)) otherLacks

theorem Obstructs.unique {other : Fault} (obstructs : Obstructs room value fault)
    (otherObstructs : Obstructs room value other) : fault = other := by
  induction obstructs with
  | deep =>
      cases otherObstructs
      rfl
  | long long =>
      cases otherObstructs
      rfl
  | @item room before after item fault written obstructs ih =>
      generalize same : before ++ item :: after = items at otherObstructs
      cases otherObstructs with
      | item otherWritten later =>
          obtain rfl := eq_of_first same written obstructs.not_isWritable otherWritten
            later.not_isWritable
          exact ih later
  | @entry room before after entry fault written obstructs ih =>
      generalize same : before ++ entry :: after = entries at otherObstructs
      cases otherObstructs with
      | entry otherWritten later =>
          obtain rfl := eq_of_first same written obstructs.not_isWritable otherWritten
            later.not_isWritable
          exact ih later

theorem obstacle?_eq_none_iff : obstacle? room value = none ↔ IsWritable room value := by
  have found := finds_obstacle? room value
  generalize obstacle? room value = obstacle at found
  cases found with
  | nothing written => exact iff_of_true rfl written
  | obstacle obstructs => exact iff_of_false nofun obstructs.not_isWritable

theorem obstacle?_eq_some_iff : obstacle? room value = some fault ↔ Obstructs room value fault := by
  have found := finds_obstacle? room value
  generalize obstacle? room value = obstacle at found
  cases found with
  | nothing written => exact iff_of_false nofun fun obstructs => obstructs.not_isWritable written
  | obstacle obstructs =>
      rw [Option.some_inj]
      exact ⟨fun same => same ▸ obstructs, obstructs.unique⟩

/-- What stands in the way of a text is a long number or the nesting. -/
theorem Obstructs.fault_eq (obstructs : Obstructs room value fault) :
    fault = .tooDeep ∨ fault = .undefined := by
  induction obstructs with
  | deep => exact .inl rfl
  | long => exact .inr rfl
  | item _ _ ih => exact ih
  | entry _ _ ih => exact ih

/-! ## Texts -/

section Texts

variable [Host] {text : String}

theorem toText_eq_ok_iff : value.toText = .ok text ↔
    IsWritable (Host.textDepth + 1) value ∧ value.written = text := by
  rw [← obstacle?_eq_none_iff]
  unfold toText
  cases value.obstacle? (Host.textDepth + 1) <;> simp

theorem toText_eq_error_iff :
    value.toText = .error fault ↔ Obstructs (Host.textDepth + 1) value fault := by
  rw [← obstacle?_eq_some_iff]
  unfold toText
  cases value.obstacle? (Host.textDepth + 1) <;> simp

theorem exists_toText_eq_ok_iff :
    (∃ text, value.toText = .ok text) ↔ IsWritable (Host.textDepth + 1) value := by
  simp [toText_eq_ok_iff]

theorem of_toText_eq_error (fails : value.toText = .error fault) :
    fault = .tooDeep ∨ fault = .undefined :=
  (toText_eq_error_iff.mp fails).fault_eq

@[simp] theorem toText_text (text : String) : (Value.text text).toText = .ok text :=
  toText_eq_ok_iff.mpr ⟨.text, rfl⟩

end Texts

end Value

namespace Constants

@[simp] theorem resolve_text [Host] (constants : Constants) (text : String) :
    constants.resolve (.text text) = constants.resolveText text := by
  simp only [resolve, number?, Option.getD_none, Value.toText_text, Except.bind]

theorem resolveList_text [Host] (constants : Constants) (text : String) :
    constants.resolveList (.text text) = (listItems text).mapM constants.resolveText := by
  simp only [resolveList, number?, Value.toText_text, Except.bind]

end Constants

end SignalFlow
