import SignalFlow.Code.Rules
import SignalFlow.Code.Text
import Mathlib.Logic.Function.Basic

/-! # Running generated statements

What the statements of a generated program do to what it holds (`Statement.run?`, `runAll?`). They
are run one after the other; a loop over an array moves one item at a time, in the order in which it
counts. A run breaks off where it reads a field that is not declared, a value that is not computed
yet, or an item beyond the end of an array.

Apart from its own statements a program calls functions (`Library`), of which nothing is known here:
those of its language, and the step of a transfer function.
-/

namespace SignalFlow.Code

variable {α : Type}

/-! ## What a program holds -/

/-- What a state field holds. -/
inductive Content (α : Type) where
  | number (value : α)
  | items (values : List α)
  | cursor (place : Nat)
  /-- The state of a noise generator. -/
  | noise (state : UInt32)

/-- What a generated program holds while it runs. A field that is not declared holds nothing. -/
structure Store (α : Type) where
  outputs : Nat → α
  settled : Nat → Bool
  fields : Field → Option (Content α)
  locals : Local → Option α
  /-- Whether the pass has changed something. -/
  changed : Bool
  published : String → Option α

/-- The functions that a generated program calls. -/
structure Library (α : Type) where
  sin : α → Option α
  abs : α → α
  min : α → α → α
  max : α → α → α
  /-- The state of the transfer function of a block, of an order, after a step with an input. -/
  rungeKutta : (handle order : Nat) → (state : List α) → (input step : α) → List α

/-- What a tick is run with. -/
structure Surroundings (α : Type) where
  library : Library α
  time : α
  step : α
  inputs : String → α

namespace Store

/-- With other contents of a field. -/
def withField (store : Store α) (field : Field) (content : Content α) : Store α :=
  { store with fields := Function.update store.fields field (some content) }

@[simp] theorem fields_withField_self (store : Store α) (field : Field) (content : Content α) :
    (store.withField field content).fields field = some content :=
  Function.update_self ..

@[simp] theorem fields_withField_of_ne {field other : Field} (different : other ≠ field)
    (store : Store α) (content : Content α) :
    (store.withField field content).fields other = store.fields other :=
  Function.update_of_ne different ..

@[simp] theorem outputs_withField (store : Store α) (field : Field) (content : Content α) :
    (store.withField field content).outputs = store.outputs := rfl

@[simp] theorem locals_withField (store : Store α) (field : Field) (content : Content α) :
    (store.withField field content).locals = store.locals := rfl

theorem withField_withField (store : Store α) (field : Field) (content other : Content α) :
    (store.withField field content).withField field other = store.withField field other := by
  simp [withField]

theorem withField_of_fields {store : Store α} {field : Field} {content : Content α}
    (held : store.fields field = some content) : store.withField field content = store := by
  unfold withField
  rw [← held, Function.update_eq_self]

/-- With a value that is computed on the way. -/
def withLocal (store : Store α) (name : Local) (value : α) : Store α :=
  { store with locals := Function.update store.locals name (some value) }

@[simp] theorem fields_withLocal (store : Store α) (name : Local) (value : α) :
    (store.withLocal name value).fields = store.fields := rfl

@[simp] theorem outputs_withLocal (store : Store α) (name : Local) (value : α) :
    (store.withLocal name value).outputs = store.outputs := rfl

@[simp] theorem locals_withLocal_self (store : Store α) (name : Local) (value : α) :
    (store.withLocal name value).locals name = some value :=
  Function.update_self ..

/-- The number in a field; the state of a noise generator counts as one. -/
def number? [Scalar α] (store : Store α) (field : Field) : Option α :=
  match store.fields field with
  | some (.number value) => some value
  | some (.noise state) => some (Scalar.ofCount state.toNat)
  | _ => none

/-- The items of an array. -/
def items? (store : Store α) (field : Field) : Option (List α) :=
  match store.fields field with
  | some (.items values) => some values
  | _ => none

/-- Where a cursor stands. -/
def cursor? (store : Store α) (field : Field) : Option Nat :=
  match store.fields field with
  | some (.cursor place) => some place
  | _ => none

/-- Around the end of an array of a size, which has at least one item. -/
def around? (size place : Nat) : Option Nat := if size = 0 then none else some (place % size)

/-- Which item is meant by a place. -/
def place? (store : Store α) : Place → Option Nat
  | .at place => some place
  | .cursor idx => store.cursor? idx
  | .ahead idx steps size => do around? size ((← store.cursor? idx) + steps)

/-- Stores a number into a field that holds one. -/
def putNumber? (store : Store α) (field : Field) (value : α) : Option (Store α) :=
  match store.fields field with
  | some (.number _) => some (store.withField field (.number value))
  | _ => none

/-- Stores a number into an item of an array. -/
def putItem? (store : Store α) (array : Field) (place : Nat) (value : α) : Option (Store α) := do
  let values ← store.items? array
  if place < values.length then some (store.withField array (.items (values.set place value)))
  else none

/-- Stores a number. -/
def put? (store : Store α) (value : α) : Target → Option (Store α)
  | .output handle => some { store with outputs := Function.update store.outputs handle value }
  | .field stored => store.putNumber? stored value
  | .item array place => store.putItem? array place value
  | .ahead array idx steps size => do
      store.putItem? array (← store.place? (.ahead idx steps size)) value

/-- Gives an item of an array the value of another one. -/
def move? (store : Store α) (array : Field) (source target : Nat) : Option (Store α) := do
  store.putItem? array target (← (← store.items? array)[source]?)

end Store

/-! ## Terms and tests -/

section Values

variable [Scalar α]

/-- Whether two numbers compare in a way. -/
def Relation.holds (relation : Relation) (a b : α) : Bool :=
  match relation with
  | .lt => a < b
  | .le => a ≤ b
  | .gt => b < a
  | .ge => b ≤ a
  | .ne => a != b

/-- The value of a term. -/
def Term.value? (around : Surroundings α) (store : Store α) : Term α → Option α
  | .number value => some value
  | .time => some around.time
  | .step => some around.step
  | .pi => some Scalar.pi
  | .output handle => some (store.outputs handle)
  | .field read => store.number? read
  | .item array place => do (← store.items? array)[← store.place? place]?
  | .localValue name => store.locals name
  | .external name => some (around.inputs name)
  | .add a b => return (← a.value? around store) + (← b.value? around store)
  | .sub a b => return (← a.value? around store) - (← b.value? around store)
  | .mul a b => return (← a.value? around store) * (← b.value? around store)
  | .div a b => return (← a.value? around store) / (← b.value? around store)
  | .sin a => do around.library.sin (← a.value? around store)
  | .abs a => return around.library.abs (← a.value? around store)
  | .min a b => return around.library.min (← a.value? around store) (← b.value? around store)
  | .max a b => return around.library.max (← a.value? around store) (← b.value? around store)
  | .choice relation a b ifTrue ifFalse => do
      if relation.holds (← a.value? around store) (← b.value? around store) then
        ifTrue.value? around store
      else ifFalse.value? around store
  | .grouped a => a.value? around store

/-- Whether a test holds. The candidate is read only for a block that is settled. -/
def Test.holds? (around : Surroundings α) (store : Store α) : Test α → Option Bool
  | .compare relation a b =>
      return relation.holds (← a.value? around store) (← b.value? around store)
  | .settled handles => some (handles.all store.settled)
  | .stale handle =>
      if store.settled handle then (store.locals .candidate).map (store.outputs handle != ·)
      else some true

end Values

/-! ## Statements -/

/-- Runs a body for some numbers, one after the other. -/
def loop (numbers : List Nat) (body : Nat → Store α → Option (Store α)) (store : Store α) :
    Option (Store α) :=
  numbers.foldlM (fun store number => body number store) store

/-- The numbers that a loop counts down from a first one to one. -/
def countDown : Nat → List Nat
  | 0 => []
  | first + 1 => (first + 1) :: countDown first

/-- The numbers that a loop counts up from zero, below a bound. -/
def countUp (bound : Nat) : List Nat := List.range bound

/-- How a loop counts. -/
inductive Counting where
  /-- Up from zero, below a bound. -/
  | up (bound : Nat)
  /-- Down from a number to one. -/
  | down (first : Nat)

/-- The numbers that a loop counts, one after the other. -/
def Counting.numbers : Counting → List Nat
  | .up bound => countUp bound
  | .down first => countDown first

/-- What stands before the body of a loop. -/
def Counting.text (language : Language) : Counting → String
  | .up bound =>
      match language with
      | .python => "for i in range(" ++ Decimal.digitsOf bound ++ "):"
      | .c => "for (int i = 0; i < " ++ Decimal.digitsOf bound ++ "; i++) "
  | .down first =>
      match language with
      | .python => "for i in range(" ++ Decimal.digitsOf first ++ ", 0, -1):"
      | .c => "for (int i = " ++ Decimal.digitsOf first ++ "; i > 0; i--) "

/-- The item beside the one that a loop has come to. -/
inductive Beside where
  | before | behind

/-- The place of an item beside another one. -/
def Beside.place : Beside → Nat → Nat
  | .before, i => i - 1
  | .behind, i => i + 1

/-- The item beside the one at `i`, as it is written behind the name of an array. -/
def Beside.text : Beside → String
  | .before => "[i - 1]"
  | .behind => "[i + 1]"

/-- A loop over an array, which gives each item that it comes to the value of the one beside it. -/
structure Shift where
  counting : Counting
  source : Beside

namespace Shift

/-- The lines of a loop; there are none if it does not come to any item. -/
def lines (language : Language) (array : String) (shift : Shift) : List String :=
  if shift.counting.numbers.isEmpty then []
  else
    let start := shift.counting.text language
    match language with
    | .python => [start, "    " ++ array ++ "[i] = " ++ array ++ shift.source.text]
    | .c => [start ++ array ++ "[i] = " ++ array ++ shift.source.text ++ ";"]

/-- Runs a loop. -/
def run? (array : Field) (shift : Shift) (store : Store α) : Option (Store α) :=
  loop shift.counting.numbers (fun i store => store.move? array (shift.source.place i) i) store

end Shift

/-- The loop that a statement is, with its array. -/
def Statement.shift? : Statement α → Option (Field × Shift)
  | .shiftRight array length => some (array, ⟨.down (length - 1), .before⟩)
  | .shiftLeft array length => some (array, ⟨.up (length - 1), .behind⟩)
  | _ => none

variable [Scalar α]

mutual

/-- Runs a statement. -/
def Statement.run? (around : Surroundings α) (store : Store α) : Statement α → Option (Store α)
  | .comment _ => some store
  | .store target value => do store.put? (← value.value? around store) target
  | .increase stored amount => do
      store.putNumber? stored ((← store.number? stored) + (← amount.value? around store))
  | .define name value => return store.withLocal name (← value.value? around store)
  | .settle handle => some { store with settled := Function.update store.settled handle true }
  | .progress => some { store with changed := true }
  | .advance idx size => do
      let place ← Store.around? size ((← store.cursor? idx) + 1)
      return store.withField idx (.cursor place)
  | .drawNoise rng =>
      match store.fields rng with
      | some (.noise state) => some (store.withField rng (.noise (nextNoise state)))
      | _ => none
  | .rungeKutta state handle order input => do
      let values ← store.items? state
      let u ← input.value? around store
      return store.withField state
        (.items (around.library.rungeKutta handle order values u around.step))
  | .shiftRight array length =>
      loop (countDown (length - 1)) (fun i store => store.move? array (i - 1) i) store
  | .shiftLeft array length =>
      loop (countUp (length - 1)) (fun i store => store.move? array (i + 1) i) store
  | .publish name handle =>
      some { store with
        published := Function.update store.published name (some (store.outputs handle)) }
  | .when test body => do
      if ← test.holds? around store then runAll? around store body else some store
  | .block body => runAll? around store body

/-- Runs some statements, one after the other. -/
def runAll? (around : Surroundings α) (store : Store α) : List (Statement α) → Option (Store α)
  | [] => some store
  | first :: rest => do runAll? around (← first.run? around store) rest

end

/-- A statement that is a loop is run as one. -/
theorem run?_of_shift? {statement : Statement α} {array : Field} {shift : Shift}
    (shifts : statement.shift? = some (array, shift)) (around : Surroundings α) (store : Store α) :
    statement.run? around store = shift.run? array store := by
  cases statement <;> cases shifts <;> rw [Statement.run?] <;> rfl

theorem shiftRight_eq_lines (language : Language) (array : String) (length : Nat) :
    language.shiftRight array length =
      (⟨.down (length - 1), .before⟩ : Shift).lines language array := by
  have ends : "[i - 1];" = "[i - 1]" ++ ";" := by decide +kernel
  unfold Language.shiftRight Shift.lines
  match length with
  | 0 | 1 => rfl
  | length + 2 =>
      rw [if_neg (by omega), if_neg (by simp [Counting.numbers, countDown])]
      cases language with
      | python => rfl
      | c =>
          rw [ends]
          exact congrArg (fun line => [line]) (String.append_assoc ..).symm

theorem shiftLeft_eq_lines (language : Language) (array : String) (length : Nat) :
    language.shiftLeft array length =
      (⟨.up (length - 1), .behind⟩ : Shift).lines language array := by
  have ends : "[i + 1];" = "[i + 1]" ++ ";" := by decide +kernel
  unfold Language.shiftLeft Shift.lines
  match length with
  | 0 | 1 => rfl
  | length + 2 =>
      rw [if_neg (by omega), if_neg (by simp [Counting.numbers, countUp])]
      cases language with
      | python => rfl
      | c =>
          rw [ends]
          exact congrArg (fun line => [line]) (String.append_assoc ..).symm

/-- A statement that is a loop is written as one. -/
theorem statement_of_shift? {statement : Statement Float} {array : Field} {shift : Shift}
    (shifts : statement.shift? = some (array, shift)) (language : Language) :
    language.statement statement = shift.lines language (language.field array) := by
  cases statement with
  | shiftRight array length =>
      cases shifts
      rw [Language.statement, shiftRight_eq_lines]
  | shiftLeft array length =>
      cases shifts
      rw [Language.statement, shiftLeft_eq_lines]
  | _ => cases shifts

end SignalFlow.Code
