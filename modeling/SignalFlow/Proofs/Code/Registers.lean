import SignalFlow.Host.Usual
import SignalFlow.Proofs.Code.Execution
import SignalFlow.Proofs.Code.Scope
import SignalFlow.Proofs.Persistence

/-! # Registers in generated programs

A sampled delay and a discrete transfer function keep their registers as lists: a firing takes an
item off one end and adds one at the other. A generated program has arrays, which it moves item by
item and in place (`loop_countDown`, `loop_countUp`), and has no loop where there is nothing to move
and no array where there is nothing to keep. `Store.Holds` says what both have in common. It holds
where the fields are as they are declared (`Store.holds_start`), and a tick of the program keeps it
(`runAll?_update_ddelay`, `runAll?_update_dtf`), so the registers agree whenever the clock fires,
and whatever is shifted in. A shift is run as the loop that is written for it (`Shift`).
-/

namespace SignalFlow.Code

variable {α : Type} [Scalar α]

/-! ## Loops over an array -/

section Loops

variable {array : Field} {store : Store α} {values : List α}
  (held : store.fields array = some (.items values))
include held

omit [Scalar α] in
theorem Store.items?_of_fields : store.items? array = some values := by
  rw [Store.items?, held]

omit [Scalar α] in
theorem Store.putItem?_of_lt {place : Nat} (inside : place < values.length) (value : α) :
    store.putItem? array place value =
      some (store.withField array (.items (values.set place value))) := by
  simp [Store.putItem?, Store.items?_of_fields held, inside]

omit [Scalar α] in
theorem Store.move?_of_getElem? {source target : Nat} {item : α}
    (found : values[source]? = some item) (inside : target < values.length) :
    store.move? array source target =
      some (store.withField array (.items (values.set target item))) := by
  simp [Store.move?, Store.items?_of_fields held, found, Store.putItem?_of_lt held inside]

end Loops

omit [Scalar α] in
theorem drop_set_self {values : List α} {place : Nat} (inside : place < values.length) (value : α) :
    (values.set place value).drop place = value :: values.drop (place + 1) := by
  rw [List.drop_eq_getElem_cons (by rwa [List.length_set]), List.getElem_set_self,
    List.drop_set_of_lt (Nat.lt_succ_self place)]

omit [Scalar α] in
/-- Counting down, each item is moved before its place is taken: the first items stand one place
later in the end, and the first one stays where it was as well. -/
theorem loop_countDown {array : Field} {store : Store α} {values : List α} {first : Nat}
    (held : store.fields array = some (.items values)) (inside : first < values.length) :
    loop (countDown first) (fun i store => store.move? array (i - 1) i) store =
      some (store.withField array
        (.items (values.take 1 ++ values.take first ++ values.drop (first + 1)))) := by
  induction first generalizing store values with
  | zero =>
      rw [List.take_zero, List.append_nil, List.take_append_drop, Store.withField_of_fields held]
      rfl
  | succ first ih =>
      have moved := Store.move?_of_getElem? held
        (List.getElem?_eq_getElem (Nat.lt_of_succ_lt inside)) inside
      have rest := ih (Store.fields_withField_self store array
        (.items (values.set (first + 1) values[first])))
        (by rw [List.length_set]; exact Nat.lt_of_succ_lt inside)
      have items : (values.set (first + 1) values[first]).take 1 ++
          (values.set (first + 1) values[first]).take first ++
            (values.set (first + 1) values[first]).drop (first + 1) =
          values.take 1 ++ values.take (first + 1) ++ values.drop (first + 1 + 1) := by
        rw [List.take_set_of_le (by omega), List.take_set_of_le (by omega), drop_set_self inside,
          List.take_succ_eq_append_getElem (Nat.lt_of_succ_lt inside)]
        simp only [List.append_assoc, List.singleton_append]
      rw [items, Store.withField_withField] at rest
      simpa [loop, countDown, moved] using rest

omit [Scalar α] in
theorem loop_countUp_succ (bound : Nat) (body : Nat → Store α → Option (Store α))
    (store : Store α) :
    loop (countUp (bound + 1)) body store = loop (countUp bound) body store >>= body bound := by
  simp [loop, countUp, List.range_succ, List.foldlM_append]

omit [Scalar α] in
/-- Counting up, each item is moved before its place is taken: the items from the second one on
stand one place earlier in the end. -/
theorem loop_countUp {array : Field} {store : Store α} {values : List α} {bound : Nat}
    (held : store.fields array = some (.items values)) (inside : bound < values.length) :
    loop (countUp bound) (fun i store => store.move? array (i + 1) i) store =
      some (store.withField array
        (.items ((values.drop 1).take bound ++ values.drop bound))) := by
  induction bound with
  | zero =>
      rw [List.take_zero, List.nil_append, List.drop_zero, Store.withField_of_fields held]
      rfl
  | succ bound ih =>
      have before := ih (Nat.lt_of_succ_lt inside)
      have length : ((values.drop 1).take bound).length = bound := by
        rw [List.length_take, List.length_drop]
        omega
      have current : values.drop bound = values[bound] :: values.drop (bound + 1) :=
        List.drop_eq_getElem_cons _
      have next : ((values.drop 1).take bound ++ values.drop bound)[bound + 1]? =
          some values[bound + 1] := by
        rw [List.getElem?_append_right (by omega), length, List.getElem?_drop,
          show bound + (bound + 1 - bound) = bound + 1 by omega, List.getElem?_eq_getElem inside]
      have items : ((values.drop 1).take bound ++ values.drop bound).set bound values[bound + 1] =
          (values.drop 1).take (bound + 1) ++ values.drop (bound + 1) := by
        rw [List.set_append_right _ _ (by omega), length, Nat.sub_self, current, List.set_cons_zero,
          List.take_succ_eq_append_getElem (by rw [List.length_drop]; omega), List.getElem_drop]
        simp [Nat.add_comm]
      rw [loop_countUp_succ, before, Option.bind_eq_bind, Option.bind_some,
        Store.move?_of_getElem? (Store.fields_withField_self ..) next
          (by rw [List.length_append, length, List.length_drop]; omega),
        items, Store.withField_withField]

/-! ## Statements -/

section Statements

variable {around : Surroundings α} {store : Store α}

@[simp] theorem runAll?_nil : runAll? around store [] = some store := by
  rw [runAll?]

theorem runAll?_cons (first : Statement α) (rest : List (Statement α)) :
    runAll? around store (first :: rest) =
      (first.run? around store).bind fun after => runAll? around after rest := by
  rw [runAll?]
  rfl

theorem runAll?_append (first rest : List (Statement α)) :
    runAll? around store (first ++ rest) =
      (runAll? around store first).bind fun after => runAll? around after rest := by
  induction first generalizing store with
  | nil => simp
  | cons statement first ih =>
      rw [List.cons_append, runAll?_cons, runAll?_cons, Option.bind_assoc]
      exact congrArg _ (funext fun after => ih)

/-- The comment and the scope around the update of a block do nothing of their own. -/
theorem runAll?_updateBlock (node : Node α) (code : BlockCode α) :
    runAll? around store (Program.updateBlock node code) = runAll? around store code.update := by
  unfold Program.updateBlock
  split
  · rename_i empty
    rw [List.isEmpty_iff.mp empty]
  · simp [runAll?_cons, Program.describe, Statement.run?]

section Arrays

variable {array : Field} {values : List α} (held : store.fields array = some (.items values))
  (nonempty : values ≠ [])
include held nonempty

theorem run?_shiftRight :
    (Statement.shiftRight array values.length).run? around store =
      some (store.withField array (.items (values.take 1 ++ values.dropLast))) := by
  have positive := List.length_pos_iff.mpr nonempty
  have run := loop_countDown held (Nat.sub_one_lt_of_lt positive)
  rw [Nat.sub_add_cancel positive, List.drop_length, List.append_nil,
    ← List.dropLast_eq_take] at run
  rw [Statement.run?]
  exact run

theorem run?_shiftLeft :
    (Statement.shiftLeft array values.length).run? around store =
      some (store.withField array (.items (values.tail ++ [values.getLast nonempty]))) := by
  have positive := List.length_pos_iff.mpr nonempty
  have run := loop_countUp held (Nat.sub_one_lt_of_lt positive)
  rw [List.drop_length_sub_one nonempty, List.drop_one, List.take_of_length_le (by simp)] at run
  rw [Statement.run?]
  exact run

omit nonempty in
theorem run?_store_item {place : Nat} (inside : place < values.length) {term : Term α} {value : α}
    (computed : term.value? around store = some value) :
    (Statement.store (.item array place) term).run? around store =
      some (store.withField array (.items (values.set place value))) := by
  simp [Statement.run?, computed, Store.put?, Store.putItem?_of_lt held inside]

variable {term : Term α} {value : α} {rest : List (Statement α)}
  (computed : ∀ content, term.value? around (store.withField array content) = some value)
include computed

/-- Shifting towards the end and storing at the start shifts a number in. -/
theorem runAll?_shiftRight_store :
    runAll? around store
        (.shiftRight array values.length :: .store (.item array 0) term :: rest) =
      runAll? around (store.withField array (.items (Payload.shiftIn value values))) rest := by
  have shifted : (values.take 1 ++ values.dropLast).set 0 value = Payload.shiftIn value values := by
    obtain ⟨first, others, rfl⟩ := List.exists_cons_of_ne_nil nonempty
    rfl
  rw [runAll?_cons, run?_shiftRight held nonempty, Option.bind_some, runAll?_cons,
    run?_store_item (Store.fields_withField_self ..) _ (computed _), Option.bind_some,
    Store.withField_withField, shifted]
  rw [List.length_append, List.length_take]
  have positive := List.length_pos_iff.mpr nonempty
  omega

/-- Shifting towards the start and storing at the end drops the first item and adds a last one. -/
theorem runAll?_shiftLeft_store :
    runAll? around store (.shiftLeft array values.length ::
        .store (.item array (values.length - 1)) term :: rest) =
      runAll? around (store.withField array (.items (values.tail ++ [value]))) rest := by
  have shifted : (values.tail ++ [values.getLast nonempty]).set (values.length - 1) value =
      values.tail ++ [value] := by
    rw [List.set_append_right _ _ (by rw [List.length_tail]), List.length_tail, Nat.sub_self]
    rfl
  rw [runAll?_cons, run?_shiftLeft held nonempty, Option.bind_some, runAll?_cons,
    run?_store_item (Store.fields_withField_self ..) _ (computed _), Option.bind_some,
    Store.withField_withField, shifted]
  rw [List.length_append, List.length_tail]
  exact Nat.lt_succ_self _

end Arrays

end Statements

/-! ## Terms -/

section Terms

variable {around : Surroundings α} {store : Store α}

omit [Scalar α] in
theorem find?_map_of_mem {ports : List Nat} {port : Nat} {read : Nat → Int × α}
    (keys : ∀ port, (read port).1 = port) (listed : port ∈ ports) :
    (ports.map read).find? (·.1 == (port : Int)) = some (read port) := by
  have found : ports.find? ((·.1 == (port : Int)) ∘ read) = some port := by
    cases found : ports.find? ((·.1 == (port : Int)) ∘ read) with
    | none => simpa [keys] using List.find?_eq_none.mp found port listed
    | some other => simpa [keys] using List.find?_some found
  rw [List.find?_map, found, Option.map_some]

/-- The term of an input has the value that the block reads at that port. -/
theorem value?_input (around : Surroundings α) {outputs : Array α}
    (shown : ∀ driver, store.outputs driver = outputs.getD driver 0.0) {node : Node α} {port : Nat}
    (listed : port ∈ node.ports) :
    (input node port).value? around store = some (Inputs.value (node.inputs outputs) port) := by
  rw [Inputs.value, Node.inputs, find?_map_of_mem (fun port => by split <;> rfl) listed, input]
  cases node.driver? port with
  | none => rfl
  | some driver => exact congrArg some (shown driver)

/-- Terms joined one after the other are computed one after the other. -/
theorem value?_foldl_items (join : Term α → Term α → Term α) (operate : α → α → α)
    (joins : ∀ (a b : Term α) (x y : α), a.value? around store = some x →
      b.value? around store = some y → (join a b).value? around store = some (operate x y))
    {array : Field} {values : List α} (held : store.fields array = some (.items values))
    (factors : List α) (start : Nat) (inside : start + factors.length ≤ values.length)
    {first : Term α} {value : α} (computed : first.value? around store = some value) :
    ((factors.zipIdx start).foldl (fun sum (factor, place) =>
      join sum (.mul (.number factor) (.item array (.at place)))) first).value? around store =
      some ((List.zipWith (· * ·) factors (values.drop start)).foldl operate value) := by
  induction factors generalizing start first value with
  | nil => simpa using computed
  | cons factor factors ih =>
      rw [List.length_cons] at inside
      have product : (Term.mul (.number factor) (.item array (.at start))).value? around store =
          some (factor * values[start]) := by
        simp [Term.value?, Store.items?_of_fields held, Store.place?,
          List.getElem?_eq_getElem (show start < values.length by omega)]
      rw [List.zipIdx_cons, List.foldl_cons, List.drop_eq_getElem_cons (by omega),
        List.zipWith_cons_cons, List.foldl_cons]
      exact ih _ (by omega) (joins _ _ _ _ computed product)

/-- The term of a recurrence has the value that the recurrence has of what is in the arrays. -/
theorem value?_recurrenceOutput {model : Recurrence α} {inputs outputs : Field}
    {past earlier : List α} (pastHeld : store.fields inputs = some (.items past))
    (pastLength : past.length = model.num.length)
    (earlierHeld : earlier ≠ [] → store.fields outputs = some (.items earlier))
    (earlierLength : earlier.length = model.den.tail.length) :
    (recurrenceOutput model inputs outputs).value? around store =
      some (model.evaluate past earlier) := by
  have forward := value?_foldl_items .add (· + ·)
    (fun a b x y first second => by simp [Term.value?, first, second]) pastHeld model.num 0
    (by omega) (show (Term.number 0.0).value? around store = some 0.0 from rfl)
  by_cases empty : earlier = []
  · have none : model.den.tail = [] := by
      rw [← List.length_eq_zero_iff, ← earlierLength, empty, List.length_nil]
    simpa [recurrenceOutput, Recurrence.evaluate, none] using forward
  · have backward := value?_foldl_items .sub (· - ·)
      (fun a b x y first second => by simp [Term.value?, first, second]) (earlierHeld empty)
      model.den.tail 0 (by omega) forward
    simpa [recurrenceOutput, Recurrence.evaluate] using backward

end Terms

/-! ## What a program and a block have in common -/

/-- The fields of a block hold what the block keeps in its registers. There is no array for earlier
outputs where none are kept. -/
inductive Store.Holds (store : Store α) (handle : Nat) : Memory α → Prop
  | ddelay {buffer : List α} {last next : α}
      (buffer_eq : store.fields ⟨.buf, handle⟩ = some (.items buffer))
      (last_eq : store.fields ⟨.last, handle⟩ = some (.number last))
      (next_eq : store.fields ⟨.next, handle⟩ = some (.number next)) :
      Holds store handle (.ddelay buffer last next)
  | dtf {inputs outputs : List α} {last next : α}
      (inputs_eq : store.fields ⟨.inputHistory, handle⟩ = some (.items inputs))
      (outputs_eq : outputs ≠ [] →
        store.fields ⟨.outputHistory, handle⟩ = some (.items outputs))
      (last_eq : store.fields ⟨.last, handle⟩ = some (.number last))
      (next_eq : store.fields ⟨.next, handle⟩ = some (.number next)) :
      Holds store handle (.dtf inputs outputs last next)

omit [Scalar α] in
/-- Only the fields matter. -/
theorem Store.Holds.of_fields_eq {store other : Store α} {handle : Nat} {memory : Memory α}
    (holds : store.Holds handle memory) (same : other.fields = store.fields) :
    other.Holds handle memory := by
  cases holds with
  | ddelay buffer_eq last_eq next_eq =>
      exact .ddelay (same ▸ buffer_eq) (same ▸ last_eq) (same ▸ next_eq)
  | dtf inputs_eq outputs_eq last_eq next_eq =>
      exact .dtf (same ▸ inputs_eq) (same ▸ outputs_eq) (same ▸ last_eq) (same ▸ next_eq)

/-- Nothing is changed but the fields of a block and values that are computed on the way. -/
structure Store.Keeps (handle : Nat) (before after : Store α) : Prop where
  outputs_eq : after.outputs = before.outputs
  settled_eq : after.settled = before.settled
  changed_eq : after.changed = before.changed
  published_eq : after.published = before.published
  fields_eq {field : Field} : field.handle ≠ handle → after.fields field = before.fields field

namespace Store.Keeps

variable {handle : Nat} {before after : Store α}

omit [Scalar α] in
theorem refl (handle : Nat) (store : Store α) : Keeps handle store store :=
  ⟨rfl, rfl, rfl, rfl, fun _ => rfl⟩

omit [Scalar α] in
theorem withField (keeps : Keeps handle before after) (role : Role) (content : Content α) :
    Keeps handle before (after.withField ⟨role, handle⟩ content) where
  outputs_eq := keeps.outputs_eq
  settled_eq := keeps.settled_eq
  changed_eq := keeps.changed_eq
  published_eq := keeps.published_eq
  fields_eq := fun other => by
    rw [fields_withField_of_ne (fun same => other (congrArg Field.handle same)),
      keeps.fields_eq other]

omit [Scalar α] in
theorem withLocal (keeps : Keeps handle before after) (name : Local) (value : α) :
    Keeps handle before (after.withLocal name value) :=
  ⟨keeps.outputs_eq, keeps.settled_eq, keeps.changed_eq, keeps.published_eq, keeps.fields_eq⟩

end Store.Keeps

section Updates

variable {around : Surroundings α} {store : Store α}

theorem run?_store_field {field : Field} {held value : α} {term : Term α}
    (declared : store.fields field = some (.number held))
    (computed : term.value? around store = some value) :
    (Statement.store (.field field) term).run? around store =
      some (store.withField field (.number value)) := by
  simp [Statement.run?, computed, Store.put?, Store.putNumber?, declared]

theorem run?_define {name : Local} {value : α} {term : Term α}
    (computed : term.value? around store = some value) :
    (Statement.define name term).run? around store = some (store.withLocal name value) := by
  simp [Statement.run?, computed]

theorem run?_increase {field : Field} {held amount : α} {term : Term α}
    (declared : store.fields field = some (.number held))
    (computed : term.value? around store = some amount) :
    (Statement.increase field term).run? around store =
      some (store.withField field (.number (held + amount))) := by
  simp [Statement.run?, computed, Store.putNumber?, Store.number?, declared]

/-- What stands under a clock is run when the clock fires, which then moves on by its period. -/
theorem runAll?_clocked {field : Field} {next period : α} {body : List (Statement α)}
    (declared : store.fields field = some (.number next)) {after : Store α}
    (runs : runAll? around store body = some after)
    (kept : after.fields field = some (.number next)) :
    runAll? around store (clocked field period body) =
      some (if clockFires around.time next then after.withField field (.number (next + period))
        else store) := by
  have test : (Test.compare .ge (.add .time (.number clockTolerance)) (.field field)).holds? around
      store = some (clockFires around.time next) := by
    simp [Test.holds?, Term.value?, Store.number?, declared, Relation.holds, clockFires]
  have inner : runAll? around store (body ++ [.increase field (.number period)]) =
      some (after.withField field (.number (next + period))) := by
    rw [runAll?_append, runs, Option.bind_some, runAll?_cons, run?_increase kept rfl,
      Option.bind_some, runAll?_nil]
  rw [clocked, runAll?_cons, Statement.run?, test]
  by_cases fires : clockFires around.time next = true
  · simp [fires, inner]
  · simp [fires]

/-- A firing of a sampled delay moves its samples on and holds the oldest one. -/
theorem runAll?_delay {buf last : Field} (apart : last ≠ buf) {buffer : List α} {held value : α}
    {term : Term α} (buffer_eq : store.fields buf = some (.items buffer)) (nonempty : buffer ≠ [])
    (last_eq : store.fields last = some (.number held))
    (computed : ∀ content, term.value? around (store.withField buf content) = some value) :
    runAll? around store [.shiftLeft buf buffer.length,
        .store (.item buf (buffer.length - 1)) term,
        .store (.field last) (.item buf (.at 0))] =
      some ((store.withField buf (.items (buffer.tail ++ [value]))).withField last
        (.number ((buffer.tail ++ [value]).headD 0.0))) := by
  have oldest : (Term.item buf (.at 0)).value? around
      (store.withField buf (.items (buffer.tail ++ [value]))) =
        some ((buffer.tail ++ [value]).headD 0.0) := by
    rw [Term.value?, Store.items?_of_fields (Store.fields_withField_self ..)]
    cases buffer.tail <;> rfl
  have kept : (store.withField buf (.items (buffer.tail ++ [value]))).fields last =
      some (.number held) := by
    rw [Store.fields_withField_of_ne apart, last_eq]
  rw [runAll?_shiftLeft_store buffer_eq nonempty computed, runAll?_cons,
    run?_store_field kept oldest, Option.bind_some, runAll?_nil]

/-- Shifting a number into a register of earlier outputs, which is left out where it keeps none. -/
theorem runAll?_remember {array : Field} {earlier : List α} {value : α} {term : Term α}
    {rest : List (Statement α)}
    (earlier_eq : earlier ≠ [] → store.fields array = some (.items earlier))
    (computed : ∀ content, term.value? around (store.withField array content) = some value) :
    runAll? around store ((if earlier.length == 0 then [] else
        [.shiftRight array earlier.length, .store (.item array 0) term]) ++ rest) =
      runAll? around (if earlier = [] then store else
        store.withField array (.items (Payload.shiftIn value earlier))) rest := by
  by_cases empty : earlier = []
  · simp [empty]
  · have length : ¬ (earlier.length == 0) = true := by simpa using empty
    rw [if_neg empty, if_neg length]
    exact runAll?_shiftRight_store (earlier_eq empty) empty computed

/-- A firing of a discrete transfer function shifts its input in, evaluates the recurrence and
shifts its output in. -/
theorem exists_runAll?_recurrence {handle : Nat} {model : Recurrence α} {inputs earlier : List α}
    {held value : α} {term : Term α}
    (inputs_eq : store.fields ⟨.inputHistory, handle⟩ = some (.items inputs))
    (nonempty : inputs ≠ []) (inputs_length : inputs.length = model.num.length)
    (earlier_eq : earlier ≠ [] → store.fields ⟨.outputHistory, handle⟩ = some (.items earlier))
    (earlier_length : earlier.length + 1 = model.den.length)
    (last_eq : store.fields ⟨.last, handle⟩ = some (.number held))
    (computed : ∀ content,
      term.value? around (store.withField ⟨.inputHistory, handle⟩ content) = some value) :
    let y := model.evaluate (Payload.shiftIn value inputs) earlier
    ∃ after, runAll? around store
        ([.shiftRight ⟨.inputHistory, handle⟩ inputs.length,
          .store (.item ⟨.inputHistory, handle⟩ 0) term,
          .define (.result handle)
            (recurrenceOutput model ⟨.inputHistory, handle⟩ ⟨.outputHistory, handle⟩)] ++
          (if earlier.length == 0 then [] else
            [.shiftRight ⟨.outputHistory, handle⟩ earlier.length,
              .store (.item ⟨.outputHistory, handle⟩ 0) (.localValue (.result handle))]) ++
          [.store (.field ⟨.last, handle⟩) (.localValue (.result handle))]) = some after ∧
      after.fields ⟨.inputHistory, handle⟩ = some (.items (Payload.shiftIn value inputs)) ∧
      (Payload.shiftIn y earlier ≠ [] →
        after.fields ⟨.outputHistory, handle⟩ = some (.items (Payload.shiftIn y earlier))) ∧
      after.fields ⟨.last, handle⟩ = some (.number y) ∧
      after.fields ⟨.next, handle⟩ = store.fields ⟨.next, handle⟩ ∧ store.Keeps handle after := by
  intro y
  have evaluated : (recurrenceOutput model ⟨.inputHistory, handle⟩ ⟨.outputHistory, handle⟩).value?
      around (store.withField ⟨.inputHistory, handle⟩ (.items (Payload.shiftIn value inputs))) =
        some y :=
    value?_recurrenceOutput (Store.fields_withField_self ..)
      (by rw [length_shiftIn, inputs_length]) (by simpa using earlier_eq)
      (by rw [List.length_tail, ← earlier_length, Nat.add_sub_cancel])
  let middle := (store.withField ⟨.inputHistory, handle⟩
    (.items (Payload.shiftIn value inputs))).withLocal (.result handle) y
  let remembered := if earlier = [] then middle else
    middle.withField ⟨.outputHistory, handle⟩ (.items (Payload.shiftIn y earlier))
  have result (content : Content α) : (Term.localValue (.result handle)).value? around
      (middle.withField ⟨.outputHistory, handle⟩ content) = some y := by
    simp [Term.value?, middle]
  have kept : remembered.fields ⟨.last, handle⟩ = some (.number held) := by
    unfold remembered
    split <;> simpa [middle] using last_eq
  have read : (Term.localValue (.result handle)).value? around remembered = some y := by
    unfold remembered
    split <;> simp [Term.value?, middle]
  have keeps : store.Keeps handle remembered := by
    have before : store.Keeps handle middle :=
      ((Store.Keeps.refl handle store).withField .inputHistory _).withLocal _ _
    unfold remembered
    split
    · exact before
    · exact before.withField .outputHistory _
  refine ⟨remembered.withField ⟨.last, handle⟩ (.number y), ?_, ?_, fun some => ?_, ?_, ?_,
    keeps.withField .last _⟩
  · rw [List.append_assoc, List.cons_append, List.cons_append,
      runAll?_shiftRight_store inputs_eq nonempty computed, List.cons_append, List.nil_append,
      runAll?_cons, run?_define evaluated, Option.bind_some,
      runAll?_remember (by simpa [middle] using earlier_eq) result, runAll?_cons,
      run?_store_field kept read, Option.bind_some, runAll?_nil]
  · unfold remembered
    split <;> simp [middle]
  · have kept : earlier ≠ [] := fun empty => some (by rw [empty]; rfl)
    simp [remembered, kept]
  · simp
  · unfold remembered
    split <;> simp [middle]

variable [Host] {node : Node α} {code : BlockCode α} {outputs : Array α}
  (shown : ∀ driver, store.outputs driver = outputs.getD driver 0.0)
  (listed : 0 ∈ node.ports) (coded : blockCode node = .ok code)
include shown listed coded

/-- The code of a sampled delay does what the block does. -/
theorem runAll?_update_ddelay {steps : Nat} {ts last next : α} {buffer : List α}
    (payload : node.payload = .ddelay steps ts) (length : buffer.length = steps)
    (positive : 1 ≤ steps) (holds : store.Holds node.handle (.ddelay buffer last next)) :
    ∃ after, runAll? around store code.update = some after ∧
      after.Holds node.handle (node.payload.update around.time around.step (node.inputs outputs)
        (.ddelay buffer last next)) ∧ store.Keeps node.handle after := by
  obtain ⟨buffer_eq, last_eq, next_eq⟩ := holds
  simp only [blockCode, payload, ← length] at coded
  obtain ⟨-, -, same⟩ := bind_eq_ok_iff.mp coded
  cases same
  have body := runAll?_delay (by simp) buffer_eq
    (List.ne_nil_of_length_pos (length ▸ positive)) last_eq
    (fun _ => value?_input around (by simpa using shown) listed)
  refine ⟨_, runAll?_clocked next_eq body (by simpa using next_eq), ?_, ?_⟩
  · rw [payload, Payload.update]
    split
    · exact .ddelay (by simp) (by simp) (by simp)
    · exact .ddelay buffer_eq last_eq next_eq
  · split
    · exact (((Store.Keeps.refl _ store).withField .buf _).withField .last _).withField .next _
    · exact .refl _ _

/-- The code of a discrete transfer function does what the block does. -/
theorem runAll?_update_dtf {num den inputs earlier : List α} {ts last next : α}
    {model : Recurrence α} (payload : node.payload = .dtf num den ts model)
    (inputs_length : inputs.length = model.num.length)
    (earlier_length : earlier.length + 1 = model.den.length) (positive : 1 ≤ model.num.length)
    (holds : store.Holds node.handle (.dtf inputs earlier last next)) :
    ∃ after, runAll? around store code.update = some after ∧
      after.Holds node.handle (node.payload.update around.time around.step (node.inputs outputs)
        (.dtf inputs earlier last next)) ∧ store.Keeps node.handle after := by
  cases holds with | dtf inputs_eq earlier_eq last_eq next_eq => ?_
  simp only [blockCode, payload, recurrenceCode, ← inputs_length, ← earlier_length,
    Nat.add_sub_cancel] at coded
  cases coded
  obtain ⟨after, body, inputs_eq', earlier_eq', last_eq', next_eq', keeps⟩ :=
    exists_runAll?_recurrence inputs_eq (List.ne_nil_of_length_pos (inputs_length ▸ positive))
      inputs_length earlier_eq earlier_length last_eq
      (fun _ => value?_input around (by simpa using shown) listed)
  refine ⟨_, runAll?_clocked next_eq body (next_eq'.trans next_eq), ?_, ?_⟩
  · rw [payload, Payload.update]
    split
    · exact .dtf (by simpa using inputs_eq') (by simpa using earlier_eq') (by simpa using last_eq')
        (by simp)
    · exact .dtf inputs_eq earlier_eq last_eq next_eq
  · split
    · exact keeps.withField .next _
    · exact .refl _ _

/-- The code of a block with a register does what the block does. -/
theorem exists_runAll?_update {memory : Memory α}
    (register : node.payload.kind = .ddelay ∨ node.payload.kind = .dtf)
    (sound : node.payload.IsSound) (fits : memory.Fits node.payload)
    (holds : store.Holds node.handle memory) :
    ∃ after, runAll? around store code.update = some after ∧
      after.Holds node.handle
        (node.payload.update around.time around.step (node.inputs outputs) memory) ∧
      store.Keeps node.handle after := by
  cases payload : node.payload with
  | ddelay steps ts =>
      rw [payload] at sound fits
      cases holds with
      | dtf => nomatch fits
      | ddelay buffer_eq last_eq next_eq =>
          cases fits with
          | ddelay length =>
              exact payload ▸ runAll?_update_ddelay shown listed coded payload length sound
                (.ddelay buffer_eq last_eq next_eq)
  | dtf num den ts model =>
      rw [payload] at sound fits
      cases holds with
      | ddelay => nomatch fits
      | dtf inputs_eq outputs_eq last_eq next_eq =>
          cases fits with
          | dtf inputs_length outputs_length =>
              exact payload ▸ runAll?_update_dtf shown listed coded payload inputs_length
                outputs_length sound.1 (.dtf inputs_eq outputs_eq last_eq next_eq)
  | _ => simp [payload, Payload.kind] at register

end Updates

/-! ## Runs -/

/-- What a field holds that starts with an initial value. -/
def Initial.content : Initial α → Content α
  | .number value => .number value
  | .seed value => .noise value
  | .cursor => .cursor 0
  | .zeros length => .items (Vector.zero length)

/-- Where the fields of a register hold what they are declared with, they hold what its block starts
with. -/
theorem Store.holds_start [Host] {store : Store α} {node : Node α} {code : BlockCode α}
    {memory : Memory α} (register : node.payload.kind = .ddelay ∨ node.payload.kind = .dtf)
    (coded : blockCode node = .ok code) (starts : node.payload.start = .ok memory)
    (declared : ∀ declaration ∈ code.fields,
      store.fields declaration.field = some declaration.initial.content) :
    store.Holds node.handle memory := by
  cases payload : node.payload with
  | ddelay steps ts =>
      rw [payload] at starts
      obtain ⟨buffer, made, same⟩ := bind_eq_ok_iff.mp starts
      cases same
      simp only [blockCode, payload] at coded
      obtain ⟨-, -, same⟩ := bind_eq_ok_iff.mp coded
      cases same
      rw [eq_replicate_of_emptyBuffer made]
      exact .ddelay (declared ⟨_, .zeros steps⟩ (by simp)) (declared ⟨_, .number 0.0⟩ (by simp))
        (declared ⟨_, .number 0.0⟩ (by simp))
  | dtf num den ts model =>
      rw [payload] at starts
      cases starts
      simp only [blockCode, payload] at coded
      cases coded
      refine .dtf (declared ⟨_, .zeros model.num.length⟩ (by simp [recurrenceCode]))
        (fun some => declared ⟨_, .zeros (model.den.length - 1)⟩ ?_)
        (declared ⟨_, .number 0.0⟩ (by simp [recurrenceCode]))
        (declared ⟨_, .number 0.0⟩ (by simp [recurrenceCode]))
      have kept : ¬ (model.den.length - 1 == 0) = true := fun none => some (by
        rw [beq_iff_eq.mp none]
        rfl)
      simp [recurrenceCode, kept]
  | _ => simp [payload, Payload.kind] at register

/-- Runs the update of a block tick after tick, each time with the outputs of the tick. -/
def updateInTicks (node : Node α) (code : BlockCode α) :
    List (Surroundings α × Array α) → Store α → Option (Store α)
  | [], store => some store
  | (around, outputs) :: ticks, store => do
      updateInTicks node code ticks (← runAll? around
        { store with outputs := fun handle => outputs.getD handle 0.0 }
        (Program.updateBlock node code))

/-- What a block keeps after the same ticks. -/
def memoryAfterTicks (node : Node α) : List (Surroundings α × Array α) → Memory α → Memory α
  | [], memory => memory
  | (around, outputs) :: ticks, memory => memoryAfterTicks node ticks
      (node.payload.update around.time around.step (node.inputs outputs) memory)

section Compiling

variable [Host] {diagram : Diagram String} {defaultDt defaultRuntime : Setting α}
  {before noted : List Notice} {compiled : Compiled α}
  (compiles : Completes (Compiled.ofDiagram diagram defaultDt defaultRuntime) before compiled noted)
  {handle : Nat} {node : Node α} {code : BlockCode α}
  (found : compiled.nodes[handle]? = some node) (coded : blockCode node = .ok code)
  (register : node.kind = .ddelay ∨ node.kind = .dtf)
include compiles found register

theorem zero_mem_ports : 0 ∈ node.ports := by
  refine Compiled.mem_ports compiles found ?_ ?_
  · rcases register with kind | kind <;> rw [kind] <;> decide
  · rcases register with kind | kind <;> rw [kind] <;> decide

include coded

/-- The registers agree after any number of ticks. -/
theorem exists_holds_updateInTicks {memory : Memory α} (fits : memory.Fits node.payload)
    {store : Store α} (holds : store.Holds handle memory)
    (ticks : List (Surroundings α × Array α)) :
    ∃ after, updateInTicks node code ticks store = some after ∧
      after.Holds handle (memoryAfterTicks node ticks memory) := by
  obtain ⟨block, -, isNode⟩ := Compiled.exists_isNodeOf compiles found
  have listed := zero_mem_ports compiles found register
  have sound := Compiled.isSound_payload compiles found
  rw [← isNode.payload_kind] at register
  obtain rfl := isNode.handle_eq
  induction ticks generalizing memory store with
  | nil => exact ⟨store, rfl, holds⟩
  | cons tick ticks ih =>
      obtain ⟨around, outputs⟩ := tick
      have started : ({ store with outputs := fun handle => outputs.getD handle 0.0 } :
          Store α).Holds node.handle memory := holds.of_fields_eq rfl
      obtain ⟨middle, runs, middleHolds, -⟩ :=
        exists_runAll?_update (fun _ => rfl) listed coded register sound fits started
      have middleFits :=
        Payload.fits_update sound fits around.time around.step (node.inputs outputs)
      obtain ⟨after, rest, afterHolds⟩ := ih middleFits middleHolds
      refine ⟨after, ?_, afterHolds⟩
      rw [updateInTicks, runAll?_updateBlock, runs]
      exact rest

/-- **Generated registers agree with those of a block.** Whatever stands in the registers of a
sampled delay or a discrete transfer function, of whatever lengths, and whatever its driver puts
out: the statements that a generated program runs for its update end with the registers and the held
output that the block has after its own update, and change nothing else. So they agree after any
number of ticks, and at the start they agree by how the program declares its fields. A statement
that shifts a register is run as a loop, and written as the same one in both languages. -/
theorem exists_holds_updateBlock {memory : Memory α} (fits : memory.Fits node.payload)
    {store : Store α} (holds : store.Holds handle memory) {outputs : Array α}
    (shown : ∀ driver, store.outputs driver = outputs.getD driver 0.0) (around : Surroundings α) :
    (∃ after, runAll? around store (Program.updateBlock node code) = some after ∧
      after.Holds handle
        (node.payload.update around.time around.step (node.inputs outputs) memory) ∧
      store.Keeps handle after) ∧
      (∀ ticks, ∃ after, updateInTicks node code ticks store = some after ∧
        after.Holds handle (memoryAfterTicks node ticks memory)) ∧
      (∀ {first : Store α} {initial : Memory α}, node.payload.start = .ok initial →
        (∀ declaration ∈ code.fields,
          first.fields declaration.field = some declaration.initial.content) →
        first.Holds handle initial) ∧
      (∀ {statement : Statement α} {array : Field} {shift : Shift},
        statement.shift? = some (array, shift) → ∀ before : Store α,
          statement.run? around before = shift.run? array before) ∧
      ∀ {statement : Statement Float} {array : Field} {shift : Shift},
        statement.shift? = some (array, shift) → ∀ language : Language,
          language.statement statement = shift.lines language (language.field array) := by
  refine ⟨?_, exists_holds_updateInTicks compiles found coded register fits holds, ?_,
    fun shifts before => run?_of_shift? shifts around before,
    fun shifts language => statement_of_shift? shifts language⟩
  all_goals
    obtain ⟨block, -, isNode⟩ := Compiled.exists_isNodeOf compiles found
    have listed := zero_mem_ports compiles found register
    rw [← isNode.payload_kind] at register
    obtain rfl := isNode.handle_eq
  · rw [runAll?_updateBlock]
    exact exists_runAll?_update shown listed coded register
      (Compiled.isSound_payload compiles found) fits holds
  · intro first initial starts declared
    exact Store.holds_start register coded starts declared

end Compiling

/-- The fields of a discrete transfer function and a sampled delay at the end of the chain, with
samples on their way. -/
def registers : Store Float where
  outputs := fun _ => 0.0
  settled := fun _ => true
  fields := fun field => match field with
    | ⟨.inputHistory, 3⟩ => some (.items [5.0])
    | ⟨.outputHistory, 3⟩ => some (.items [3.0])
    | ⟨.buf, 4⟩ => some (.items [7.0])
    | ⟨.last, _⟩ | ⟨.next, _⟩ => some (.number 0.0)
    | _ => none
  locals := fun _ => none
  changed := false
  published := fun _ => none

/-- The lengths of the registers of a block. -/
def registerLengths : Payload Float → List Nat
  | .ddelay steps _ => [steps]
  | .dtf _ _ _ model => [model.num.length, model.den.length - 1]
  | _ => []

open Host.Usual

/-- The registers of both kinds of blocks agree in a chain of blocks. -/
theorem exists_holds_chainDiagram : ∃ (compiled : Compiled Float) (noted : List Notice)
    (filter hold : Node Float) (filterCode holdCode : BlockCode Float),
    Completes (Compiled.ofDiagram chainDiagram Compiled.standardDt Compiled.standardRuntime) []
      compiled noted ∧
      compiled.nodes[3]? = some filter ∧ filter.kind = .dtf ∧ blockCode filter = .ok filterCode ∧
      compiled.nodes[4]? = some hold ∧ hold.kind = .ddelay ∧ blockCode hold = .ok holdCode ∧
      ∀ around,
        (∃ after, runAll? around registers (Program.updateBlock filter filterCode) = some after ∧
          after.Holds 3 (filter.payload.update around.time around.step (filter.inputs #[])
            (.dtf [5.0] [3.0] 0.0 0.0)) ∧ registers.Keeps 3 after) ∧
        ∃ after, runAll? around registers (Program.updateBlock hold holdCode) = some after ∧
          after.Holds 4 (hold.payload.update around.time around.step (hold.inputs #[])
            (.ddelay [7.0] 0.0 0.0)) ∧ registers.Keeps 4 after := by
  have passes : programPasses chainDiagram (fun compiled _ =>
      (compiled.nodes[3]?.any fun node => node.kind == .dtf && node.payload.kind == .dtf &&
        registerLengths node.payload == [1, 1] && (blockCode node).toOption.any fun _ => true) &&
      compiled.nodes[4]?.any fun node => node.kind == .ddelay && node.payload.kind == .ddelay &&
        registerLengths node.payload == [1] && (blockCode node).toOption.any fun _ => true) =
      true := by
    decide +kernel
  obtain ⟨compiled, noted, program, compiles, -, passed⟩ := exists_of_programPasses passes
  rw [Bool.and_eq_true, Option.any_eq_true, Option.any_eq_true] at passed
  obtain ⟨⟨filter, filterFound, isFilter⟩, hold, holdFound, isHold⟩ := passed
  simp only [Bool.and_eq_true, beq_iff_eq] at isFilter isHold
  obtain ⟨⟨⟨filterKind, filterPayload⟩, filterLengths⟩, filterCoded⟩ := isFilter
  obtain ⟨⟨⟨holdKind, holdPayload⟩, holdLengths⟩, holdCoded⟩ := isHold
  obtain ⟨filterCode, filterCoded, -⟩ := exists_of_toOption_any filterCoded
  obtain ⟨holdCode, holdCoded, -⟩ := exists_of_toOption_any holdCoded
  have filterFits : (Memory.dtf [5.0] [3.0] 0.0 0.0).Fits filter.payload := by
    cases payload : filter.payload with
    | dtf =>
        rw [payload, registerLengths] at filterLengths
        obtain ⟨inputs, outputs⟩ := List.cons_eq_cons.mp filterLengths
        obtain ⟨outputs, -⟩ := List.cons_eq_cons.mp outputs
        exact .dtf inputs.symm (by rw [List.length_singleton]; omega)
    | _ => simp [payload, Payload.kind] at filterPayload
  have holdFits : (Memory.ddelay [7.0] 0.0 0.0).Fits hold.payload := by
    cases payload : hold.payload with
    | ddelay =>
        rw [payload, registerLengths] at holdLengths
        exact .ddelay (List.singleton_inj.mp holdLengths).symm
    | _ => simp [payload, Payload.kind] at holdPayload
  have shown (driver : Nat) : registers.outputs driver = (#[] : Array Float).getD driver 0.0 := by
    simp [registers]
  refine ⟨compiled, noted, filter, hold, filterCode, holdCode, compiles, filterFound, filterKind,
    filterCoded, holdFound, holdKind, holdCoded, fun around => ⟨?_, ?_⟩⟩
  · exact (exists_holds_updateBlock compiles filterFound filterCoded (.inr filterKind) filterFits
      (.dtf rfl (fun _ => rfl) rfl rfl) shown around).1
  · exact (exists_holds_updateBlock compiles holdFound holdCoded (.inl holdKind) holdFits
      (.ddelay rfl rfl rfl) shown around).1

end SignalFlow.Code
