import SignalFlow.Code.C
import SignalFlow.Host.Usual
import SignalFlow.Proofs.Code.Reach
import SignalFlow.Proofs.Code.StateLines
import SignalFlow.Proofs.Diagram.FreshIds
import SignalFlow.Proofs.Doubles.Literals
import SignalFlow.Proofs.Observer.Compiling
import SignalFlow.Proofs.Resolved

/-! # Names and arrays in generated programs

A generated program keeps outputs of blocks, marks and state fields under names and in arrays that
it declares. Its statements use nothing else, and no run of it reads or stores an item beyond the
end of an array (`Program.isWellScoped_of_completes`). Most of that can be read off the code of a
single block (`isScoped_blockCode`), since blocks share no field; only an item that is found by a
cursor depends on the run.
-/

namespace SignalFlow

open Code

/-- There is room for as many items as an array is to hold. -/
theorem Language.le_arrayLength (language : Language) (length : Nat) :
    length ≤ language.arrayLength length := by
  cases language
  · exact Nat.le_refl _
  · exact Nat.le_max_right 1 length

/-- An array that is to hold items has that many. -/
theorem Language.arrayLength_of_pos (language : Language) {length : Nat} (positive : 0 < length) :
    language.arrayLength length = length := by
  cases language
  · rfl
  · exact Nat.max_eq_right positive

namespace Code

variable {α : Type}

/-! ## Names -/

/-- Different roles have different names. -/
theorem Role.name_injective : Function.Injective Role.name := by
  intro first second same
  revert same
  cases first <;> cases second <;> simp [Role.name]

/-- The digits at the end of a name are those of the handle. The first part of the name may have an
underscore of its own, but no digit stands before the last one. -/
theorem takeWhile_reverse_ownName (base : String) (handle : Nat) :
    (ownName base handle).toList.reverse.takeWhile Char.isDigit =
      (Decimal.digitsOf handle).toList.reverse := by
  have digits : ∀ c ∈ (Decimal.digitsOf handle).toList.reverse, c.isDigit = true := fun c member =>
    (Decimal.isDigits_digitsOf handle).2 c (List.mem_reverse.mp member)
  simp [ownName, List.takeWhile_append_of_pos digits]

/-- The name of a thing tells its block and what it is to it. -/
theorem ownName_inj {base otherBase : String} {handle other : Nat} :
    ownName base handle = ownName otherBase other ↔ base = otherBase ∧ handle = other := by
  constructor
  · intro same
    have digits := takeWhile_reverse_ownName base handle
    rw [same, takeWhile_reverse_ownName] at digits
    obtain rfl : other = handle := Decimal.digitsOf_injective
      (String.toList_injective (List.reverse_injective digits))
    exact ⟨by simpa [ownName] using same, rfl⟩
  · rintro ⟨rfl, rfl⟩
    rfl

/-- Different fields have different names. -/
theorem Field.name_injective : Function.Injective Field.name := by
  intro first second same
  obtain ⟨role, handle⟩ := ownName_inj.mp same
  cases first
  exact congrArg₂ Field.mk (Role.name_injective role) handle

/-! ## What is used -/

/-- The cursors that a place is found by. -/
def Place.cursors : Place → List Field
  | .at _ => []
  | .cursor idx | .ahead idx _ _ => [idx]

/-- The state fields that are mentioned. -/
def Mention.fields : Mention α → List Field
  | .number _ | .output _ => []
  | .field read => [read]
  | .item array place => array :: place.cursors
  | .shift array _ => [array]
  | .advance idx _ => [idx]
  | .model state _ _ => [state]

/-- An item of an array is read or stored. -/
def Mention.Touches (cursors : Field → Nat) : Mention α → Field → Nat → Prop
  | .item array place, touched, index => touched = array ∧ index = place.index cursors
  | .shift array length, touched, index => touched = array ∧ index < length
  | .model state _ order, touched, index => touched = state ∧ index < order
  | _, _, _ => False

/-- A program uses nothing but what it declares. -/
structure Program.IsWellScoped (language : Language) (program : Program Float) : Prop where
  /-- Each output and each mark that is used has its place. -/
  output_lt {handle : Nat} : .output handle ∈ program.tick.mentions →
    handle < language.arrayLength program.blockCount
  /-- Each field that is used is declared. -/
  declared {mention : Mention Float} {used : Field} : mention ∈ program.tick.mentions →
    used ∈ mention.fields → used ∈ program.fields.map (·.field)
  /-- Each statement of the first state stores into a declared field, and into no array. -/
  started {line : String} : line ∈ program.fields.flatMap Declaration.cStart →
    ∃ declaration ∈ program.fields, (∀ length, declaration.initial ≠ .zeros length) ∧
      ∃ value, line = Language.c.field declaration.field ++ " = " ++ value ++ ";"
  /-- No two fields have the same name. -/
  names_nodup : (program.fields.map (·.field.name)).Nodup
  /-- Each item that a run reads or stores is one of a declared array. -/
  touches_lt {statement : Statement Float} {rest : List (Statement Float)}
    {cursors : Field → Nat} {mention : Mention Float} {array : Field} {index : Nat} :
    program.Reaches (statement :: rest) cursors → mention ∈ statement.mentions →
      mention.Touches cursors array index →
        ∃ length, ⟨array, .zeros length⟩ ∈ program.fields ∧ index < language.arrayLength length
  /-- A cursor stays below the size around which it is moved. -/
  cursor_lt {statements : List (Statement Float)} {cursors : Field → Nat} {idx : Field}
    {size : Nat} : program.Reaches statements cursors →
      .advance idx size ∈ program.tick.mentions → cursors idx < size
  /-- Numbers are stored into no cursor. -/
  cursor_kept {idx : Field} : ⟨idx, .cursor⟩ ∈ program.fields → .field idx ∉ program.tick.mentions
  /-- The state of a transfer function has the length of its order, for which there is room, and its
  matrix and its vector are of that size. -/
  model {state : Field} {handle order : Nat} : .model state handle order ∈ program.tick.mentions →
    order ≤ Language.c.arrayLength program.largestOrder ∧
      ⟨state, .zeros order⟩ ∈ program.fields ∧ language.arrayLength order = order ∧
        ∃ rows entries, .matrix handle rows ∈ program.realized ∧
          .vector handle entries ∈ program.realized ∧ rows.length = order ∧
            (∀ row ∈ rows, row.length = order) ∧ entries.length = order
  /-- The program has a line for the number of its blocks, and lines for arrays of that length. -/
  room (withMain : Bool) : roomLines program language ⊆ language.programLines program withMain
  /-- The program declares its fields one to a line, and arrays with their lengths. -/
  stated (withMain : Bool) : program.fields ≠ [] →
    stateLines program.fields language <:+: language.programLines program withMain

/-! ## The code of a block -/

/-- The initial value of a field that holds a number. -/
def Initial.IsNumber : Initial α → Prop
  | .number _ | .seed _ => True
  | .cursor | .zeros _ => False

/-- A place lies below a length, wherever a cursor stands that the code of the block moves. -/
def Place.IsBelow (code : BlockCode α) (length : Nat) : Place → Prop
  | .at place => place < length
  | .cursor idx => ⟨idx, .cursor⟩ ∈ code.fields ∧ MovesWithin code.mentions idx length
  | .ahead idx _ size => ⟨idx, .cursor⟩ ∈ code.fields ∧ 0 < size ∧ size ≤ length

/-- What the code of a block mentions is an output of a driver or its own. -/
def Mention.IsScoped (node : Node α) (code : BlockCode α) : Mention α → Prop
  | .number _ => True
  | .output handle => handle ∈ node.driverHandles
  | .field read => ∃ initial : Initial α, ⟨read, initial⟩ ∈ code.fields ∧ initial.IsNumber
  | .item array place => ∃ length, ⟨array, .zeros length⟩ ∈ code.fields ∧ place.IsBelow code length
  | .shift array length => ⟨array, .zeros length⟩ ∈ code.fields
  | .advance idx size => ⟨idx, .cursor⟩ ∈ code.fields ∧ MovesWithin code.mentions idx size
  | .model state handle order => 0 < order ∧ order = code.order ∧
      ⟨state, .zeros order⟩ ∈ code.fields ∧
        ∃ rows entries, .matrix handle rows ∈ code.realized ∧
          .vector handle entries ∈ code.realized ∧ rows.length = order ∧
            (∀ row ∈ rows, row.length = order) ∧ entries.length = order

/-- The code of a block uses nothing but outputs of its drivers and what it declares. -/
structure BlockCode.IsScoped (node : Node α) (code : BlockCode α) : Prop where
  handle_eq : ∀ declaration ∈ code.fields, declaration.field.handle = node.handle
  fields_nodup : (code.fields.map (·.field)).Nodup
  mentions : AllMentions (Mention.IsScoped node code) code.mentions

section Blocks

variable [Scalar α] {node : Node α} {code : BlockCode α}

theorem isScoped_input (node : Node α) (code : BlockCode α) (port : Nat) :
    AllMentions (Mention.IsScoped node code) (input node port).mentions :=
  allMentions_input (fun _ drives => drives) trivial port

/-- The code of a transfer function is well-scoped. -/
theorem isScoped_modelCode {model : StateSpace α} (shape : model.HasShape) :
    (modelCode node.handle model (input node 0)).IsScoped node := by
  have inputs := isScoped_input node
  unfold modelCode
  split
  · exact ⟨by simp [BlockCode.ofValue], by simp [BlockCode.ofValue],
      by simp [BlockCode.ofValue, BlockCode.mentions, Mention.IsScoped, inputs]⟩
  · next dynamic =>
      have positive : 0 < model.order := Nat.pos_of_ne_zero (by simpa using dynamic)
      have length_b : model.b.length = model.order := rfl
      refine ⟨by simp, by simp, ?_⟩
      simp only [BlockCode.mentions, allMentions_append]
      refine ⟨⟨?_, allMentions_nil⟩, ?_⟩
      · refine (allMentions_modelOutput_iff trivial).mpr
          ⟨fun pair member => ⟨trivial, model.order, by simp, ?_⟩, fun _ => ⟨trivial, inputs _ 0⟩⟩
        have inside := List.snd_lt_of_mem_zipIdx member
        rwa [shape.length_c] at inside
      · simpa [Mention.IsScoped, inputs, positive, length_b, shape.length_a]
          using shape.length_row

theorem isScoped_recurrenceOutput {model : Recurrence α} {inputs outputs : Field}
    (forward : ⟨inputs, .zeros model.num.length⟩ ∈ code.fields)
    (back : model.den.length - 1 ≠ 0 → ⟨outputs, .zeros (model.den.length - 1)⟩ ∈ code.fields) :
    AllMentions (Mention.IsScoped node code) (recurrenceOutput model inputs outputs).mentions := by
  refine (allMentions_recurrenceOutput_iff trivial).mpr
    ⟨fun pair member => ?_, fun pair member => ?_⟩
  · exact ⟨trivial, _, forward, List.snd_lt_of_mem_zipIdx member⟩
  · have inside : pair.2 < model.den.length - 1 := by
      simpa using List.snd_lt_of_mem_zipIdx member
    exact ⟨trivial, _, back (Nat.ne_zero_of_lt inside), inside⟩

/-- The code of a recurrence is well-scoped. An array without items is left out of it, and nothing
mentions that array then. -/
theorem isScoped_recurrenceCode {model : Recurrence α} (sized : 0 < model.num.length) (period : α) :
    (recurrenceCode node.handle model period (input node 0)).IsScoped node := by
  have inputs := isScoped_input node
  unfold recurrenceCode
  dsimp only
  split
  · next alone =>
      have none : model.den.length - 1 = 0 := by simpa using alone
      refine ⟨by simp, by simp, ?_⟩
      simpa [BlockCode.mentions, clocked, inputs, Mention.IsScoped, Initial.IsNumber, Place.IsBelow,
        sized] using isScoped_recurrenceOutput (by simp) (absurd none)
  · next several =>
      have some : 0 < model.den.length - 1 := Nat.pos_of_ne_zero (by simpa using several)
      refine ⟨by simp, by simp, ?_⟩
      simpa [BlockCode.mentions, clocked, inputs, Mention.IsScoped, Initial.IsNumber, Place.IsBelow,
        sized, some] using isScoped_recurrenceOutput (by simp) (by simp)

/-- **The code of a block is well-scoped.** -/
theorem isScoped_blockCode [Host] (coded : blockCode node = .ok code)
    (sound : node.payload.IsSound) :
    code.IsScoped node := by
  have inputs := isScoped_input node
  unfold blockCode at coded
  cases payload : node.payload with
  | tf num den model =>
      rw [payload] at coded sound
      cases model with
      | none =>
          cases coded
          exact ⟨by simp [BlockCode.ofValue], by simp [BlockCode.ofValue],
            by simp [BlockCode.ofValue, BlockCode.mentions, Mention.IsScoped]⟩
      | some model =>
          cases coded
          exact isScoped_modelCode sound
  | dtf num den ts model =>
      rw [payload] at coded sound
      cases coded
      exact isScoped_recurrenceCode sound.1 ts
  | delay time steps =>
      rw [payload] at coded
      obtain ⟨size, -, coded⟩ := bind_eq_ok_iff.mp coded
      have same := Except.ok.inj coded
      have still : AllMentions (fun mention => ∀ idx size, mention ≠ .advance idx size)
          (input node 0).mentions :=
        allMentions_input (by simp) (by simp) 0
      have within : MovesWithin code.mentions ⟨.idx, node.handle⟩ (steps + 1) := by
        refine ⟨Nat.succ_pos _, @fun around moved => ?_⟩
        have listed : .advance ⟨.idx, node.handle⟩ around ∈ (input node 0).mentions ∨
            around = steps + 1 := by
          simpa [← same, BlockCode.mentions] using moved
        exact listed.elim (fun driven => absurd rfl (still _ driven _ _)) le_of_eq
      subst same
      refine ⟨by simp, by simp, ?_⟩
      simpa [BlockCode.mentions, Mention.IsScoped, Place.IsBelow, inputs] using within
  | ddelay steps ts =>
      rw [payload] at coded sound
      have positive : 0 < steps := sound
      obtain ⟨size, -, coded⟩ := bind_eq_ok_iff.mp coded
      cases coded
      have last : steps - 1 < steps := Nat.sub_lt positive Nat.one_pos
      refine ⟨by simp, by simp, ?_⟩
      simp [BlockCode.mentions, clocked, Mention.IsScoped, Place.IsBelow, Initial.IsNumber, inputs,
        positive, last]
  | sum signs =>
      rw [payload] at coded
      cases coded
      refine ⟨by simp [BlockCode.ofValue], by simp [BlockCode.ofValue], ?_⟩
      simp [BlockCode.ofValue, BlockCode.mentions, allMentions_sumFrom_iff, Mention.IsScoped,
        inputs]
  | mult =>
      rw [payload] at coded
      cases coded
      have joins (a b : Term α) : (Term.mul a b).mentions = a.mentions ++ b.mentions := rfl
      refine ⟨by simp [BlockCode.ofValue], by simp [BlockCode.ofValue], ?_⟩
      simp [BlockCode.ofValue, BlockCode.mentions, List.foldl_map, allMentions_foldl_iff joins,
        Mention.IsScoped, inputs]
  | labelSource name =>
      rw [payload] at coded
      cases coded
      refine ⟨by simp [BlockCode.ofValue], by simp [BlockCode.ofValue], ?_⟩
      cases node.external <;> simp [BlockCode.ofValue, BlockCode.mentions, inputs]
  | _ =>
      rw [payload] at coded
      cases coded
      refine ⟨by simp [BlockCode.ofValue, BlockCode.ofFields],
        by simp [BlockCode.ofValue, BlockCode.ofFields], ?_⟩
      simp [BlockCode.mentions, BlockCode.ofValue, BlockCode.ofFields, clocked, clipped, divisor,
        sumFrom, Mention.IsScoped, Initial.IsNumber, inputs]

end Blocks

/-! ## Programs -/

theorem foldl_max_le_iff {orders : List Nat} {least bound : Nat} :
    orders.foldl Nat.max least ≤ bound ↔ least ≤ bound ∧ ∀ order ∈ orders, order ≤ bound := by
  induction orders generalizing least with
  | nil => simp
  | cons order rest ih =>
      rw [List.foldl_cons, ih, List.forall_mem_cons, ← and_assoc]
      exact and_congr_left fun _ => Nat.max_le

/-- The fields that are used are declared by the code. -/
theorem Mention.IsScoped.declared {node : Node α} {code : BlockCode α} {mention : Mention α}
    (inScope : mention.IsScoped node code) {used : Field} (isUsed : used ∈ mention.fields) :
    used ∈ code.fields.map (·.field) := by
  cases mention with
  | number _ => cases isUsed
  | output _ => cases isUsed
  | field read =>
      obtain ⟨initial, declared, -⟩ := inScope
      cases List.mem_singleton.mp isUsed
      exact List.mem_map_of_mem declared
  | item array place =>
      obtain ⟨length, declared, below⟩ := inScope
      rcases List.mem_cons.mp isUsed with rfl | found
      · exact List.mem_map_of_mem declared
      · rcases place with place | idx | ⟨idx, steps, size⟩
        · cases found
        all_goals
          cases List.mem_singleton.mp found
          exact List.mem_map_of_mem below.1
  | shift array length =>
      cases List.mem_singleton.mp isUsed
      exact List.mem_map_of_mem inScope
  | advance idx size =>
      cases List.mem_singleton.mp isUsed
      exact List.mem_map_of_mem inScope.1
  | model state handle order =>
      cases List.mem_singleton.mp isUsed
      exact List.mem_map_of_mem inScope.2.2.1

theorem Mention.Touches.mem_fields {mention : Mention α} {cursors : Field → Nat} {array : Field}
    {index : Nat} (touches : mention.Touches cursors array index) : array ∈ mention.fields := by
  cases mention with
  | item _ _ | shift _ _ | model _ _ _ =>
      rw [touches.1]
      exact List.mem_cons_self
  | _ => exact touches.elim

section Programs

variable [Host] [Scalar α] {compiled : Compiled α} {coded : List (Node α × BlockCode α)}
  {program : Program α} (isProgram : IsProgramOf compiled coded program)
include isProgram

theorem mem_fields {item : Node α × BlockCode α} (listed : item ∈ coded)
    {declaration : Declaration α} (declared : declaration ∈ item.2.fields) :
    declaration ∈ program.fields := by
  rw [isProgram.fields_eq]
  exact List.mem_flatMap_of_mem listed declared

variable (blocks : ∀ item ∈ coded, item.2.IsScoped item.1)
include blocks

/-- What is mentioned with a field comes from the code of a block. -/
theorem exists_of_mem_mentions {mention : Mention α} (member : mention ∈ program.tick.mentions)
    {used : Field} (isUsed : used ∈ mention.fields) :
    ∃ item ∈ coded, mention ∈ item.2.mentions ∧ mention.IsScoped item.1 item.2 := by
  rcases isProgram.mentions_cases mention member with ⟨item, listed, inside⟩ | ⟨_, -, rfl⟩ | rfl
  · exact ⟨item, listed, inside, (blocks item listed).mentions mention inside⟩
  · cases isUsed
  · cases isUsed

variable (handles : (coded.map (·.1.handle)).Nodup)
include handles

/-- No field is declared twice. -/
theorem nodup_fields : (program.fields.map (·.field)).Nodup := by
  rw [isProgram.fields_eq, List.map_flatMap, List.nodup_flatMap]
  refine ⟨fun item listed => (blocks item listed).fields_nodup, ?_⟩
  refine (List.pairwise_map.mp handles).imp_of_mem fun first second apart => ?_
  intro used inFirst inSecond
  obtain ⟨declaration, declared, rfl⟩ := List.mem_map.mp inFirst
  obtain ⟨other, otherDeclared, same⟩ := List.mem_map.mp inSecond
  refine apart ?_
  rw [← (blocks _ first).handle_eq _ declared, ← (blocks _ second).handle_eq _ otherDeclared, same]

/-- A cursor is moved by the block alone that declares it. -/
theorem movesWithin_of_code {item : Node α × BlockCode α} (listed : item ∈ coded) {idx : Field}
    {length : Nat} {initial : Initial α} (declared : ⟨idx, initial⟩ ∈ item.2.fields)
    (within : MovesWithin item.2.mentions idx length) :
    MovesWithin program.tick.mentions idx length := by
  refine ⟨within.pos, fun moved => ?_⟩
  obtain ⟨other, otherListed, inside, inScope⟩ :=
    exists_of_mem_mentions isProgram blocks moved (List.mem_singleton_self idx)
  have same : item.1.handle = other.1.handle := by
    rw [← (blocks _ listed).handle_eq _ declared, ← (blocks _ otherListed).handle_eq _ inScope.1]
  obtain rfl := List.inj_on_of_nodup_map handles listed otherListed same
  exact within.le inside

theorem movesWithin_of_advance {idx : Field} {size : Nat}
    (moved : .advance idx size ∈ program.tick.mentions) :
    MovesWithin program.tick.mentions idx size := by
  obtain ⟨item, listed, -, declared, within⟩ :=
    exists_of_mem_mentions isProgram blocks moved (List.mem_singleton_self idx)
  exact movesWithin_of_code isProgram blocks handles listed declared within

/-- **Each item that a run reads or stores is one of a declared array.** -/
theorem exists_zeros_of_touches {statement : Statement α} {rest : List (Statement α)}
    {cursors : Field → Nat} (reaches : program.Reaches (statement :: rest) cursors)
    {mention : Mention α} (mentioned : mention ∈ statement.mentions) {array : Field} {index : Nat}
    (touches : mention.Touches cursors array index) :
    ∃ length, ⟨array, .zeros length⟩ ∈ program.fields ∧ index < length := by
  have member := reaches.mentions_subset (List.mem_append_left _ mentioned)
  obtain ⟨item, listed, -, inScope⟩ :=
    exists_of_mem_mentions isProgram blocks member touches.mem_fields
  cases mention with
  | item array place =>
      obtain ⟨rfl, rfl⟩ := touches
      obtain ⟨length, declared, below⟩ := inScope
      refine ⟨length, mem_fields isProgram listed declared, ?_⟩
      rcases place with place | idx | ⟨idx, steps, size⟩
      · exact below
      · have within := movesWithin_of_code isProgram blocks handles listed below.1 below.2
        exact reaches.cursor_lt
          (fun moved => (movesWithin_of_advance isProgram blocks handles moved).pos) within
      · exact (Nat.mod_lt _ below.2.1).trans_le below.2.2
  | shift array length =>
      obtain ⟨rfl, inside⟩ := touches
      exact ⟨length, mem_fields isProgram listed inScope, inside⟩
  | model state handle order =>
      obtain ⟨rfl, inside⟩ := touches
      exact ⟨order, mem_fields isProgram listed inScope.2.2.1, inside⟩
  | _ => exact touches.elim

/-- Numbers are stored into no cursor. -/
theorem field_not_mem_mentions {idx : Field} (declared : ⟨idx, .cursor⟩ ∈ program.fields) :
    .field idx ∉ program.tick.mentions := by
  intro mentioned
  obtain ⟨item, listed, -, initial, own, isNumber⟩ :=
    exists_of_mem_mentions isProgram blocks mentioned (List.mem_singleton_self idx)
  have same := List.inj_on_of_nodup_map (nodup_fields isProgram blocks handles) declared
    (mem_fields isProgram listed own) rfl
  cases same
  exact isNumber

omit handles

/-- The state of a transfer function, its matrix and its vector are declared in the size of its
order, which is no more than the largest one. -/
theorem exists_sizes_of_model {state : Field} {handle order : Nat}
    (mentioned : .model state handle order ∈ program.tick.mentions) :
    0 < order ∧ order ≤ program.largestOrder ∧ ⟨state, .zeros order⟩ ∈ program.fields ∧
      ∃ rows entries, .matrix handle rows ∈ program.realized ∧
        .vector handle entries ∈ program.realized ∧ rows.length = order ∧
          (∀ row ∈ rows, row.length = order) ∧ entries.length = order := by
  obtain ⟨item, listed, -, positive, rfl, declared, rows, entries, matrix, vector, sizes⟩ :=
    exists_of_mem_mentions isProgram blocks mentioned (List.mem_singleton_self state)
  refine ⟨positive, ?_, mem_fields isProgram listed declared, rows, entries, ?_, ?_, sizes⟩
  · rw [isProgram.largestOrder_eq]
    exact (foldl_max_le_iff.mp le_rfl).2 _ (List.mem_map_of_mem listed)
  · rw [isProgram.realized_eq]
    exact List.mem_flatMap_of_mem listed matrix
  · rw [isProgram.realized_eq]
    exact List.mem_flatMap_of_mem listed vector

end Programs

/-- What is stored at first is stored into a field that holds no array. -/
theorem Declaration.of_mem_cStart {declaration : Declaration Float} {line : String}
    (member : line ∈ declaration.cStart) : (∀ length, declaration.initial ≠ .zeros length) ∧
      ∃ value, line = Language.c.field declaration.field ++ " = " ++ value ++ ";" := by
  obtain ⟨field, initial⟩ := declaration
  cases initial with
  | number value =>
      change line ∈ ite _ _ _ at member
      split at member
      · cases member
      · exact ⟨by simp, _, List.mem_singleton.mp member⟩
  | seed _ | cursor => exact ⟨by simp, _, List.mem_singleton.mp member⟩
  | zeros _ => cases member

/-! ## Generated programs -/

section Generated

variable {diagram : Diagram String}

/-- The outputs that a tick handles by itself are those of blocks. -/
theorem lt_of_isHandled [Host] [Scalar α] {defaultDt defaultRuntime : Setting α}
    {before after : List Notice} {compiled : Compiled α}
    (compiles : Completes (Compiled.ofDiagram diagram defaultDt defaultRuntime) before compiled
      after) {coded : List (Node α × BlockCode α)} {program : Program α}
    (isProgram : IsProgramOf compiled coded program) {handle : Nat}
    (handled : IsHandled compiled coded handle) : handle < compiled.nodes.size := by
  have wellFormed := Compiled.wellFormed_of_completes compiles
  rcases handled with ⟨item, listed, own⟩ | ⟨name, publishes⟩
  · obtain ⟨place, found⟩ := isProgram.exists_getElem? listed
    rcases own with rfl | drives
    · rw [wellFormed.handle_eq found]
      exact (Array.getElem?_eq_some_iff.mp found).1
    · exact wellFormed.driver_lt found drives
  · obtain ⟨constants, dt, runtime, payloads, resolved, rfl⟩ :=
      Compiled.completes_ofDiagram_iff.mp ⟨after, compiles⟩
    simpa [Compiled.assemble, Compiled.ofNodes] using
      Compiled.lt_of_mem_outputHandles_ofNodes wellFormed.handle_eq_of_toList publishes

/-- Each output and each mark that is used is that of a block. -/
theorem lt_of_mem_mentions [Host] [Scalar α] {defaultDt defaultRuntime : Setting α}
    {before after : List Notice} {compiled : Compiled α}
    (compiles : Completes (Compiled.ofDiagram diagram defaultDt defaultRuntime) before compiled
      after) {coded : List (Node α × BlockCode α)} {program : Program α}
    (isProgram : IsProgramOf compiled coded program)
    (blocks : ∀ item ∈ coded, item.2.IsScoped item.1) {handle : Nat}
    (mentioned : .output handle ∈ program.tick.mentions) : handle < compiled.nodes.size := by
  rcases isProgram.mentions_cases _ mentioned with
    ⟨item, listed, inside⟩ | ⟨other, handled, same⟩ | same
  · obtain ⟨place, found⟩ := isProgram.exists_getElem? listed
    exact (Compiled.wellFormed_of_completes compiles).driver_lt found
      ((blocks item listed).mentions _ inside)
  · cases same
    exact lt_of_isHandled compiles isProgram handled
  · cases same

end Generated

/-- A noise that goes through a transfer function, a delay and two registers. -/
def chainDiagram : Diagram String where
  blocks := [⟨"noise", "noise", []⟩, ⟨"lag", "tf", []⟩, ⟨"echo", "delay", [("delay", .float 0.02)]⟩,
    ⟨"filter", "dtf", []⟩, ⟨"hold", "ddelay", []⟩, ⟨"y", "labelSink", [("name", .text "y")]⟩]
  connections := [⟨"noise", "lag", 0, 0⟩, ⟨"lag", "echo", 0, 0⟩, ⟨"echo", "filter", 0, 0⟩,
    ⟨"filter", "hold", 0, 0⟩, ⟨"hold", "y", 0, 0⟩]
  vars := []
  runtime := .null
  dt := .null
  nextId := 1

open Host.Usual

end Code

end SignalFlow
