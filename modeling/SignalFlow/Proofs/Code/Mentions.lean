import SignalFlow.Proofs.Layout

/-! # What generated statements mention

Whether a generated program is sound depends on what its statements mention (`Mention`), and not on
where they mention it: numbers, outputs of blocks, state fields, items of arrays and the state of a
transfer function. All of it comes from the code of the blocks, apart from the outputs that the tick
itself stores, settles and publishes and the zero at which a loop starts (`mem_mentions_tickOf`).
-/

namespace SignalFlow.Code

variable {α : Type}

/-- What a term or a statement mentions. -/
inductive Mention (α : Type) where
  | number (value : α)
  /-- The output of a block, or its mark as settled. -/
  | output (handle : Nat)
  /-- A field that holds a number. -/
  | field (field : Field)
  | item (array : Field) (place : Place)
  /-- All the items of an array below a length. -/
  | shift (array : Field) (length : Nat)
  /-- A cursor that is moved around a buffer of a size. -/
  | advance (idx : Field) (size : Nat)
  /-- The state of the transfer function of a block, of an order. -/
  | model (state : Field) (handle order : Nat)

/-- What a term mentions. -/
@[simp] def Term.mentions : Term α → List (Mention α)
  | .number value => [.number value]
  | .time | .step | .pi | .localValue _ | .external _ => []
  | .output handle => [.output handle]
  | .field read => [.field read]
  | .item array place => [.item array place]
  | .add a b | .sub a b | .mul a b | .div a b | .min a b | .max a b => a.mentions ++ b.mentions
  | .sin a | .abs a | .grouped a => a.mentions
  | .choice _ a b ifTrue ifFalse =>
      a.mentions ++ b.mentions ++ ifTrue.mentions ++ ifFalse.mentions

/-- What a test mentions. -/
@[simp] def Test.mentions : Test α → List (Mention α)
  | .compare _ a b => a.mentions ++ b.mentions
  | .settled handles => handles.map .output
  | .stale handle => [.output handle]

/-- What a place to store into mentions. -/
@[simp] def Target.mentions : Target → List (Mention α)
  | .output handle => [.output handle]
  | .field stored => [.field stored]
  | .item array place => [.item array (.at place)]
  | .ahead array idx steps size => [.item array (.ahead idx steps size)]

mutual

/-- What a statement mentions. -/
@[simp] def Statement.mentions : Statement α → List (Mention α)
  | .comment _ | .progress => []
  | .store target value => target.mentions ++ value.mentions
  | .increase field amount => .field field :: amount.mentions
  | .define _ value => value.mentions
  | .settle handle | .publish _ handle => [.output handle]
  | .advance idx size => [.advance idx size]
  | .drawNoise rng => [.field rng]
  | .rungeKutta state handle order input => .model state handle order :: input.mentions
  | .shiftRight array length | .shiftLeft array length => [.shift array length]
  | .when test body => test.mentions ++ mentionsOf body
  | .block body => mentionsOf body

/-- What some statements mention. -/
@[simp] def mentionsOf : List (Statement α) → List (Mention α)
  | [] => []
  | first :: rest => first.mentions ++ mentionsOf rest

end

@[simp] theorem mentionsOf_append (first rest : List (Statement α)) :
    mentionsOf (first ++ rest) = mentionsOf first ++ mentionsOf rest := by
  induction first with
  | nil => rfl
  | cons statement first ih => simp [mentionsOf, ih]

theorem mem_mentionsOf_iff {statements : List (Statement α)} {mention : Mention α} :
    mention ∈ mentionsOf statements ↔
      ∃ statement ∈ statements, mention ∈ statement.mentions := by
  induction statements with
  | nil => simp [mentionsOf]
  | cons first rest ih => simp [mentionsOf, ih]

theorem mem_mentionsOf_flatMap_iff {β : Type} {items : List β} {write : β → List (Statement α)}
    {mention : Mention α} :
    mention ∈ mentionsOf (items.flatMap write) ↔
      ∃ item ∈ items, mention ∈ mentionsOf (write item) := by
  induction items with
  | nil => simp [mentionsOf]
  | cons first rest ih => simp [ih]

/-- What the code of a block mentions. -/
def BlockCode.mentions (code : BlockCode α) : List (Mention α) :=
  code.value.mentions ++ mentionsOf code.output ++ mentionsOf code.update

/-- What a tick mentions. -/
def Tick.mentions (tick : Tick α) : List (Mention α) :=
  mentionsOf (tick.outputs ++ tick.seeds ++ tick.pass ++ tick.sinks ++ tick.updates)

/-- All that is mentioned has a property. -/
def AllMentions (property : Mention α → Prop) (mentions : List (Mention α)) : Prop :=
  ∀ mention ∈ mentions, property mention

/-! ## The terms of blocks -/

section AllMentions

variable {property : Mention α → Prop} {mentions rest : List (Mention α)}

@[simp] theorem allMentions_nil : AllMentions property [] := fun _ => nofun

@[simp] theorem allMentions_cons {mention : Mention α} : AllMentions property (mention :: rest) ↔
    property mention ∧ AllMentions property rest :=
  List.forall_mem_cons

@[simp] theorem allMentions_append : AllMentions property (mentions ++ rest) ↔
    AllMentions property mentions ∧ AllMentions property rest :=
  List.forall_mem_append

/-- Terms that are put together one after the other mention what each of them does. -/
theorem allMentions_foldl_iff {β : Type} {join : Term α → Term α → Term α} {write : β → Term α}
    (joins : ∀ a b, (join a b).mentions = a.mentions ++ b.mentions) {items : List β}
    {first : Term α} :
    AllMentions property (items.foldl (fun sum item => join sum (write item)) first).mentions ↔
      AllMentions property first.mentions ∧
        ∀ item ∈ items, AllMentions property (write item).mentions := by
  induction items generalizing first with
  | nil => simp
  | cons item rest ih =>
      rw [List.foldl_cons, ih, joins, allMentions_append, List.forall_mem_cons, and_assoc]

theorem allMentions_sumFrom_iff {first : Term α} {terms : List (Term α)} :
    AllMentions property (sumFrom first terms).mentions ↔
      AllMentions property first.mentions ∧ ∀ term ∈ terms, AllMentions property term.mentions := by
  change AllMentions property (terms.foldl (fun sum term => .add sum (id term)) first).mentions ↔ _
  exact allMentions_foldl_iff fun _ _ => rfl

variable [Scalar α]

/-- An input of a block mentions its driver, or the number that stands in for one. -/
theorem allMentions_input {node : Node α} (drivers : ∀ driver ∈ node.driverHandles,
    property (.output driver)) (fallback : property (.number (Payload.fallback node.kind)))
    (port : Nat) : AllMentions property (input node port).mentions := by
  unfold input
  cases driven : node.driver? port with
  | none => simpa using fallback
  | some driver => simpa using drivers driver (Compiled.mem_driverHandles_of_driver? driven)

variable (zero : property (.number 0.0))
include zero

/-- The output of a model mentions its coefficients with the items of its state, and the input if
that reaches the output directly. -/
theorem allMentions_modelOutput_iff {model : StateSpace α} {state : Field} {u : Term α} :
    AllMentions property (modelOutput model state u).mentions ↔
      (∀ pair ∈ model.c.zipIdx,
        property (.number pair.1) ∧ property (.item state (.at pair.2))) ∧
      (model.hasFeedthrough = true →
        property (.number model.d) ∧ AllMentions property u.mentions) := by
  have summed (terms : List (Term α)) :
      AllMentions property (sumFrom (terms.headD (.number 0.0)) terms.tail).mentions ↔
        ∀ term ∈ terms, AllMentions property term.mentions := by
    cases terms with
    | nil => simpa [sumFrom] using zero
    | cons first rest =>
        rw [List.forall_mem_cons]
        exact allMentions_sumFrom_iff
  change AllMentions property (sumFrom _ _).mentions ↔ _
  rw [summed]
  split
  · next direct =>
      rw [List.forall_mem_append, List.forall_mem_map, List.forall_mem_singleton]
      simp [direct]
  · next direct =>
      rw [List.forall_mem_map]
      simp [direct]

/-- The output of a recurrence mentions its coefficients with the past inputs and outputs, apart
from the leading one of the denominator. -/
theorem allMentions_recurrenceOutput_iff {model : Recurrence α} {inputs outputs : Field} :
    AllMentions property (recurrenceOutput model inputs outputs).mentions ↔
      (∀ pair ∈ model.num.zipIdx,
        property (.number pair.1) ∧ property (.item inputs (.at pair.2))) ∧
      ∀ pair ∈ model.den.tail.zipIdx,
        property (.number pair.1) ∧ property (.item outputs (.at pair.2)) := by
  have adds (a b : Term α) : (Term.add a b).mentions = a.mentions ++ b.mentions := rfl
  have subs (a b : Term α) : (Term.sub a b).mentions = a.mentions ++ b.mentions := rfl
  unfold recurrenceOutput
  dsimp only
  rw [allMentions_foldl_iff subs, allMentions_foldl_iff adds]
  simp [zero]

end AllMentions

/-! ## The statements of a tick -/

section Statements

variable {node : Node α} {code : BlockCode α} {mention : Mention α}

theorem mem_mentionsOf_readOutput : mention ∈ mentionsOf (Program.readOutput node code) ↔
    mention ∈ code.value.mentions ∨ mention ∈ mentionsOf code.output ∨
      mention = .output node.handle := by
  simp only [Program.readOutput, Program.describe, mentionsOf_append, mentionsOf, Statement.mentions,
    Target.mentions, List.mem_append, List.mem_singleton, List.not_mem_nil, List.nil_append]
  tauto

theorem mem_mentionsOf_visit : mention ∈ mentionsOf (Program.visit node code) ↔
    (∃ driver ∈ node.driverHandles, .output driver = mention) ∨
      mention ∈ code.value.mentions ∨ mention ∈ mentionsOf code.output ∨
        mention = .output node.handle := by
  have drivers (driver : Nat) : driver ∈ (node.driverHandles.mergeSort (· ≤ ·)).eraseDups ↔
      driver ∈ node.driverHandles := by
    rw [List.mem_eraseDups, List.mem_mergeSort]
  have body : mention ∈ mentionsOf (code.output ++ [.define .candidate code.value,
      .when (.stale node.handle) [.store (.output node.handle) (.localValue .candidate),
        .settle node.handle, .progress]]) ↔ mention ∈ code.value.mentions ∨
          mention ∈ mentionsOf code.output ∨ mention = .output node.handle := by
    simp only [mentionsOf_append, mentionsOf, Statement.mentions, Target.mentions, Test.mentions,
      Term.mentions, List.mem_append, List.mem_singleton, List.append_nil]
    tauto
  unfold Program.visit
  dsimp only
  split
  · next alone =>
      have undriven (driver : Nat) : driver ∉ node.driverHandles := by
        rw [← drivers, List.isEmpty_iff.mp alone]
        exact List.not_mem_nil
      simp only [Program.describe, mentionsOf, Statement.mentions, List.nil_append, List.append_nil,
        body]
      simp [undriven]
  · simp only [Program.describe, mentionsOf, Statement.mentions, Test.mentions, List.nil_append,
      List.append_nil, List.mem_append, List.mem_map, drivers, body]

theorem mem_mentionsOf_updateBlock : mention ∈ mentionsOf (Program.updateBlock node code) ↔
    mention ∈ mentionsOf code.update := by
  unfold Program.updateBlock
  split
  · next idle => rw [List.isEmpty_iff.mp idle]
  · simp [Program.describe, mentionsOf, Statement.mentions]

theorem mem_mentionsOf_seed [Scalar α] (member : mention ∈ mentionsOf (Program.seed node)) :
    mention = .output node.handle ∨ mention = .number 0.0 := by
  unfold Program.seed at member
  split at member
  · simp only [mentionsOf, Statement.mentions, Target.mentions, Term.mentions, List.mem_append,
      List.mem_singleton, List.not_mem_nil, or_false] at member
    tauto
  · cases member

end Statements

/-! ## The tick of a compiled diagram -/

section Ticks

variable {compiled : Compiled α} {blocks : List (Node α × BlockCode α)} {mention : Mention α}

/-- The blocks whose outputs a tick stores, settles, waits for or publishes by itself. -/
def IsHandled (compiled : Compiled α) (blocks : List (Node α × BlockCode α)) (handle : Nat) : Prop :=
  (∃ item ∈ blocks, handle = item.1.handle ∨ handle ∈ item.1.driverHandles) ∨
    ∃ name, (name, handle) ∈ compiled.outputHandles

theorem mem_of_mem_filterMap {handles : List Nat} {item : Node α × BlockCode α}
    (member : item ∈ handles.filterMap (blocks[·]?)) : item ∈ blocks := by
  obtain ⟨handle, -, found⟩ := List.mem_filterMap.mp member
  exact List.mem_of_getElem? found

variable [Scalar α]

/-- **A tick mentions what the code of its blocks does**, besides the outputs that it handles itself
and the zero at which a loop starts. -/
theorem mem_mentions_tickOf (member : mention ∈ (Program.tickOf compiled blocks).mentions) :
    (∃ item ∈ blocks, mention ∈ item.2.mentions) ∨
      (∃ handle, IsHandled compiled blocks handle ∧ mention = .output handle) ∨
        mention = .number 0.0 := by
  have ofCode {item : Node α × BlockCode α} (listed : item ∈ blocks)
      (coded : mention ∈ item.2.value.mentions ∨ mention ∈ mentionsOf item.2.output ∨
        mention = .output item.1.handle) :
      (∃ item ∈ blocks, mention ∈ item.2.mentions) ∨
        (∃ handle, IsHandled compiled blocks handle ∧ mention = .output handle) ∨
          mention = .number 0.0 := by
    rcases coded with value | output | own
    · exact .inl ⟨item, listed, by simp [BlockCode.mentions, value]⟩
    · exact .inl ⟨item, listed, by simp [BlockCode.mentions, output]⟩
    · exact .inr (.inl ⟨_, .inl ⟨item, listed, .inl rfl⟩, own⟩)
  simp only [Tick.mentions, Program.tickOf, mentionsOf_append, List.mem_append,
    mem_mentionsOf_flatMap_iff] at member
  rcases member with
    (((⟨item, listed, member⟩ | ⟨item, listed, member⟩) | ⟨item, listed, member⟩) |
      (⟨item, listed, member⟩ | published)) | ⟨item, listed, member⟩
  · exact ofCode (mem_of_mem_filterMap listed) (mem_mentionsOf_readOutput.mp member)
  · rcases mem_mentionsOf_seed member with own | zero
    · exact ofCode (mem_of_mem_filterMap listed) (.inr (.inr own))
    · exact .inr (.inr zero)
  · rcases mem_mentionsOf_visit.mp member with ⟨driver, drives, same⟩ | coded
    · exact .inr (.inl ⟨driver, .inl ⟨item, mem_of_mem_filterMap listed, .inr drives⟩, same.symm⟩)
    · exact ofCode (mem_of_mem_filterMap listed) coded
  · exact ofCode (mem_of_mem_filterMap listed) (mem_mentionsOf_readOutput.mp member)
  · obtain ⟨statement, listed, member⟩ := mem_mentionsOf_iff.mp published
    obtain ⟨⟨name, handle⟩, output, rfl⟩ := List.mem_map.mp listed
    exact .inr (.inl ⟨handle, .inr ⟨name, output⟩, List.mem_singleton.mp member⟩)
  · rw [mem_mentionsOf_updateBlock] at member
    exact .inl ⟨item, listed, by simp [BlockCode.mentions, member]⟩

/-- A tick mentions all that the code of its blocks does. -/
theorem mem_mentions_tickOf_of_splits {outputs algebraic sinks : List (Node α × BlockCode α)}
    (splits : Compiled.SplitsCode (Program.tickOf compiled blocks) compiled blocks outputs algebraic
      sinks) {item : Node α × BlockCode α} (listed : item ∈ blocks)
    (member : mention ∈ item.2.mentions) : mention ∈ (Program.tickOf compiled blocks).mentions := by
  simp only [BlockCode.mentions, List.mem_append] at member
  have turn := splits.perm.symm.subset listed
  simp only [Tick.mentions, mentionsOf_append, List.mem_append, splits.outputs_eq, splits.pass_eq,
    splits.sinks_eq, mem_mentionsOf_flatMap_iff]
  rcases member with coded | update
  · have read : mention ∈ mentionsOf (Program.readOutput item.1 item.2) :=
      mem_mentionsOf_readOutput.mpr (coded.imp_right .inl)
    have visited : mention ∈ mentionsOf (Program.visit item.1 item.2) :=
      mem_mentionsOf_visit.mpr (.inr (coded.imp_right .inl))
    rw [List.mem_append, List.mem_append] at turn
    rcases turn with (output | algebraic) | sink
    · exact .inl (.inl (.inl (.inl ⟨item, output, read⟩)))
    · exact .inl (.inl (.inr ⟨item, algebraic, visited⟩))
    · exact .inl (.inr (.inl ⟨item, sink, read⟩))
  · refine .inr ?_
    change mention ∈ mentionsOf (blocks.flatMap fun item => Program.updateBlock item.1 item.2)
    rw [mem_mentionsOf_flatMap_iff]
    exact ⟨item, listed, mem_mentionsOf_updateBlock.mpr update⟩

end Ticks

/-! ## Programs -/

/-- A program is made of the code of the blocks of a compiled diagram. -/
structure IsProgramOf [Host] [Scalar α] (compiled : Compiled α)
    (coded : List (Node α × BlockCode α))
    (program : Program α) : Prop where
  nodes_eq : coded.map (·.1) = compiled.nodes.toList
  code_eq : ∀ item ∈ coded, blockCode item.1 = .ok item.2
  blockCount_eq : program.blockCount = compiled.nodes.size
  realized_eq : program.realized = coded.flatMap (·.2.realized)
  fields_eq : program.fields = coded.flatMap (·.2.fields)
  largestOrder_eq : program.largestOrder = (coded.map (·.2.order)).foldl Nat.max 0
  mentions_cases : ∀ mention ∈ program.tick.mentions, (∃ item ∈ coded, mention ∈ item.2.mentions) ∨
    (∃ handle, IsHandled compiled coded handle ∧ mention = .output handle) ∨ mention = .number 0.0
  mentions_of_code : ∀ item ∈ coded, ∀ mention ∈ item.2.mentions, mention ∈ program.tick.mentions

theorem IsProgramOf.exists_getElem? [Host] [Scalar α] {compiled : Compiled α}
    {coded : List (Node α × BlockCode α)} {program : Program α}
    (isProgram : IsProgramOf compiled coded program) {item : Node α × BlockCode α}
    (listed : item ∈ coded) : ∃ handle : Nat, compiled.nodes[handle]? = some item.1 := by
  have member : item.1 ∈ compiled.nodes.toList := by
    rw [← isProgram.nodes_eq]
    exact List.mem_map_of_mem listed
  obtain ⟨handle, found⟩ := List.getElem?_of_mem member
  exact ⟨handle, by rwa [Array.getElem?_toList] at found⟩

theorem exists_isProgramOf [Host] [Scalar α] {compiled : Compiled α}
    (wellFormed : compiled.WellFormed)
    {duration : Option Float} {limit : Int} {program : Program α}
    (generates : Program.ofCompiled compiled duration limit = .ok program) :
    ∃ coded, IsProgramOf compiled coded program := by
  obtain ⟨codes, made, same⟩ := bind_eq_ok_iff.mp generates
  cases same
  obtain ⟨length_eq, each⟩ := List.forall₂_iff_zip.mp (mapM_eq_ok_iff.mp made)
  have length : codes.length = compiled.nodes.size := by
    rw [← length_eq, Array.length_toList]
  have codes_eq : (compiled.nodes.toList.zip codes).map (·.2) = codes :=
    List.map_snd_zip length_eq.ge
  refine ⟨compiled.nodes.toList.zip codes, List.map_fst_zip length_eq.le, fun item => each, rfl,
    ?_, ?_, ?_, fun mention => mem_mentions_tickOf, fun item listed mention member => ?_⟩
  · conv_lhs => rw [← codes_eq]
    exact List.flatMap_map ..
  · conv_lhs => rw [← codes_eq]
    exact List.flatMap_map ..
  · conv_lhs => rw [← codes_eq]
    rw [List.map_map]
    rfl
  · exact mem_mentions_tickOf_of_splits (Compiled.splitsCode_tickOf wellFormed length) listed member

/-- A diagram compiles by the standard settings, and its program passes a test. -/
def programPasses [Host] (diagram : Diagram String) (test : Compiled Float → Program Float → Bool) :
    Bool :=
  (outcome (Compiled.ofDiagram diagram Compiled.standardDt Compiled.standardRuntime)
    []).1.toOption.any fun compiled =>
      (Program.ofCompiled compiled none 50).toOption.any (test compiled)

theorem exists_of_programPasses [Host] {diagram : Diagram String}
    {test : Compiled Float → Program Float → Bool} (passes : programPasses diagram test = true) :
    ∃ compiled after program,
      Completes (Compiled.ofDiagram diagram Compiled.standardDt Compiled.standardRuntime) []
        compiled after ∧
        Program.ofCompiled compiled none 50 = .ok program ∧ test compiled program = true := by
  obtain ⟨compiled, after, compiles, passes⟩ := exists_completes_of_any passes
  obtain ⟨program, generates, passed⟩ := exists_of_toOption_any passes
  exact ⟨compiled, after, program, compiles, generates, passed⟩

end SignalFlow.Code
