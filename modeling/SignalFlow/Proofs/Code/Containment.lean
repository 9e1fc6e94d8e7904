import SignalFlow.Host.Usual
import SignalFlow.Proofs.Code.ProgramLines
import SignalFlow.Proofs.Resolved

/-! # No text of a diagram escapes into a program

The ids and types of blocks, the names of labels and those of variables may be any texts. A program
has them in three places only, whatever they are (`Program.isContained_of_completes`): in a comment
that has a line of its own and that nothing but its own end closes, and in names and quoted names
that consist of letters, digits and underscores. No text breaks a line.
-/

namespace SignalFlow.Code

variable {α : Type}

/-! ## Names in the code of a block -/

section Names

/-- The names of inputs of the whole program in the code of a block. -/
def BlockCode.names (code : BlockCode α) : List String :=
  code.value.names ++ namesOf code.output ++ namesOf code.update

@[simp] theorem namesOf_append (first rest : List (Statement α)) :
    namesOf (first ++ rest) = namesOf first ++ namesOf rest := by
  induction first with
  | nil => rfl
  | cons statement first ih => rw [List.cons_append, namesOf, namesOf, ih, List.append_assoc]

theorem names_foldl {β : Type} {join : Term α → Term α → Term α} {write : β → Term α}
    (joins : ∀ a b, (join a b).names = a.names ++ b.names) (items : List β) (first : Term α) :
    (items.foldl (fun sum item => join sum (write item)) first).names =
      first.names ++ items.flatMap fun item => (write item).names := by
  induction items generalizing first with
  | nil => simp
  | cons item rest ih => rw [List.foldl_cons, ih, joins, List.flatMap_cons, List.append_assoc]

theorem names_sumFrom (first : Term α) (terms : List (Term α)) :
    (sumFrom first terms).names = first.names ++ terms.flatMap Term.names := by
  have joins (a b : Term α) : (Term.add a b).names = a.names ++ b.names := rfl
  change (terms.foldl (fun sum term => .add sum (id term)) first).names = _
  exact names_foldl joins terms first

variable [Scalar α]

@[simp] theorem names_input (node : Node α) (port : Nat) : (input node port).names = [] := by
  unfold input
  split <;> rfl

@[simp] theorem names_clocked (next : Field) (period : α) (body : List (Statement α)) :
    namesOf (clocked next period body) = namesOf body := by
  simp [clocked, namesOf, Statement.names, Test.names, Term.names]

theorem names_modelOutput (model : StateSpace α) (state : Field) {u : Term α}
    (none : u.names = []) : (modelOutput model state u).names = [] := by
  have summed (terms : List (Term α)) (none : ∀ term ∈ terms, term.names = []) :
      (sumFrom (terms.headD (.number 0.0)) terms.tail).names = [] := by
    cases terms with
    | nil => rfl
    | cons first rest =>
        rw [List.forall_mem_cons] at none
        rw [names_sumFrom, List.append_eq_nil_iff, List.flatMap_eq_nil_iff]
        exact none
  refine summed _ ?_
  split
  · rw [List.forall_mem_append, List.forall_mem_map, List.forall_mem_singleton]
    exact ⟨fun _ _ => rfl, none⟩
  · rw [List.forall_mem_map]
    exact fun _ _ => rfl

theorem names_recurrenceOutput (model : Recurrence α) (inputs outputs : Field) :
    (recurrenceOutput model inputs outputs).names = [] := by
  have adds (a b : Term α) : (Term.add a b).names = a.names ++ b.names := rfl
  have subs (a b : Term α) : (Term.sub a b).names = a.names ++ b.names := rfl
  unfold recurrenceOutput
  dsimp only
  rw [names_foldl subs, names_foldl adds]
  simp [Term.names]

/-- The one name in the code of a block is that of an input of the diagram. -/
theorem eq_label_of_mem_names [Host] {node : Node α} {code : BlockCode α}
    (coded : blockCode node = .ok code) {name : String} (member : name ∈ code.names) :
    ∃ given, node.payload = .labelSource given ∧ name = node.label.getD given := by
  unfold blockCode at coded
  dsimp only at coded
  cases payload : node.payload with
  | labelSource given =>
      rw [payload] at coded
      cases coded
      refine ⟨given, rfl, ?_⟩
      cases external : node.external with
      | true =>
          simpa [BlockCode.names, BlockCode.ofValue, namesOf, Term.names, external] using member
      | false => simp [BlockCode.names, BlockCode.ofValue, namesOf, external] at member
  | mult =>
      rw [payload] at coded
      cases coded
      have joins (a b : Term α) : (Term.mul a b).names = a.names ++ b.names := rfl
      simp [BlockCode.names, BlockCode.ofValue, namesOf, List.foldl_map, names_foldl joins,
        Term.names] at member
  | tf num den model =>
      rw [payload] at coded
      cases model with
      | none =>
          cases coded
          simp [BlockCode.names, BlockCode.ofValue, namesOf, Statement.names, Term.names] at member
      | some model =>
          cases coded
          unfold modelCode at member
          split at member <;>
            simp [BlockCode.names, BlockCode.ofValue, namesOf, Statement.names, Term.names,
              names_modelOutput] at member
  | dtf num den ts model =>
      rw [payload] at coded
      cases coded
      unfold recurrenceCode at member
      dsimp only at member
      split at member <;>
        simp [BlockCode.names, namesOf, Statement.names, Term.names, names_recurrenceOutput]
          at member
  | delay time steps | ddelay steps ts =>
      rw [payload] at coded
      obtain ⟨size, -, coded⟩ := bind_eq_ok_iff.mp coded
      cases coded
      simp [BlockCode.names, namesOf, Statement.names, Term.names] at member
  | _ =>
      rw [payload] at coded
      cases coded
      simp [BlockCode.names, BlockCode.ofValue, BlockCode.ofFields, namesOf, Statement.names,
        Test.names, Term.names, clipped, divisor, names_sumFrom] at member

end Names

/-! ## Names in a tick -/

section Ticks

variable {node : Node α} {code : BlockCode α} {name : String}

theorem mem_namesOf_flatMap_iff {β : Type} {items : List β} {write : β → List (Statement α)} :
    name ∈ namesOf (items.flatMap write) ↔ ∃ item ∈ items, name ∈ namesOf (write item) := by
  induction items with
  | nil => simp [namesOf]
  | cons item rest ih => simp [ih]

theorem mem_namesOf_readOutput (member : name ∈ namesOf (Program.readOutput node code)) :
    name ∈ code.names := by
  simp only [Program.readOutput, Program.describe, namesOf_append, namesOf, Statement.names,
    List.nil_append, List.append_nil, List.mem_append, BlockCode.names] at member ⊢
  tauto

theorem mem_namesOf_visit (member : name ∈ namesOf (Program.visit node code)) :
    name ∈ code.names := by
  unfold Program.visit at member
  dsimp only at member
  split at member <;>
    simp only [Program.describe, namesOf_append, namesOf, Statement.names, Test.names, Term.names,
      List.nil_append, List.append_nil, List.mem_append, BlockCode.names] at member ⊢ <;>
    tauto

theorem mem_namesOf_updateBlock (member : name ∈ namesOf (Program.updateBlock node code)) :
    name ∈ code.names := by
  unfold Program.updateBlock at member
  split at member
  · cases member
  · simp only [Program.describe, namesOf, Statement.names, List.nil_append, List.append_nil]
      at member
    exact List.mem_append_right _ member

theorem namesOf_seed [Scalar α] (node : Node α) : namesOf (Program.seed node) = [] := by
  unfold Program.seed
  split <;> rfl

theorem namesOf_publish (outputs : List (String × Nat)) :
    namesOf (outputs.map fun (name, handle) => (.publish name handle : Statement α)) =
      outputs.map (·.1) := by
  induction outputs with
  | nil => rfl
  | cons output rest ih => rw [List.map_cons, namesOf, ih, Statement.names]; rfl

/-- The names in a tick are those in the code of its blocks and those that are published. -/
theorem names_tickOf_cases [Scalar α] {compiled : Compiled α}
    {blocks : List (Node α × BlockCode α)}
    (member : name ∈ (Program.tickOf compiled blocks).names) :
    (∃ item ∈ blocks, name ∈ item.2.names) ∨ name ∈ compiled.outputNames := by
  simp only [Tick.names, Program.tickOf, namesOf_append, List.mem_append, mem_namesOf_flatMap_iff,
    namesOf_seed, List.not_mem_nil, and_false, exists_false, or_false] at member
  rcases member with ((⟨item, listed, member⟩ | ⟨item, listed, member⟩) |
    (⟨item, listed, member⟩ | published)) | ⟨item, listed, member⟩
  · exact .inl ⟨item, mem_of_mem_filterMap listed, mem_namesOf_readOutput member⟩
  · exact .inl ⟨item, mem_of_mem_filterMap listed, mem_namesOf_visit member⟩
  · exact .inl ⟨item, mem_of_mem_filterMap listed, mem_namesOf_readOutput member⟩
  · exact .inr (by rwa [namesOf_publish] at published)
  · exact .inl ⟨item, listed, mem_namesOf_updateBlock member⟩

end Ticks

/-! ## Compiled diagrams -/

section Compiling

variable [Host] [Scalar α] {diagram : Diagram String} {defaultDt defaultRuntime : Setting α}
  {before after : List Notice} {compiled : Compiled α}
  (compiles : Completes (Compiled.ofDiagram diagram defaultDt defaultRuntime) before compiled after)
include compiles

/-- The label of a block is a word. -/
theorem isWord_label {handle : Nat} {node : Node α} (found : compiled.nodes[handle]? = some node)
    {label : String} (labelled : node.label = some label) : IsWord label := by
  obtain ⟨constants, dt, runtime, payloads, resolved, rfl⟩ :=
    Compiled.completes_ofDiagram_iff.mp ⟨after, compiles⟩
  obtain ⟨block, payload, -, -, rfl⟩ := Compiled.exists_of_getElem?_assemble found
  rw [Compiled.bind_label] at labelled
  simp only [Compiled.wired] at labelled
  split at labelled
  · cases labelled
    exact isWord_sanitize _
  · cases labelled

theorem exists_label {handle : Nat} {node : Node α} (found : compiled.nodes[handle]? = some node)
    (isSource : node.kind = .labelSource) : ∃ label, node.label = some label := by
  obtain ⟨constants, dt, runtime, payloads, resolved, rfl⟩ :=
    Compiled.completes_ofDiagram_iff.mp ⟨after, compiles⟩
  obtain ⟨block, payload, -, -, rfl⟩ := Compiled.exists_of_getElem?_assemble found
  rw [Compiled.bind_kind] at isSource
  rw [Compiled.bind_label]
  exact ⟨_, Compiled.label_wired isSource⟩

theorem isWord_of_mem_labels {nodes : List (Node α)} (sub : nodes ⊆ compiled.nodes.toList)
    {name : String} (member : name ∈ Compiled.labels nodes) : IsWord name := by
  rw [Compiled.labels, List.mem_eraseDups, List.mem_filterMap] at member
  obtain ⟨node, listed, labelled⟩ := member
  obtain ⟨handle, found⟩ := List.getElem?_of_mem (sub listed)
  rw [Array.getElem?_toList] at found
  exact isWord_label compiles found labelled

theorem isWord_of_mem_inputNames {name : String} (member : name ∈ compiled.inputNames) :
    IsWord name := by
  have labels : compiled.inputNames =
      Compiled.labels (compiled.nodes.toList.filter (·.external)) := by
    obtain ⟨constants, dt, runtime, payloads, resolved, rfl⟩ :=
      Compiled.completes_ofDiagram_iff.mp ⟨after, compiles⟩
    rfl
  rw [labels] at member
  exact isWord_of_mem_labels compiles List.filter_sublist.subset member

theorem isWord_of_mem_outputNames {name : String} (member : name ∈ compiled.outputNames) :
    IsWord name := by
  have labels : compiled.outputNames ⊆
      Compiled.labels (compiled.nodes.toList.filter (·.kind == .labelSink)) := by
    obtain ⟨constants, dt, runtime, payloads, resolved, rfl⟩ :=
      Compiled.completes_ofDiagram_iff.mp ⟨after, compiles⟩
    intro name member
    obtain ⟨⟨other, handle⟩, listed, rfl⟩ := List.mem_map.mp member
    obtain ⟨label, labelled, found⟩ := List.mem_filterMap.mp listed
    obtain ⟨sink, -, same⟩ := Option.map_eq_some_iff.mp found
    cases same
    exact labelled
  exact isWord_of_mem_labels compiles List.filter_sublist.subset (labels member)

/-- **The names in a program are words.** -/
theorem isWord_of_mem_names {duration : Option Float} {limit : Int} {program : Program α}
    (generates : Program.ofCompiled compiled duration limit = .ok program) {name : String}
    (member : name ∈ program.names) : IsWord name := by
  obtain ⟨codes, made, same⟩ := bind_eq_ok_iff.mp generates
  cases same
  simp only [Program.names, List.mem_append] at member
  rcases member with (input | output) | inTick
  · exact isWord_of_mem_inputNames compiles input
  · exact isWord_of_mem_outputNames compiles output
  · rcases names_tickOf_cases inTick with ⟨⟨node, code⟩, listed, member⟩ | output
    · have coded := (List.forall₂_iff_zip.mp (mapM_eq_ok_iff.mp made)).2 listed
      obtain ⟨handle, found⟩ := List.getElem?_of_mem (List.of_mem_zip listed).1
      rw [Array.getElem?_toList] at found
      obtain ⟨block, -, isNode⟩ := Compiled.exists_isNodeOf compiles found
      obtain ⟨given, payload, same⟩ := eq_label_of_mem_names coded member
      have isSource : node.kind = .labelSource := by
        rw [← isNode.payload_kind, payload]
        rfl
      obtain ⟨label, labelled⟩ := exists_label compiles found isSource
      rw [same, labelled]
      exact isWord_label compiles found labelled
    · exact isWord_of_mem_outputNames compiles output

end Compiling

/-! ## Contained programs -/

/-- The texts that a program has. -/
def Texts.own : Texts := ⟨id, id, id⟩

theorem Term.rewrite_own (term : Term α) : term.rewrite .own = term := by
  induction term with
  | external name => rfl
  | _ => simp_all [Term.rewrite]

theorem Test.rewrite_own (test : Test α) : test.rewrite .own = test := by
  cases test with
  | compare relation a b => rw [Test.rewrite, Term.rewrite_own, Term.rewrite_own]
  | _ => rfl

mutual

theorem Statement.rewrite_own : (statement : Statement α) → statement.rewrite .own = statement
  | .store target value => by rw [Statement.rewrite, Term.rewrite_own]
  | .increase field amount => by rw [Statement.rewrite, Term.rewrite_own]
  | .define name value => by rw [Statement.rewrite, Term.rewrite_own]
  | .rungeKutta state handle order input => by rw [Statement.rewrite, Term.rewrite_own]
  | .when test body => by rw [Statement.rewrite, Test.rewrite_own, rewriteAll_own body]
  | .block body => by rw [Statement.rewrite, rewriteAll_own body]
  | .comment _ | .settle _ | .progress | .advance _ _ | .drawNoise _ | .shiftRight _ _
  | .shiftLeft _ _ | .publish _ _ => by simp [Statement.rewrite, Texts.own]

theorem rewriteAll_own : (statements : List (Statement α)) → rewriteAll .own statements = statements
  | [] => rfl
  | first :: rest => by rw [rewriteAll, Statement.rewrite_own first, rewriteAll_own rest]

end

theorem Program.rewrite_own (program : Program α) : program.rewrite .own = program := by
  have names (own : List String) : own.map Texts.own.name = own := List.map_id own
  have vars : program.vars.map (fun entry => (Texts.own.var entry.1, entry.2)) = program.vars :=
    List.map_id _
  simp [Program.rewrite, Tick.rewrite, names, vars, rewriteAll_own]

/-- A part of a line holds no more than it should: fixed text has no line breaks, and all the rest
consists of letters, digits and underscores. -/
def Part.IsContained : Part → Prop
  | .code text => IsUnbroken text
  | .name own => IsWord own
  | .quoted own => IsWord own ∧ Text.quoted own = "'" ++ own ++ "'"
  | .var own => IsWord (sanitize own)

/-- A line holds no more than it should: a comment stands behind blanks, and nothing but its own end
closes it. -/
def Line.IsContained (language : Language) : Line → Prop
  | .blank => True
  | .comment margin text =>
      (∀ c ∈ margin.toList, c = ' ') ∧ language.EndsItself (language.comment text)
  | .parts items => ∀ part ∈ items, part.IsContained

/-- The texts of a program stand in the places of a template, and they stay within these. -/
structure Program.IsContained (program : Program Float) (language : Language) (withMain : Bool) :
    Prop where
  /-- No line has a line break in it. -/
  unbroken {line : String} : line ∈ language.programLines program withMain → IsUnbroken line
  /-- The lines are those of a template, which is the same for all texts that could stand in the
  place of those of the program. -/
  template : ∃ template : List Line, (∀ line ∈ template, line.IsContained language) ∧
    language.programLines program withMain = template.map (Line.text language .own) ∧
    ∀ texts, language.programLines (program.rewrite texts) withMain =
      template.map (Line.text language texts)

theorem Line.IsOf.isContained {names : List String} (words : ∀ name ∈ names, IsWord name)
    {line : Line} (isOf : line.IsOf names) (language : Language) : line.IsContained language := by
  cases line with
  | blank => trivial
  | comment margin text => exact ⟨isOf, language.endsItself_comment text⟩
  | parts items =>
      intro part listed
      have partOf := isOf.2 part listed
      cases part with
      | code text => exact partOf
      | name own => exact words own partOf
      | quoted own => exact ⟨words own partOf, Text.quoted_of_isWord (words own partOf)⟩
      | var own => exact isWord_sanitize own

/-- There is no line break in a line that holds no more than it should. -/
theorem Line.IsContained.isUnbroken {language : Language} {line : Line}
    (contained : line.IsContained language) : IsUnbroken (line.text language .own) := by
  cases line with
  | blank => exact ⟨by simp [text], by simp [text]⟩
  | comment margin text =>
      have spaces : IsUnbroken margin := .of_forall (· = ' ') (by decide) (by decide) contained.1
      exact spaces.append (language.isUnbroken_comment text)
  | parts items =>
      refine IsUnbroken.join (List.forall_mem_map.mpr fun part listed => ?_)
      have partContained := contained part listed
      cases part with
      | code text => exact partContained
      | name own => exact partContained.isUnbroken
      | quoted own => exact Text.isUnbroken_quoted own
      | var own => exact partContained.isUnbroken

/-- **No text of a diagram escapes into a program that is generated for it**, whatever texts it
has. -/
theorem Program.isContained_of_completes [Host] {diagram : Diagram String}
    {defaultDt defaultRuntime : Setting Float} {before after : List Notice}
    {compiled : Compiled Float} {duration : Option Float} {limit : Int} {program : Program Float}
    (compiles : Completes (Compiled.ofDiagram diagram defaultDt defaultRuntime) before compiled
      after)
    (generates : Program.ofCompiled compiled duration limit = .ok program) (language : Language)
    (withMain : Bool) : program.IsContained language withMain := by
  obtain ⟨template, isOf, same⟩ :=
    follows_programLines language (List.Subset.refl program.names) withMain
  have contained : ∀ line ∈ template, line.IsContained language := fun line listed =>
    (isOf line listed).isContained (fun name => isWord_of_mem_names compiles generates) language
  have own : language.programLines program withMain = template.map (Line.text language .own) := by
    have filled := same .own
    dsimp only at filled
    rwa [Program.rewrite_own] at filled
  refine ⟨fun {line} listed => ?_, template, contained, own, same⟩
  rw [own] at listed
  obtain ⟨origin, inTemplate, rfl⟩ := List.mem_map.mp listed
  exact (contained origin inTemplate).isUnbroken

/-- Texts that would end a comment, a line or a quoted name, if they could. -/
def escapingDiagram : Diagram String where
  blocks := [⟨"a */ int\n# b", "x\r*/", []⟩,
    ⟨"in", "labelSource", [("name", .text "u\"]; */\n")]⟩, ⟨"out\n", "labelSink", []⟩]
  connections := [⟨"in", "out\n", 0, 0⟩]
  vars := [("k = 1;\n", .int 2)]
  runtime := .null
  dt := .null
  nextId := 1

open Host.Usual

theorem Program.isContained_escapingDiagram : ∃ compiled after program,
    Completes (Compiled.ofDiagram escapingDiagram Compiled.standardDt Compiled.standardRuntime) []
      compiled after ∧
      Program.ofCompiled compiled none 50 = .ok program ∧
      program.inputNames = ["u______"] ∧ program.outputNames = ["out"] ∧
      ∀ language withMain, program.IsContained language withMain := by
  have passes : programPasses escapingDiagram (fun _ program =>
      program.inputNames == ["u______"] && program.outputNames == ["out"]) = true := by
    decide +kernel
  obtain ⟨compiled, after, program, compiles, generates, names⟩ := exists_of_programPasses passes
  rw [Bool.and_eq_true, beq_iff_eq, beq_iff_eq] at names
  exact ⟨compiled, after, program, compiles, generates, names.1, names.2,
    Program.isContained_of_completes compiles generates⟩

end SignalFlow.Code
