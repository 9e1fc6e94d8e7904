import SignalFlow.Proofs.Code.Template

/-! # The lines of a program come from one template

Part by part, the lines of a module (`Python.follows_moduleLines`) and of a source
(`CSource.follows_sourceLines`) are put together from lines that are fixed, from the statements of a
tick and from the names that a program declares.
-/

namespace SignalFlow.Code

namespace Program

variable (texts : Texts) (program : Program Float)

@[simp] theorem realized_rewrite : (program.rewrite texts).realized = program.realized := rfl

@[simp] theorem fields_rewrite : (program.rewrite texts).fields = program.fields := rfl

@[simp] theorem tick_rewrite : (program.rewrite texts).tick = program.tick.rewrite texts := rfl

@[simp] theorem inputNames_rewrite :
    (program.rewrite texts).inputNames = program.inputNames.map texts.name := rfl

@[simp] theorem outputNames_rewrite :
    (program.rewrite texts).outputNames = program.outputNames.map texts.name := rfl

end Program

section Parts

variable {language : Language} {names : List String}

/-! ## Declarations -/

theorem isUnbroken_numbers (values : List Float) : IsUnbroken (Language.numbers values) :=
  .intercalate (by decide) (List.forall_mem_map.mpr fun value _ => isUnbroken_shortest value)

/-- The rows of a matrix between brackets. -/
theorem isUnbroken_rows {start rest : String} (texts : IsUnbroken start ∧ IsUnbroken rest)
    (rows : List (List Float)) :
    IsUnbroken (", ".intercalate (rows.map fun row => start ++ Language.numbers row ++ rest)) := by
  refine .intercalate (by decide) (List.forall_mem_map.mpr fun row _ => ?_)
  simp only [IsUnbroken.append_iff]
  exact ⟨⟨texts.1, isUnbroken_numbers row⟩, texts.2⟩

theorem isUnbroken_realized (language : Language) (table : Realized Float) :
    IsUnbroken (language.realized table) := by
  cases table with
  | matrix handle rows =>
      have name : IsUnbroken (matrixName handle) := isUnbroken_ownName (by decide) handle
      have size := isUnbroken_digitsOf rows.length
      cases language with
      | python =>
          have text : IsUnbroken (", ".intercalate (rows.map fun row =>
              "[" ++ Language.numbers row ++ "]")) := isUnbroken_rows (by decide) rows
          exact ((name.append (by decide)).append text).append (by decide)
      | c =>
          have text : IsUnbroken (", ".intercalate (rows.map fun row =>
              "\x7b" ++ Language.numbers row ++ "\x7d")) := isUnbroken_rows (by decide) rows
          have start : IsUnbroken ("static const double " ++ matrixName handle) :=
            .append (by decide) name
          exact ((((((start.append (by decide)).append size).append (by decide)).append size).append
            (by decide)).append text).append (by decide)
  | vector handle entries =>
      have name : IsUnbroken (vectorName handle) := isUnbroken_ownName (by decide) handle
      have size := isUnbroken_digitsOf entries.length
      have text := isUnbroken_numbers entries
      cases language with
      | python => exact ((name.append (by decide)).append text).append (by decide)
      | c =>
          have start : IsUnbroken ("static const double " ++ vectorName handle) :=
            .append (by decide) name
          exact ((((start.append (by decide)).append size).append (by decide)).append text).append
            (by decide)

theorem quotedItems_map_text (texts : List String) :
    Value.quotedItems (texts.map .text) = texts.map Text.quoted := by
  induction texts with
  | nil => rfl
  | cons text rest ih => rw [List.map_cons, Value.quotedItems, ih, Value.quoted, List.map_cons]

/-- Each name is a word, and all of them are listed. -/
theorem spelled_nameList {own : List String} (listed : own ⊆ names) :
    Spelled names fun texts => Python.nameList (own.map texts.name) := by
  have items : Spelled names fun texts =>
      ", ".intercalate (own.map fun name => Text.quoted (texts.name name)) :=
    .intercalate (by decide) fun name member =>
      .part (show Part.IsOf names (.quoted name) from listed member)
  have text (texts : Texts) : Python.nameList (own.map texts.name) =
      "[" ++ ", ".intercalate (own.map fun name => Text.quoted (texts.name name)) ++ "]" := by
    rw [Python.nameList, Value.quoted, quotedItems_map_text, List.map_map]
    rfl
  simp only [text]
  exact ((Spelled.literal (by decide)).append items).append (.literal (by decide))

/-! ## Modules -/

namespace Python

theorem follows_vars (vars : List (String × Float)) :
    Follows .python names fun texts => vars.map fun (name, value) =>
      Program.variableName (texts.var name) ++ " = " ++ Decimal.shortest value :=
  .map fun (name, value) _ =>
    (((Solid.literal (by decide)).append
      (.part (show Part.IsOf names (.var name) from trivial))).append (.literal (by decide))).append
        (.code (isUnbroken_shortest value))

theorem follows_header {program : Program Float} (listed : program.names ⊆ names)
    (withMain : Bool) :
    Follows .python names fun texts => header (program.rewrite texts) withMain := by
  have blocks := isUnbroken_digitsOf (Language.python.arrayLength program.blockCount)
  have dt := program.dt.isUnbroken_quoted
  have duration := program.duration.isUnbroken_quoted
  have limit := (Value.int program.limit).isUnbroken_quoted
  have inputs : Spelled names fun texts => nameList (program.inputNames.map texts.name) :=
    spelled_nameList fun name member => listed (by simp [Program.names, member])
  have outputs : Spelled names fun texts => nameList (program.outputNames.map texts.name) :=
    spelled_nameList fun name member => listed (by simp [Program.names, member])
  simp only [header, Program.rewrite, List.map_map, List.isEmpty_map]
  refine ((((Follows.fixed ?_).append (.fixed ?_)).append ?_).append ?_).append (.fixed ?_)
  · simp only [List.forall_mem_cons]
    exact ⟨by decide, by decide, by decide,
      ((blocks.append (by decide)).append dt).append (by decide), by decide, by decide,
      List.forall_mem_nil _⟩
  · cases withMain <;> decide
  · exact .blank (.cons ((Solid.literal (by decide)).append (.code dt))
      (.cons ((Solid.literal (by decide)).append (.code duration))
        (.cons ((Solid.literal (by decide)).append (.code limit))
          (.cons ((Solid.literal (by decide)).append (.code blocks))
            (.cons ((Solid.literal (by decide)).append inputs)
              (.cons ((Solid.literal (by decide)).append outputs) (.blank .nil)))))))
  · by_cases empty : program.vars.isEmpty = true
    · simp only [if_pos empty]
      exact .nil
    · simp only [if_neg empty]
      exact (Follows.cons (.literal (by decide)) (follows_vars program.vars)).append
        (.fixed (by decide))
  · split
    · simp
    · simp only [List.cons_append, List.forall_mem_cons, List.forall_mem_append,
        List.forall_mem_map]
      exact ⟨by decide, fun table _ => isUnbroken_realized .python table, by decide,
        List.forall_mem_nil _⟩

theorem isUnbroken_entry (declaration : Declaration Float) :
    IsUnbroken ("\"" ++ declaration.field.name ++ "\": " ++ declaration.initial.pythonText ++
      ",") := by
  have initial : IsUnbroken declaration.initial.pythonText := by
    cases declaration.initial with
    | number value => exact isUnbroken_shortest value
    | seed value => exact isUnbroken_digitsOf _
    | cursor => decide
    | zeros length => exact .append (by decide) (isUnbroken_digitsOf _)
  have start : IsUnbroken ("\"" ++ declaration.field.name) :=
    .append (by decide) (isUnbroken_fieldName declaration.field)
  exact ((start.append (by decide)).append initial).append (by decide)

theorem follows_firstState (fields : List (Declaration Float)) :
    Follows .python names fun _ => firstState fields := by
  have entries : Follows .python names fun _ => fields.map fun declaration =>
      "\"" ++ declaration.field.name ++ "\": " ++ declaration.initial.pythonText ++ "," :=
    .fixed (List.forall_mem_map.mpr fun declaration _ => isUnbroken_entry declaration)
  refine (Follows.fixed (by decide)).append (.indented ?_)
  split
  · exact .fixed (by decide)
  · exact (Follows.cons (.literal (by decide)) entries.indented).append
      (.fixed (by decide))

theorem follows_tickLines {tick : Tick Float} (listed : tick.names ⊆ names) :
    Follows .python names fun texts => tickLines (tick.rewrite texts) := by
  simp only [Tick.names, List.append_subset] at listed
  obtain ⟨⟨⟨⟨outputs, seeds⟩, pass⟩, sinks⟩, updates⟩ := listed
  have body : Follows .python names fun texts =>
      inner (["updated = False"] ++ Language.python.statements (rewriteAll texts tick.pass) ++
        ["if not updated:", "    break"]) :=
    .indented (((Follows.fixed (by decide)).append (follows_statements .python _ pass)).append
      (.fixed (by decide)))
  simp only [tickLines, Tick.rewrite]
  refine .cons (.literal (by decide)) (.indented ?_)
  exact ((((((((((Follows.fixed (by decide)).append (follows_statements .python _ outputs)).append
    (.fixed (by decide))).append (follows_statements .python _ seeds)).append
      (.fixed (by decide))).append body).append (.fixed (by decide))).append
        (follows_statements .python _ sinks)).append (.fixed (by decide))).append
          (follows_statements .python _ updates)).append (.fixed (by decide))

theorem isUnbroken_rungeKutta : ∀ line ∈ rungeKutta, IsUnbroken line := by
  unfold rungeKutta
  repeat
    refine List.forall_mem_cons.mpr ⟨?_, ?_⟩
    · exact .ofList (by decide)
  exact List.forall_mem_nil _

theorem isUnbroken_mainLines : ∀ line ∈ mainLines, IsUnbroken line := by
  rw [mainLines, Language.replayLines_python]
  unfold mainHead mainTail
  simp only [List.cons_append, List.nil_append]
  repeat
    refine List.forall_mem_cons.mpr ⟨?_, ?_⟩
    · try with_reducible refine IsUnbroken.append ?_ ?_
      all_goals exact .ofList (by decide)
  exact List.forall_mem_nil _

theorem follows_moduleLines {program : Program Float} (listed : program.names ⊆ names)
    (withMain : Bool) :
    Follows .python names fun texts => moduleLines (program.rewrite texts) withMain := by
  have inTick : program.tick.names ⊆ names := fun name member =>
    listed (by simp [Program.names, member])
  have support : ∀ line ∈ if program.realized.isEmpty then [] else rungeKutta ++ ["", ""],
      IsUnbroken line := by
    split
    · exact List.forall_mem_nil _
    · exact List.forall_mem_append.mpr ⟨isUnbroken_rungeKutta, by decide⟩
  have main : ∀ line ∈ if withMain then ["", ""] ++ mainLines else [], IsUnbroken line := by
    split
    · exact List.forall_mem_append.mpr ⟨by decide, isUnbroken_mainLines⟩
    · exact List.forall_mem_nil _
  exact (((((follows_header listed withMain).append (.fixed support)).append
    (follows_firstState program.fields)).append (.fixed (by decide))).append
      (follows_tickLines inTick)).append (.fixed main)

end Python

/-! ## Sources -/

/-- Whether other lines stand in place of none does not depend on the texts. -/
theorem Follows.orElse {lines : Texts → List String} {instead : List String}
    (follows : Follows language names lines) (unbroken : ∀ line ∈ instead, IsUnbroken line) :
    Follows language names fun texts => CSource.orElse (lines texts) instead := by
  obtain ⟨template, isOf, same⟩ := follows
  by_cases empty : template = []
  · have none (texts : Texts) : CSource.orElse (lines texts) instead = instead := by
      simp [CSource.orElse, same, empty]
    simp only [none]
    exact fixed unbroken
  · have some (texts : Texts) : CSource.orElse (lines texts) instead = lines texts := by
      simp [CSource.orElse, same, empty]
    simp only [some]
    exact ⟨template, isOf, same⟩

theorem isUnbroken_cText (declaration : Declaration Float) : IsUnbroken declaration.cText := by
  have name := isUnbroken_fieldName declaration.field
  unfold Declaration.cText
  cases declaration.initial with
  | number _ | seed _ | cursor => exact (IsUnbroken.append (by decide) name).append (by decide)
  | zeros length =>
      exact (((IsUnbroken.append (by decide) name).append (by decide)).append
        (isUnbroken_digitsOf _)).append (by decide)

theorem isUnbroken_cStart (declaration : Declaration Float) :
    ∀ line ∈ declaration.cStart, IsUnbroken line := by
  have store {value : String} (unbroken : IsUnbroken value) :
      ∀ line ∈ [Language.c.field declaration.field ++ " = " ++ value ++ ";"], IsUnbroken line :=
    List.forall_mem_singleton.mpr ((((isUnbroken_field .c declaration.field).append
      (by decide)).append unbroken).append (by decide))
  unfold Declaration.cStart
  cases declaration.initial with
  | number value =>
      dsimp only
      split
      · exact List.forall_mem_nil _
      · exact store (isUnbroken_shortest value)
  | seed value => exact store ((isUnbroken_digitsOf _).append (by decide))
  | cursor => exact store (by decide)
  | zeros length => exact List.forall_mem_nil _

namespace CSource

theorem follows_vars (vars : List (String × Float)) :
    Follows .c names fun texts => vars.map fun (name, value) =>
      s!"static const double {Program.variableName (texts.var name)} = {Decimal.shortest value};" :=
  .map fun (name, value) _ => by
    have variableName : Spelled names fun texts => Program.variableName (texts.var name) :=
      (Spelled.literal (by decide)).append (.part (show Part.IsOf names (.var name) from trivial))
    exact ((((Solid.literal (by decide)).append variableName).append
      (.literal (by decide))).append (.code (isUnbroken_shortest value))).append (.literal (by decide))

theorem follows_header (program : Program Float) :
    Follows .c names fun texts => header (program.rewrite texts) := by
  have dt := program.dt.isUnbroken_quoted
  have duration := program.duration.isUnbroken_quoted
  have limit := (Value.int program.limit).isUnbroken_quoted
  have title : IsUnbroken ("/* Generated by diagsim from a block diagram: " ++
      Decimal.digitsOf program.blockCount) := .append (by decide) (isUnbroken_digitsOf _)
  have define {lead : String} (unbroken : IsUnbroken lead) (count : Nat) :
      IsUnbroken (lead ++ Decimal.digitsOf count) := unbroken.append (isUnbroken_digitsOf count)
  simp only [header, Program.rewrite, List.map_map, List.isEmpty_map, List.length_map]
  refine ((Follows.append (.fixed ?_) (follows_vars program.vars)).append (.fixed ?_)).append
    (.fixed (by decide))
  · simp only [List.forall_mem_cons]
    exact ⟨((title.append (by decide)).append dt).append (by decide), by decide, by decide,
      by decide, by decide, by decide, by decide, by decide, by decide, by decide, by decide,
      define (by decide) _, .append (by decide) limit, define (by decide) _, define (by decide) _,
      define (by decide) _, define (by decide) _, by decide,
      (IsUnbroken.append (by decide) dt).append (by decide),
      (IsUnbroken.append (by decide) duration).append (by decide), List.forall_mem_nil _⟩
  · split
    · exact List.forall_mem_nil _
    · exact List.forall_mem_append.mpr ⟨by decide,
        List.forall_mem_map.mpr fun table _ => isUnbroken_realized .c table⟩

theorem follows_structLines {name : String} (unbroken : IsUnbroken name)
    {members : Texts → List String} (follows : Follows .c names members) :
    Follows .c names fun texts => structLines name (members texts) := by
  have last : IsUnbroken ("\x7d " ++ name ++ ";") :=
    (IsUnbroken.append (by decide) unbroken).append (by decide)
  refine .append (.cons (.literal (by decide)) (.indented (follows.orElse (by decide))))
    (.fixed ?_)
  exact List.forall_mem_cons.mpr ⟨last, by decide⟩

/-- A member of a structure for each name. -/
theorem follows_members {own : List String} (listed : own ⊆ names) {lead : String}
    (unbroken : IsUnbroken lead) (nonempty : lead ≠ "") :
    Follows .c names fun texts => (own.map texts.name).map fun name => lead ++ name ++ ";" := by
  simp only [List.map_map]
  exact .map fun name member => ((Solid.code unbroken nonempty).append
    (.part (show Part.IsOf names (.name name) from listed member))).append (.literal (by decide))

theorem follows_nameArray {own : List String} (listed : own ⊆ names) {array : String}
    (unbroken : IsUnbroken array) :
    Follows .c names fun texts => nameArray array (own.map texts.name) := by
  have entries : Follows .c names fun texts =>
      (own.map texts.name).map fun name => "\"" ++ name ++ "\"," := by
    simp only [List.map_map]
    exact .map fun name member => ((Solid.literal (by decide)).append
      (.part (show Part.IsOf names (.name name) from listed member))).append (.literal (by decide))
  exact (Follows.cons (((Solid.literal (by decide)).append (.code unbroken)).append
    (.literal (by decide))) (.indented (entries.orElse (by decide)))).append (.fixed (by decide))

theorem follows_structures {program : Program Float} (listed : program.names ⊆ names) :
    Follows .c names fun texts => structures (program.rewrite texts) := by
  have inputs : program.inputNames ⊆ names := fun name member =>
    listed (by simp [Program.names, member])
  have outputs : program.outputNames ⊆ names := fun name member =>
    listed (by simp [Program.names, member])
  have fields : Follows .c names fun _ => program.fields.map Declaration.cText :=
    .fixed (List.forall_mem_map.mpr fun declaration _ => isUnbroken_cText declaration)
  exact (((((follows_structLines (by decide) (fields.orElse (by decide))).append
    (follows_structLines (by decide) (follows_members inputs (by decide) (by decide)))).append
      (follows_structLines (by decide) (follows_members outputs (by decide) (by decide)))).append
        (follows_nameArray inputs (by decide))).append
          (follows_nameArray outputs (by decide))).append (.fixed (by decide))

theorem follows_firstState (fields : List (Declaration Float)) :
    Follows .c names fun _ => firstState fields := by
  have stores : Follows .c names fun _ => fields.flatMap Declaration.cStart :=
    .flatMap fun declaration _ => .fixed (isUnbroken_cStart declaration)
  exact (Follows.cons (.literal (by decide))
    (.indented (.cons (.literal (by decide)) stores))).append (.fixed (by decide))

theorem follows_tickLines {tick : Tick Float} (listed : tick.names ⊆ names) :
    Follows .c names fun texts => tickLines (tick.rewrite texts) := by
  simp only [Tick.names, List.append_subset] at listed
  obtain ⟨⟨⟨⟨outputs, seeds⟩, pass⟩, sinks⟩, updates⟩ := listed
  have body : Follows .c names fun texts =>
      inner (["int updated = 0;"] ++ Language.c.statements (rewriteAll texts tick.pass) ++
        ["if (!updated) break;"]) :=
    .indented (((Follows.fixed (by decide)).append (follows_statements .c _ pass)).append
      (.fixed (by decide)))
  simp only [tickLines, Tick.rewrite]
  refine (Follows.cons (.literal (by decide)) (.indented ?_)).append (.fixed (by decide))
  exact (((((((((((Follows.fixed (by decide)).append (follows_statements .c _ outputs)).append
    (.fixed (by decide))).append (follows_statements .c _ seeds)).append
      (.fixed (by decide))).append body).append (.fixed (by decide))).append
        (.fixed (by decide))).append (follows_statements .c _ sinks)).append
          (.fixed (by decide))).append (follows_statements .c _ updates))

/-- The lines that all sources share. -/
theorem isUnbroken_shared :
    ∀ line ∈ rungeKutta ++ (tableSupport ++ (mainStart ++ mainEnd)), IsUnbroken line := by
  rw [mainStart, Language.replayLines_c]
  unfold rungeKutta tableSupport mainHead mainEnd
  simp only [List.cons_append, List.nil_append]
  repeat
    refine List.forall_mem_cons.mpr ⟨?_, ?_⟩
    · try with_reducible refine IsUnbroken.append ?_ ?_
      all_goals exact .ofList (by decide)
  exact List.forall_mem_nil _

theorem follows_fillLines {own : List String} (listed : own ⊆ names) :
    Follows .c names fun texts => fillLines (own.map texts.name) := by
  have fill : Follows .c names fun texts => (own.map texts.name).zipIdx.map fun entry =>
      s!"in->u_{entry.1} = series->values[idx * INPUT_SLOTS + {Decimal.digitsOf entry.2}];" := by
    simp only [List.zipIdx_map, List.map_map]
    refine .map fun entry member => ?_
    have isName : Spelled names fun texts => texts.name entry.1 :=
      .part (show Part.IsOf names (.name entry.1) from listed (List.fst_mem_of_mem_zipIdx member))
    exact ((((Solid.literal (by decide)).append isName).append (.literal (by decide))).append
      (.code (isUnbroken_digitsOf entry.2))).append (.literal (by decide))
  exact (Follows.cons (.literal (by decide))
    (.indented (fill.orElse (by decide)))).append (.fixed (by decide))

theorem follows_rowLines {own : List String} (listed : own ⊆ names) :
    Follows .c names fun texts => rowLines (own.map texts.name) := by
  have cells : Follows .c names fun texts => (own.map texts.name).map fun name =>
      s!"fprintf(outFile, \",%.6f\", out.y_{name});" := by
    simp only [List.map_map]
    exact .map fun name member => ((Solid.literal (by decide)).append
      (.part (show Part.IsOf names (.name name) from listed member))).append (.literal (by decide))
  exact ((Follows.fixed (by decide)).append cells).append (.fixed (by decide))

theorem follows_sourceLines {program : Program Float} (listed : program.names ⊆ names)
    (withMain : Bool) :
    Follows .c names fun texts => sourceLines (program.rewrite texts) withMain := by
  have inputs : program.inputNames ⊆ names := fun name member =>
    listed (by simp [Program.names, member])
  have outputs : program.outputNames ⊆ names := fun name member =>
    listed (by simp [Program.names, member])
  have inTick : program.tick.names ⊆ names := fun name member =>
    listed (by simp [Program.names, member])
  have shared := isUnbroken_shared
  simp only [List.forall_mem_append] at shared
  obtain ⟨rungeKutta, tableSupport, mainStart, mainEnd⟩ := shared
  have support : ∀ line ∈ if program.realized.isEmpty then [] else CSource.rungeKutta ++ [""],
      IsUnbroken line := by
    split
    · exact List.forall_mem_nil _
    · exact List.forall_mem_append.mpr ⟨rungeKutta, by decide⟩
  have main : Follows .c names fun texts => if withMain then
      CSource.tableSupport ++ [""] ++ fillLines (program.inputNames.map texts.name) ++
        CSource.mainStart ++ inner (inner (rowLines (program.outputNames.map texts.name))) ++
          CSource.mainEnd
      else [] := by
    cases withMain with
    | false => exact .nil
    | true => exact (((((Follows.fixed tableSupport).append (.fixed (by decide))).append
        (follows_fillLines inputs)).append (.fixed mainStart)).append
          (follows_rowLines outputs).indented.indented).append (.fixed mainEnd)
  exact (((((follows_header program).append (follows_structures listed)).append
    (.fixed support)).append (follows_firstState program.fields)).append
      (follows_tickLines inTick)).append main

end CSource

/-- **The lines of a program come from one template**, whatever stands in the place of its texts. -/
theorem follows_programLines (language : Language) {program : Program Float}
    (listed : program.names ⊆ names) (withMain : Bool) :
    Follows language names fun texts =>
      language.programLines (program.rewrite texts) withMain := by
  cases language with
  | python => exact Python.follows_moduleLines listed withMain
  | c => exact CSource.follows_sourceLines listed withMain

end Parts

end SignalFlow.Code
