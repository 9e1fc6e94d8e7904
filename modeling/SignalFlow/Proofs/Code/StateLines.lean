import SignalFlow.Code.Generate

/-! # Where a program declares its state

The text of a program declares its state fields one to a line, an array with its length
(`Code.Declaration.line`), and has a line for the number of its blocks and one for each array of that
length (`Code.roomLines`). All these lines stand in each program, with a `main` or without one
(`Language.stateLines_infix_programLines`, `Language.roomLines_subset_programLines`).
-/

namespace SignalFlow

namespace Code

/-- The line that declares a state field: an entry of a dictionary or a member of a structure. -/
def Declaration.line (declaration : Declaration Float) : Language → String
  | .python => "        \"" ++ declaration.field.name ++ "\": " ++
      (match declaration.initial with
        | .number value => Decimal.shortest value
        | .seed value => Decimal.digitsOf value.toNat
        | .cursor => "0"
        | .zeros length => "[0.0] * " ++ Decimal.digitsOf length) ++ ","
  | .c =>
      match declaration.initial with
      | .number _ => "  double " ++ declaration.field.name ++ ";"
      | .seed _ => "  uint32_t " ++ declaration.field.name ++ ";"
      | .cursor => "  int " ++ declaration.field.name ++ ";"
      | .zeros length => "  double " ++ declaration.field.name ++
          "[" ++ Decimal.digitsOf (Nat.max 1 length) ++ "];"

/-- The lines that declare the state of a program. -/
def stateLines (fields : List (Declaration Float)) : Language → List String
  | .python => ["def init_model_state():", "    \"\"\"Fresh model state at t = 0.\"\"\"",
      "    return \x7b"] ++ fields.map (·.line .python) ++ ["    \x7d"]
  | .c => ["typedef struct \x7b"] ++ fields.map (·.line .c) ++ ["\x7d ModelState;"]

/-- The lines that make room for the outputs of the blocks of a program, for their marks, and in C
for the state of a transfer function on the way through a step. -/
def roomLines (program : Program Float) : Language → List String
  | .python => ["BLOCK_COUNT = " ++ Decimal.digitsOf program.blockCount,
      "    o = [0.0] * BLOCK_COUNT", "    v = [False] * BLOCK_COUNT"]
  | .c => ["#define BLOCK_COUNT " ++ Decimal.digitsOf (Nat.max 1 program.blockCount),
      "  double o[BLOCK_COUNT];", "  int v[BLOCK_COUNT];",
      "#define TF_MAX_ORDER " ++ Decimal.digitsOf (Nat.max 1 program.largestOrder)]

end Code

namespace Language

open Code

theorem indented_append (language : Language) (lines rest : List String) :
    language.indented (lines ++ rest) = language.indented lines ++ language.indented rest :=
  List.map_append

theorem indented_cons_of_ne {language : Language} {line : String} (nonempty : line ≠ "")
    (rest : List String) :
    language.indented (line :: rest) = (language.margin ++ line) :: language.indented rest := by
  have full : line.isEmpty = false := by
    rw [Bool.eq_false_iff, Ne, String.isEmpty_iff]
    exact nonempty
  rw [indented, indentedBy, List.map_cons, full, if_neg Bool.false_ne_true]
  rfl

/-- Lines that are written for some items are indented one by one. -/
theorem indented_map {β : Type} (language : Language) {write : β → String}
    (nonempty : ∀ item, write item ≠ "") (items : List β) :
    language.indented (items.map write) = items.map fun item => language.margin ++ write item := by
  induction items with
  | nil => rfl
  | cons item rest ih =>
      rw [List.map_cons, indented_cons_of_ne (nonempty item), ih, List.map_cons]

/-- A text with something in it is not empty. -/
theorem append_ne_empty {text : String} (nonempty : text ≠ "") (rest : String) :
    text ++ rest ≠ "" := by
  rw [Ne, String.append_eq_empty_iff, not_and]
  exact fun empty => absurd empty nonempty

theorem cText_ne_empty (declaration : Declaration Float) : declaration.cText ≠ "" := by
  rcases declaration with ⟨field, _ | _ | _ | _⟩ <;>
    simp only [Declaration.cText, String.append_assoc] <;>
    exact append_ne_empty (by decide) _

theorem margin_cText (declaration : Declaration Float) :
    Language.c.margin ++ declaration.cText = declaration.line .c := by
  rcases declaration with ⟨field, _ | _ | _ | _⟩ <;>
    simp only [Declaration.cText, Declaration.line, ← String.append_assoc] <;> rfl

theorem firstState_eq {fields : List (Declaration Float)} (some : fields ≠ []) :
    Python.firstState fields = stateLines fields .python := by
  let entry (declaration : Declaration Float) : String :=
    "\"" ++ declaration.field.name ++ "\": " ++ declaration.initial.pythonText ++ ","
  have nonempty (declaration : Declaration Float) : entry declaration ≠ "" := by
    simp only [entry, String.append_assoc]
    exact append_ne_empty (by decide) _
  have indentedOnce (declaration : Declaration Float) :
      Language.python.margin ++ entry declaration ≠ "" := append_ne_empty (by decide) _
  have line_eq (declaration : Declaration Float) : Language.python.margin ++
      (Language.python.margin ++ entry declaration) = declaration.line .python := by
    rcases declaration with ⟨field, _ | _ | _ | _⟩ <;>
      simp only [entry, Declaration.line, Initial.pythonText, ← String.append_assoc] <;> rfl
  have notEmpty : fields.isEmpty = false := by simpa using some
  have inner : Python.inner (fields.map entry) =
      fields.map fun declaration => Language.python.margin ++ entry declaration :=
    indented_map .python nonempty fields
  have opening : "return \x7b" ≠ "" := by decide
  rw [Python.firstState, notEmpty, if_neg Bool.false_ne_true, inner, Python.inner, indented_append,
    indented_cons_of_ne opening, indented_map .python indentedOnce]
  simp only [line_eq]
  rfl

theorem structLines_modelState {fields : List (Declaration Float)} (some : fields ≠ []) :
    CSource.structLines "ModelState"
      (CSource.orElse (fields.map Declaration.cText) ["int _unused;"]) =
        stateLines fields .c ++ [""] := by
  have lines := indented_map .c cText_ne_empty fields
  simp only [margin_cText] at lines
  have notEmpty : (fields.map Declaration.cText).isEmpty = false := by simpa using some
  rw [CSource.structLines, CSource.orElse, CSource.orElse, notEmpty, if_neg Bool.false_ne_true,
    notEmpty, if_neg Bool.false_ne_true, CSource.inner, lines]
  simp [stateLines]

/-- **A program declares its state in lines of their own**, one for each field. -/
theorem stateLines_infix_programLines {program : Program Float} (some : program.fields ≠ [])
    (withMain : Bool) (language : Language) :
    stateLines program.fields language <:+: language.programLines program withMain := by
  cases language with
  | python =>
      rw [programLines, Python.moduleLines, firstState_eq some]
      simp only [List.append_assoc]
      exact List.infix_append_of_infix_right (List.infix_append_of_infix_right
        (List.prefix_append _ _).isInfix)
  | c =>
      rw [programLines, CSource.sourceLines, CSource.structures, structLines_modelState some]
      simp only [List.append_assoc]
      exact List.infix_append_of_infix_right (List.prefix_append _ _).isInfix

/-- **A program makes room for all its blocks.** -/
theorem roomLines_subset_programLines (program : Program Float) (withMain : Bool)
    (language : Language) :
    roomLines program language ⊆ language.programLines program withMain := by
  cases language with
  | python =>
      have count : "BLOCK_COUNT = " ++ Decimal.digitsOf program.blockCount ∈
          Python.header program withMain :=
        List.mem_append_left _ (List.mem_append_left _ (List.mem_append_right _
          (.tail _ (.tail _ (.tail _ (.tail _ (.head _)))))))
      have arrays : ["    o = [0.0] * BLOCK_COUNT", "    v = [False] * BLOCK_COUNT"] ⊆
          Python.tickLines program.tick := by
        refine List.Subset.trans ?_ (List.subset_cons_self _ _)
        rw [Python.inner]
        simp only [List.append_assoc]
        rw [indented_append]
        exact List.subset_append_of_subset_left _ (by decide)
      rw [programLines, Python.moduleLines]
      intro line member
      rcases List.mem_cons.mp member with rfl | member
      · simp only [List.append_assoc]
        exact List.mem_append_left _ count
      · exact List.mem_append_left _ (List.mem_append_right _ (arrays member))
  | c =>
      have count : (CSource.header program)[11]? =
          some ("#define BLOCK_COUNT " ++ Decimal.digitsOf (Nat.max 1 program.blockCount)) := rfl
      have largest : (CSource.header program)[16]? =
          some ("#define TF_MAX_ORDER " ++ Decimal.digitsOf (Nat.max 1 program.largestOrder)) := rfl
      have arrays : ["  double o[BLOCK_COUNT];", "  int v[BLOCK_COUNT];"] ⊆
          CSource.tickLines program.tick := by
        refine List.Subset.trans ?_ (List.subset_append_left _ _)
        refine List.Subset.trans ?_ (List.subset_cons_self _ _)
        rw [CSource.inner]
        simp only [List.append_assoc]
        rw [indented_append]
        exact List.subset_append_of_subset_left _ (by decide)
      have inHeader {line : String} (member : line ∈ CSource.header program) :
          line ∈ Language.c.programLines program withMain := by
        rw [programLines, CSource.sourceLines]
        simp only [List.append_assoc]
        exact List.mem_append_left _ member
      intro line member
      rcases List.mem_cons.mp member with rfl | member
      · exact inHeader (List.mem_of_getElem? count)
      · rcases List.mem_append.mp (show line ∈ ["  double o[BLOCK_COUNT];",
          "  int v[BLOCK_COUNT];"] ++ [_] from member) with inTick | last
        · rw [programLines, CSource.sourceLines]
          exact List.mem_append_left _ (List.mem_append_right _ (arrays inTick))
        · obtain rfl := List.mem_singleton.mp last
          exact inHeader (List.mem_of_getElem? largest)

end Language

end SignalFlow
