import SignalFlow.Code.Generate
import SignalFlow.Host.Usual
import SignalFlow.Proofs.Code.Comments
import SignalFlow.Proofs.Code.Scope
import SignalFlow.Proofs.Entries
import Mathlib.Data.List.Nodup

/-! # The constants that a program declares

At file level a program declares constants: its settings, the variables of its diagram and the
tables of its transfer functions (`Language.constants`). The name of a variable is written with an
underscore in place of whatever is no letter, digit or underscore. Two variables may come to have
one name in this way, and there is no other way for two constants to have the same name
(`nodup_constants_iff`).
-/

namespace SignalFlow

/-! ## Reading declarations -/

namespace Language

/-- What a line starts with that declares a constant in C: a definition, a number or texts. -/
def declarators : List (List Char) :=
  [['#', 'd', 'e', 'f', 'i', 'n', 'e', ' '],
    ['s', 't', 'a', 't', 'i', 'c', ' ', 'c', 'o', 'n', 's', 't', ' ',
      'd', 'o', 'u', 'b', 'l', 'e', ' '],
    ['s', 't', 'a', 't', 'i', 'c', ' ', 'c', 'o', 'n', 's', 't', ' ', 'c', 'h', 'a', 'r', '*', ' ']]

/-- The name that a line declares at file level, with what stands behind it. In Python a declaration
is an assignment. -/
def nameIn? (language : Language) (line : List Char) : Option (List Char × List Char) :=
  match language with
  | .python =>
      let name := line.takeWhile isWordCharacter
      let rest := line.dropWhile isWordCharacter
      if !name.isEmpty && [' ', '=', ' '].isPrefixOf rest then some (name, rest) else none
  | .c => declarators.findSome? fun lead =>
      if lead.isPrefixOf line then
        let line := line.drop lead.length
        some (line.takeWhile isWordCharacter, line.dropWhile isWordCharacter)
      else none

/-- The constant that a line declares at file level. -/
def constant? (language : Language) (line : String) : Option String :=
  (language.nameIn? line.toList).map fun (name, _) => String.ofList name

/-- The constants that some lines declare at file level. -/
def constants (language : Language) (lines : List String) : List String :=
  lines.filterMap language.constant?

/-- The constants that every program declares before those of its diagram. -/
def settings : Language → List String
  | .python => ["DT", "DURATION", "MAX_ITERATIONS", "BLOCK_COUNT", "INPUT_NAMES", "OUTPUT_NAMES"]
  | .c => ["M_PI", "BLOCK_COUNT", "MAX_ITERATIONS", "INPUT_COUNT", "INPUT_SLOTS", "OUTPUT_COUNT",
      "TF_MAX_ORDER", "DT", "DURATION"]

/-- The constants that every program declares behind those of its diagram. -/
def support (withMain : Bool) : Language → List String
  | .python => []
  | .c => ["input_names", "output_names"] ++ if withMain then ["MAX_LINE", "MAX_FIELDS"] else []

variable {language : Language} {name rest : List Char} {c : Char}

theorem takeWhile_word (word : ∀ c ∈ name, isWordCharacter c = true)
    (apart : isWordCharacter c = false) :
    (name ++ c :: rest).takeWhile isWordCharacter = name := by
  rw [List.takeWhile_append_of_pos word, List.takeWhile_cons_of_neg (by simp [apart]),
    List.append_nil]

theorem dropWhile_word (word : ∀ c ∈ name, isWordCharacter c = true)
    (apart : isWordCharacter c = false) :
    (name ++ c :: rest).dropWhile isWordCharacter = c :: rest := by
  rw [List.dropWhile_append_of_pos word, List.dropWhile_cons_of_neg (by simp [apart])]

theorem nameIn?_python (word : ∀ c ∈ name, isWordCharacter c = true)
    (apart : isWordCharacter c = false) (nonempty : name ≠ []) :
    python.nameIn? (name ++ c :: rest) =
      if [' ', '=', ' '].isPrefixOf (c :: rest) then some (name, c :: rest) else none := by
  simp [nameIn?, takeWhile_word word apart, dropWhile_word word apart, nonempty]

theorem nameIn?_c {lead : List Char} (listed : lead ∈ declarators)
    (word : ∀ c ∈ name, isWordCharacter c = true) (apart : isWordCharacter c = false) :
    Language.c.nameIn? (lead ++ (name ++ c :: rest)) = some (name, c :: rest) := by
  simp only [declarators, List.mem_cons, List.not_mem_nil, or_false] at listed
  rcases listed with rfl | rfl | rfl <;>
    simp [nameIn?, declarators, takeWhile_word word apart, dropWhile_word word apart]

/-- What stands behind the name does not matter, once something does. -/
theorem nameIn?_append {line : List Char} (found : language.nameIn? line = some (name, c :: rest))
    (more : List Char) : language.nameIn? (line ++ more) = some (name, c :: rest ++ more) := by
  have parted {text : List Char} (front : text.takeWhile isWordCharacter = name)
      (behind : text.dropWhile isWordCharacter = c :: rest) :
      text = name ++ c :: rest ∧ (∀ c ∈ name, isWordCharacter c = true) ∧
        isWordCharacter c = false := by
    refine ⟨?_, ?_, ?_⟩
    · rw [← front, ← behind, List.takeWhile_append_dropWhile]
    · rw [← front]
      exact fun c inside => List.mem_takeWhile_imp inside
    · have head := List.head?_dropWhile_not isWordCharacter text
      simpa [behind] using head
  cases language with
  | python =>
      simp only [nameIn?, Option.ite_none_right_eq_some, Option.some.injEq, Prod.mk.injEq,
        Bool.and_eq_true, Bool.not_eq_true', List.isEmpty_eq_false_iff] at found
      obtain ⟨⟨nonempty, assigned⟩, front, behind⟩ := found
      rw [front] at nonempty
      rw [behind, List.isPrefixOf_iff_prefix] at assigned
      obtain ⟨rfl, word, apart⟩ := parted front behind
      rw [List.append_assoc, List.cons_append, nameIn?_python word apart nonempty, if_pos]
      exact List.isPrefixOf_iff_prefix.mpr (assigned.trans (List.prefix_append (c :: rest) more))
  | c =>
      obtain ⟨before, lead, after, split, declares, -⟩ := List.findSome?_eq_some_iff.mp found
      have listed : lead ∈ declarators := split ▸ List.mem_append_right before List.mem_cons_self
      simp only [Option.ite_none_right_eq_some, Option.some.injEq, Prod.mk.injEq,
        List.isPrefixOf_iff_prefix] at declares
      obtain ⟨⟨text, rfl⟩, front, behind⟩ := declares
      rw [List.drop_left] at front behind
      obtain ⟨rfl, word, apart⟩ := parted front behind
      rw [List.append_assoc, List.append_assoc, List.cons_append, nameIn?_c listed word apart]

theorem constant?_eq_some {line name : String}
    (found : language.nameIn? line.toList = some (name.toList, rest)) :
    language.constant? line = some name := by
  simp [constant?, found]

theorem constant?_ofList {line : List Char} (silent : language.nameIn? line = none) :
    language.constant? (String.ofList line) = none := by
  rw [constant?, String.toList_ofList, silent, Option.map_none]

theorem constant?_ofList_some {line name : List Char}
    (found : language.nameIn? line = some (name, rest)) :
    language.constant? (String.ofList line) = some (String.ofList name) := by
  rw [constant?, String.toList_ofList, found, Option.map_some]

theorem constant?_append {line : List Char}
    (silent : ∀ rest, language.nameIn? (line ++ rest) = none) (more : String) :
    language.constant? (String.ofList line ++ more) = none := by
  rw [constant?, String.toList_append, String.toList_ofList, silent, Option.map_none]

theorem constant?_ofList_append {first rest : List Char}
    (silent : language.nameIn? (first ++ rest) = none) :
    language.constant? (String.ofList first ++ String.ofList rest) = none := by
  rw [← String.ofList_append, constant?_ofList silent]

/-- A line inside another one declares nothing at file level. -/
theorem constant?_margin (language : Language) (line : String) :
    language.constant? (language.margin ++ line) = none := by
  cases language <;>
    simp [constant?, margin, nameIn?, declarators, isWordCharacter]

/-! ## Reading line by line -/

/-- Some lines declare the constants with some names, in their order. -/
def Declares (language : Language) (lines names : List String) : Prop :=
  language.constants lines = names

namespace Declares

variable {line own : String} {lines names : List String}

theorem nil : language.Declares [] [] := rfl

/-- A line without a declaration comes first. -/
theorem silent (nothing : language.constant? line = none) (rest : language.Declares lines names) :
    language.Declares (line :: lines) names :=
  (List.filterMap_cons_none nothing).trans rest

/-- A line that is written out comes first. -/
theorem fixed {line : List Char} (nothing : language.nameIn? line = none)
    (rest : language.Declares lines names) :
    language.Declares (String.ofList line :: lines) names :=
  silent (constant?_ofList nothing) rest

/-- A declaration comes first. -/
theorem cons (declares : language.constant? line = some own)
    (rest : language.Declares lines names) : language.Declares (line :: lines) (own :: names) :=
  (List.filterMap_cons_some declares).trans (congrArg (own :: ·) rest)

/-- A declaration of a constant whose name is written out comes first. -/
theorem setting {line name behind : List Char} {c : Char}
    (found : language.nameIn? line = some (name, c :: behind)) (value : String)
    (rest : language.Declares lines names) :
    language.Declares ((String.ofList line ++ value) :: lines) (String.ofList name :: names) := by
  have all : language.nameIn? (String.ofList line ++ value).toList =
      some ((String.ofList name).toList, c :: behind ++ value.toList) := by
    rw [String.toList_append, String.toList_ofList, String.toList_ofList, nameIn?_append found]
  exact cons (constant?_eq_some all) rest

theorem endedSetting {line name behind : List Char} {c : Char}
    (found : language.nameIn? line = some (name, c :: behind)) (value stop : String)
    (rest : language.Declares lines names) :
    language.Declares ((String.ofList line ++ value ++ stop) :: lines)
      (String.ofList name :: names) := by
  rw [String.append_assoc]
  exact setting found (value ++ stop) rest

theorem append {otherLines otherNames : List String} (first : language.Declares lines names)
    (rest : language.Declares otherLines otherNames) :
    language.Declares (lines ++ otherLines) (names ++ otherNames) :=
  List.filterMap_append.trans (congrArg₂ (· ++ ·) first rest)

theorem none (nothing : ∀ line ∈ lines, language.constant? line = none) :
    language.Declares lines [] :=
  List.filterMap_eq_nil_iff.mpr nothing

/-- Lines that declare one constant each. -/
theorem map {α : Type} {items : List α} {line name : α → String}
    (declares : ∀ item, language.constant? (line item) = some (name item)) :
    language.Declares (items.map line) (items.map name) := by
  rw [Declares, constants, List.filterMap_map, ← List.filterMap_eq_map]
  exact List.filterMap_congr fun item _ => declares item

/-- Lines inside others declare nothing at file level. -/
theorem indented (lines : List String) : language.Declares (language.indented lines) [] := by
  refine none (List.forall_mem_map.mpr fun line _ => ?_)
  split
  · rename_i empty
    rw [String.isEmpty_iff] at empty
    subst empty
    cases language <;> exact constant?_ofList (by decide)
  · exact language.constant?_margin line

end Declares

end Language

namespace Code

open SignalFlow.Language

/-- The name of a table. -/
def Realized.name {α : Type} : Realized α → String
  | .matrix handle _ => matrixName handle
  | .vector handle _ => vectorName handle

theorem Realized.isWord_name {α : Type} (table : Realized α) : IsWord table.name := by
  have own {base : String} (word : IsWord base) (handle : Nat) : IsWord (ownName base handle) :=
    (word.append (by simp [IsWord, isWordCharacter])).append (isWord_digitsOf handle)
  cases table with
  | matrix handle _ | vector handle _ => exact own (by simp [IsWord, isWordCharacter]) handle

theorem Realized.name_ne_empty {α : Type} (table : Realized α) : table.name ≠ "" := by
  cases table <;> simp [name, matrixName, vectorName, ownName]

theorem isWord_variableName (name : String) : IsWord (Program.variableName name) :=
  IsWord.append (by simp [IsWord, isWordCharacter]) (isWord_sanitize name)

theorem variableName_ne_empty (name : String) : Program.variableName name ≠ "" := by
  simp [Program.variableName]

section Lines

variable {language : Language}

/-! ## Modules -/

namespace Python

theorem constant?_assignment {line name : String} {value : List Char} (word : IsWord name)
    (nonempty : name ≠ "") (split : line.toList = name.toList ++ ' ' :: '=' :: ' ' :: value) :
    Language.python.constant? line = some name := by
  have characters : name.toList ≠ [] := fun empty => nonempty (String.toList_eq_nil_iff.mp empty)
  have found : Language.python.nameIn? (name.toList ++ ' ' :: '=' :: ' ' :: value) =
      some (name.toList, ' ' :: '=' :: ' ' :: value) :=
    (nameIn?_python word (by decide) characters).trans (if_pos rfl)
  rw [← split] at found
  exact constant?_eq_some found

theorem constant?_realized (table : Realized Float) :
    Language.python.constant? (Language.python.realized table) = some table.name := by
  have split (name text : String) : (name ++ " = [" ++ text ++ "]").toList =
      name.toList ++ ' ' :: '=' :: ' ' :: '[' :: (text.toList ++ [']']) := by simp
  cases table with
  | matrix _ _ | vector _ _ =>
      exact constant?_assignment (Realized.isWord_name _) (Realized.name_ne_empty _) (split _ _)

theorem constant?_var (name : String) (value : Float) :
    Language.python.constant? (Program.variableName name ++ " = " ++ Decimal.shortest value) =
      some (Program.variableName name) := by
  have split (name text : String) :
      (name ++ " = " ++ text).toList = name.toList ++ ' ' :: '=' :: ' ' :: text.toList := by simp
  exact constant?_assignment (isWord_variableName name) (variableName_ne_empty name) (split _ _)

/-- Declarations under a heading, if there are any. -/
theorem declares_section {heading : List Char}
    (silent : Language.python.nameIn? heading = none) {lines names : List String}
    (declares : Language.python.Declares lines names) :
    Language.python.Declares
      (if lines.isEmpty then [] else String.ofList heading :: lines ++ [""]) names := by
  cases lines with
  | nil => exact declares
  | cons line rest =>
      have last : Language.python.Declares [""] [] := .fixed (by decide) .nil
      have all := (Declares.fixed silent declares).append last
      rwa [List.append_nil] at all

theorem declares_header (program : Program Float) (withMain : Bool) :
    Language.python.Declares (header program withMain)
      (Language.python.settings ++ program.vars.map (fun entry => Program.variableName entry.1) ++
        program.realized.map Realized.name) := by
  have title (blocks : Nat) (text : String) : Language.python.constant?
      (Decimal.digitsOf blocks ++ " blocks, dt = " ++ text ++ ".") = none := by
    have split : (Decimal.digitsOf blocks ++ " blocks, dt = " ++ text ++ ".").toList =
        (Decimal.digitsOf blocks).toList ++
          ' ' :: 'b' :: ("locks, dt = " ++ text ++ ".").toList := by
      simp
    have digits := Decimal.isDigits_digitsOf blocks
    rw [constant?, split, nameIn?_python (isWord_digitsOf blocks) (by decide) digits.1]
    rfl
  have vars : Language.python.Declares
      (program.vars.map fun entry =>
        Program.variableName entry.1 ++ " = " ++ Decimal.shortest entry.2)
      (program.vars.map fun entry => Program.variableName entry.1) :=
    .map fun entry => constant?_var entry.1 entry.2
  have tables : Language.python.Declares (program.realized.map Language.python.realized)
      (program.realized.map Realized.name) := .map constant?_realized
  -- Neither the title nor the imports declare anything.
  change Language.python.Declares _ ([] ++ [] ++ Language.python.settings ++ _ ++ _)
  unfold header
  refine (((Declares.append ?_ ?_).append ?_).append (declares_section (by decide) vars)).append
    (declares_section (by decide) tables)
  · exact .fixed (by decide) (.fixed (by decide) (.fixed (by decide) (.silent (title _ _)
      (.fixed (by decide) (.fixed (by decide) .nil)))))
  · cases withMain with
    | true => exact .fixed (by decide) (.fixed (by decide) (.fixed (by decide)
        (.fixed (by decide) .nil)))
    | false => exact .fixed (by decide) .nil
  · exact .fixed (by decide) (.setting (by rfl) _ (.setting (by rfl) _ (.setting (by rfl) _
      (.setting (by rfl) _ (.setting (by rfl) _ (.setting (by rfl) _
        (.fixed (by decide) .nil)))))))

theorem silent_rungeKutta : ∀ line ∈ rungeKutta, Language.python.constant? line = none := by
  unfold rungeKutta
  repeat
    refine List.forall_mem_cons.mpr ⟨?_, ?_⟩
    · exact constant?_ofList (by decide)
  exact List.forall_mem_nil _

theorem silent_mainLines : ∀ line ∈ mainLines, Language.python.constant? line = none := by
  rw [mainLines, Language.replayLines_python]
  unfold mainHead mainTail
  simp only [List.cons_append, List.nil_append]
  repeat
    refine List.forall_mem_cons.mpr ⟨?_, ?_⟩
    · first
      | with_reducible exact constant?_ofList_append (by decide)
      | exact constant?_ofList (by decide)
  exact List.forall_mem_nil _

theorem declares_moduleLines (program : Program Float) (withMain : Bool) :
    Language.python.Declares (moduleLines program withMain)
      (Language.python.settings ++ program.vars.map (fun entry => Program.variableName entry.1) ++
        program.realized.map Realized.name) := by
  have blank : Language.python.Declares ["", ""] [] :=
    .fixed (by decide) (.fixed (by decide) .nil)
  have support : Language.python.Declares
      (if program.realized.isEmpty then [] else rungeKutta ++ ["", ""]) [] := by
    split
    · exact .nil
    · exact (Declares.none silent_rungeKutta).append blank
  have first : Language.python.Declares (firstState program.fields) [] :=
    .fixed (by decide) (.fixed (by decide) (.indented _))
  have tick : Language.python.Declares (tickLines program.tick) [] :=
    .fixed (by decide) (.indented _)
  have main : Language.python.Declares (if withMain then ["", ""] ++ mainLines else []) [] := by
    split
    · exact blank.append (.none silent_mainLines)
    · exact .nil
  have all := (((((declares_header program withMain).append support).append first).append
    blank).append tick).append main
  simp only [List.append_nil] at all
  exact all

end Python

/-! ## Sources -/

namespace CSource

/-- A line declares what stands behind the start of a declaration. -/
theorem constant?_declarator {line name : String} {lead rest : List Char} {c : Char}
    (listed : lead ∈ declarators) (word : IsWord name) (apart : isWordCharacter c = false)
    (split : line.toList = lead ++ (name.toList ++ c :: rest)) :
    Language.c.constant? line = some name := by
  have found : Language.c.nameIn? (lead ++ (name.toList ++ c :: rest)) =
      some (name.toList, c :: rest) := nameIn?_c listed word apart
  rw [← split] at found
  exact constant?_eq_some found

/-- A number or an array of numbers is declared. -/
theorem constant?_number {line name : String} {rest : List Char} {c : Char} (word : IsWord name)
    (apart : isWordCharacter c = false)
    (split : line.toList = "static const double ".toList ++ (name.toList ++ c :: rest)) :
    Language.c.constant? line = some name :=
  constant?_declarator (List.mem_cons_of_mem _ List.mem_cons_self) word apart split

theorem constant?_realized (table : Realized Float) :
    Language.c.constant? (Language.c.realized table) = some table.name := by
  have split (name rest : String) : ("static const double " ++ (name ++ ("[" ++ rest))).toList =
      "static const double ".toList ++ (name.toList ++ '[' :: rest.toList) := by simp
  have declares (rest : String) : Language.c.constant?
      ("static const double " ++ (table.name ++ ("[" ++ rest))) = some table.name := by
    have apart : isWordCharacter '[' = false := by decide
    exact constant?_number table.isWord_name apart (split table.name rest)
  unfold Language.realized
  cases table with
  | matrix _ _ | vector _ _ =>
      dsimp only [toString]
      simp only [String.append_assoc]
      exact declares _

theorem constant?_var (name : String) (value : Float) :
    Language.c.constant? ("static const double " ++ Program.variableName name ++ " = " ++
      Decimal.shortest value ++ ";") = some (Program.variableName name) := by
  have split (name text : String) :
      ("static const double " ++ name ++ " = " ++ text ++ ";").toList =
        "static const double ".toList ++ (name.toList ++ ' ' :: ("= " ++ text ++ ";").toList) := by
    simp
  exact constant?_number (isWord_variableName name) (by decide) (split _ _)

theorem declares_header (program : Program Float) :
    Language.c.Declares (header program)
      (Language.c.settings ++ program.vars.map (fun entry => Program.variableName entry.1) ++
        program.realized.map Realized.name) := by
  have title (blocks text : String) : Language.c.constant?
      ("/* Generated by diagsim from a block diagram: " ++ blocks ++ " blocks, dt = " ++ text ++
        ". */") = none := by
    simp only [String.append_assoc]
    exact constant?_append (fun _ => rfl) _
  have vars : Language.c.Declares
      (program.vars.map fun entry => "static const double " ++ Program.variableName entry.1 ++
        " = " ++ Decimal.shortest entry.2 ++ ";")
      (program.vars.map fun entry => Program.variableName entry.1) :=
    .map fun entry => constant?_var entry.1 entry.2
  have tables : Language.c.Declares (program.realized.map Language.c.realized)
      (program.realized.map Realized.name) := .map constant?_realized
  have last : Language.c.Declares [""] [] := .fixed (by decide) .nil
  rw [← List.append_nil (_ ++ program.realized.map Realized.name)]
  unfold header
  refine (((Declares.append ?_ vars).append ?_).append last)
  · exact .silent (title _ _) (.fixed (by decide) (.fixed (by decide) (.fixed (by decide)
      (.fixed (by decide) (.fixed (by decide) (.fixed (by decide) (.fixed (by decide)
        (.cons (constant?_ofList_some (by rfl)) (.fixed (by decide) (.fixed (by decide)
          (.setting (by rfl) _ (.setting (by rfl) _ (.setting (by rfl) _ (.setting (by rfl) _
            (.setting (by rfl) _ (.setting (by rfl) _ (.fixed (by decide)
              (.endedSetting (by rfl) _ _ (.endedSetting (by rfl) _ _ .nil)))))))))))))))))))
  · split
    · rename_i empty
      simpa [List.isEmpty_iff.mp empty] using tables
    · exact .fixed (by decide) (.fixed (by decide) tables)

theorem declares_structLines (name : String) (members : List String) :
    Language.c.Declares (structLines name members) [] := by
  have last : Language.c.constant? ("\x7d " ++ name ++ ";") = none := by
    rw [String.append_assoc]
    exact constant?_append (fun _ => rfl) _
  exact (Declares.fixed (by decide) (.indented _)).append
    (.silent last (.fixed (by decide) .nil))

theorem declares_nameArray {array : String} (word : IsWord array) (names : List String) :
    Language.c.Declares (nameArray array names) [array] := by
  have listed : "static const char* ".toList ∈ declarators := by simp [declarators]
  have apart : isWordCharacter '[' = false := by decide
  have split : ("static const char* " ++ array ++ "[] = \x7b").toList =
      "static const char* ".toList ++ (array.toList ++ '[' :: "] = \x7b".toList) := by simp
  exact (Declares.cons (constant?_declarator listed word apart split) (.indented _)).append
    (.fixed (by decide) .nil)

theorem declares_structures (program : Program Float) :
    Language.c.Declares (structures program) ["input_names", "output_names"] :=
  (((((declares_structLines "ModelState" _).append
    (declares_structLines "ModelInput" _)).append (declares_structLines "ModelOutput" _)).append
      (declares_nameArray (by simp [IsWord, isWordCharacter]) _)).append
        (declares_nameArray (by simp [IsWord, isWordCharacter]) _)).append (.fixed (by decide) .nil)

/-- The lines that all sources share declare nothing, but for the sizes of tables. -/
theorem silent_shared : ∀ line ∈ rungeKutta ++ (tableSupport.drop 2 ++ (mainStart ++ mainEnd)),
    Language.c.constant? line = none := by
  rw [mainStart, Language.replayLines_c]
  unfold rungeKutta tableSupport mainHead mainEnd
  simp only [List.cons_append, List.nil_append, List.drop_succ_cons, List.drop_zero]
  repeat
    refine List.forall_mem_cons.mpr ⟨?_, ?_⟩
    · first
      | with_reducible exact constant?_ofList_append (by decide)
      | exact constant?_ofList (by decide)
  exact List.forall_mem_nil _

theorem declares_sourceLines (program : Program Float) (withMain : Bool) :
    Language.c.Declares (sourceLines program withMain)
      (Language.c.settings ++ program.vars.map (fun entry => Program.variableName entry.1) ++
        program.realized.map Realized.name ++ Language.c.support withMain) := by
  have shared := silent_shared
  simp only [List.forall_mem_append] at shared
  obtain ⟨rungeKutta, tableSupport, mainStart, mainEnd⟩ := shared
  have support : Language.c.Declares
      (if program.realized.isEmpty then [] else CSource.rungeKutta ++ [""]) [] := by
    split
    · exact .nil
    · exact (Declares.none rungeKutta).append (.fixed (by decide) .nil)
  have first : Language.c.Declares (firstState program.fields) [] :=
    (Declares.fixed (by decide) (.indented _)).append
      (.fixed (by decide) (.fixed (by decide) .nil))
  have tick : Language.c.Declares (tickLines program.tick) [] :=
    (Declares.fixed (by decide) (.indented _)).append
      (.fixed (by decide) (.fixed (by decide) .nil))
  have fill : Language.c.Declares (fillLines program.inputNames) [] :=
    (Declares.fixed (by decide) (.indented _)).append
      (.fixed (by decide) (.fixed (by decide) .nil))
  have tables : Language.c.Declares CSource.tableSupport ["MAX_LINE", "MAX_FIELDS"] :=
    .cons (constant?_ofList_some (by rfl)) (.cons (constant?_ofList_some (by rfl))
      (.none tableSupport))
  have main : Language.c.Declares (if withMain then
      CSource.tableSupport ++ [""] ++ fillLines program.inputNames ++ CSource.mainStart ++
        inner (inner (rowLines program.outputNames)) ++ CSource.mainEnd else [])
      (if withMain then ["MAX_LINE", "MAX_FIELDS"] else []) := by
    cases withMain with
    | false => exact .nil
    | true =>
        exact ((((tables.append (.fixed (by decide) .nil)).append fill).append
          (.none mainStart)).append (.indented _)).append (.none mainEnd)
  have all := (((((declares_header program).append (declares_structures program)).append
    support).append first).append tick).append main
  simp only [List.append_nil] at all
  rw [Language.support, ← List.append_assoc]
  exact all

end CSource

/-- **The constants of a program**: the settings, a constant for each variable and each table, and
what its support declares. -/
theorem declares_programLines (language : Language) (program : Program Float) (withMain : Bool) :
    language.Declares (language.programLines program withMain)
      (language.settings ++ program.vars.map (fun entry => Program.variableName entry.1) ++
        program.realized.map Realized.name ++ language.support withMain) := by
  cases language with
  | python =>
      have all := Python.declares_moduleLines program withMain
      rw [← List.append_nil (_ ++ program.realized.map Realized.name)] at all
      exact all
  | c => exact CSource.declares_sourceLines program withMain

end Lines

/-! ## Distinct names -/

theorem take_variableName (name : String) :
    (Program.variableName name).toList.take 4 = ['v', 'a', 'r', '_'] := by
  simp [Program.variableName]

theorem take_name {α : Type} (table : Realized α) :
    table.name.toList.take 4 ∈ [['T', 'F', '_', 'A'], ['T', 'F', '_', 'B']] := by
  cases table <;> simp [Realized.name, matrixName, vectorName, ownName]

/-- No constant of a diagram has the name of one that all programs have. -/
theorem take_not_mem (language : Language) (withMain : Bool) :
    ∀ own ∈ language.settings ++ language.support withMain, own.toList.take 4 ∉
      [['v', 'a', 'r', '_'], ['T', 'F', '_', 'A'], ['T', 'F', '_', 'B']] := by
  cases language <;> cases withMain <;> simp [settings, support]

theorem variableName_eq_iff {first second : String} :
    Program.variableName first = Program.variableName second ↔
      sanitize first = sanitize second := by
  simp [Program.variableName]

theorem nodup_keys_define {before : Constants} (nodup : (Entries.keys before).Nodup)
    (name : String) (value : Float) : (Entries.keys (before.define name value)).Nodup := by
  unfold Constants.define
  dsimp only
  split
  · exact nodup
  · split
    · exact Entries.nodup_keys_set (Entries.nodup_keys_set nodup _ _) _ _
    · exact Entries.nodup_keys_set nodup _ _

theorem nodup_keys_extend [Host] {before after : Constants} {entry : String × Value}
    (nodup : (Entries.keys before).Nodup) (extended : before.extend entry = .ok after) :
    (Entries.keys after).Nodup := by
  unfold Constants.extend at extended
  split at extended
  · cases extended
    exact nodup
  · obtain ⟨value, -, defined⟩ := bind_eq_ok_iff.mp extended
    cases defined
    exact nodup_keys_define nodup entry.1 value

/-- No name stands twice in a table of constants. -/
theorem nodup_keys_ofVariables [Host] {vars : List (String × Value)} {constants : Constants}
    (table : Constants.ofVariables vars = .ok constants) : (Entries.keys constants).Nodup := by
  have standard : (Entries.keys Constants.standard).Nodup := by decide
  rw [Constants.ofVariables] at table
  generalize Constants.standard = start at standard table
  induction vars generalizing start with
  | nil =>
      cases table
      exact standard
  | cons entry rest ih =>
      rw [List.foldlM_cons, bind_eq_ok_iff] at table
      obtain ⟨middle, extended, table⟩ := table
      exact ih middle (nodup_keys_extend standard extended) table

/-- No name stands twice among the variables of a program. -/
theorem nodup_vars [Host] {diagram : Diagram String} {defaultDt defaultRuntime : Setting Float}
    {before after : List Notice} {compiled : Compiled Float} {duration : Option Float} {limit : Int}
    {program : Program Float}
    (compiles : Completes (Compiled.ofDiagram diagram defaultDt defaultRuntime) before compiled
      after)
    (generates : Program.ofCompiled compiled duration limit = .ok program) :
    (program.vars.map (·.1)).Nodup := by
  obtain ⟨constants, dt, runtime, payloads, resolved, rfl⟩ :=
    Compiled.completes_ofDiagram_iff.mp ⟨after, compiles⟩
  obtain ⟨codes, -, same⟩ := bind_eq_ok_iff.mp generates
  cases same
  exact (nodup_keys_ofVariables resolved.constants_eq).sublist (List.filter_sublist.map _)

/-- A block has a matrix and a vector of its own, or no table. -/
theorem realized_cases [Host] {α : Type} [Scalar α] {node : Node α} {code : BlockCode α}
    (coded : blockCode node = .ok code) : code.realized = [] ∨
      ∃ rows entries, code.realized = [.matrix node.handle rows, .vector node.handle entries] := by
  unfold blockCode at coded
  dsimp only at coded
  cases payload : node.payload with
  | tf num den model =>
      rw [payload] at coded
      cases model with
      | none =>
          cases coded
          exact .inl rfl
      | some model =>
          cases coded
          unfold modelCode
          split
          · exact .inl rfl
          · exact .inr ⟨_, _, rfl⟩
  | delay time steps | ddelay steps ts =>
      rw [payload] at coded
      obtain ⟨size, -, coded⟩ := bind_eq_ok_iff.mp coded
      cases coded
      exact .inl rfl
  | _ =>
      rw [payload] at coded
      cases coded
      exact .inl rfl

/-- Different tables have different names. -/
theorem nodup_tables [Host] {diagram : Diagram String} {defaultDt defaultRuntime : Setting Float}
    {before after : List Notice} {compiled : Compiled Float} {duration : Option Float} {limit : Int}
    {program : Program Float}
    (compiles : Completes (Compiled.ofDiagram diagram defaultDt defaultRuntime) before compiled
      after)
    (generates : Program.ofCompiled compiled duration limit = .ok program) :
    (program.realized.map Realized.name).Nodup := by
  have wellFormed := Compiled.wellFormed_of_completes compiles
  obtain ⟨coded, isProgram⟩ := exists_isProgramOf wellFormed generates
  have handles : (coded.map (·.1.handle)).Nodup := by
    have all := Compiled.map_handle_eq_range wellFormed.handle_eq_of_toList
    rw [← isProgram.nodes_eq, List.map_map] at all
    exact all ▸ List.nodup_range
  have own {item : Node Float × BlockCode Float} (listed : item ∈ coded) {name : String}
      (named : name ∈ item.2.realized.map Realized.name) :
      name = ownName "TF_A" item.1.handle ∨ name = ownName "TF_B" item.1.handle := by
    obtain none | ⟨rows, entries, both⟩ := realized_cases (isProgram.code_eq item listed)
    · simp [none] at named
    · simpa [both, Realized.name, matrixName, vectorName] using named
  rw [isProgram.realized_eq, List.map_flatMap, List.nodup_flatMap]
  refine ⟨fun item listed => ?_, ?_⟩
  · obtain none | ⟨rows, entries, both⟩ := realized_cases (isProgram.code_eq item listed)
    · simp [none]
    · simp [both, Realized.name, matrixName, vectorName, ownName_inj]
  · refine (List.pairwise_map.mp handles).imp_of_mem fun first second apart => ?_
    intro name inFirst inSecond
    rcases own first inFirst with rfl | rfl <;> rcases own second inSecond with same | same <;>
      exact apart (ownName_inj.mp same).2

/-- **Two constants of a program have the same name only if they are two variables whose names are
written alike.** -/
theorem nodup_constants_iff [Host] {diagram : Diagram String}
    {defaultDt defaultRuntime : Setting Float}
    {before after : List Notice} {compiled : Compiled Float} {duration : Option Float} {limit : Int}
    {program : Program Float}
    (compiles : Completes (Compiled.ofDiagram diagram defaultDt defaultRuntime) before compiled
      after)
    (generates : Program.ofCompiled compiled duration limit = .ok program) (language : Language)
    (withMain : Bool) :
    (language.constants (language.programLines program withMain)).Nodup ↔
      ∀ first ∈ program.vars.map (·.1), ∀ second ∈ program.vars.map (·.1),
        sanitize first = sanitize second → first = second := by
  have fixed : (language.settings ++ language.support withMain).Nodup := by
    cases language <;> cases withMain <;> simp [Language.settings, Language.support]
  have tables : (program.realized.map Realized.name ++
      (language.settings ++ language.support withMain)).Nodup := by
    refine List.nodup_append.mpr ⟨nodup_tables compiles generates, fixed, ?_⟩
    rintro _ isTable own isFixed rfl
    obtain ⟨table, -, rfl⟩ := List.mem_map.mp isTable
    exact take_not_mem language withMain _ isFixed (List.mem_cons_of_mem _ (take_name table))
  have apart : ∀ first ∈ program.vars.map (fun entry => Program.variableName entry.1),
      ∀ second ∈ program.realized.map Realized.name ++
        (language.settings ++ language.support withMain), first ≠ second := by
    rintro _ isVar second isOther rfl
    obtain ⟨entry, -, rfl⟩ := List.mem_map.mp isVar
    have start := take_variableName entry.1
    rcases List.mem_append.mp isOther with isTable | isFixed
    · obtain ⟨table, -, same⟩ := List.mem_map.mp isTable
      have tableStart := take_name table
      rw [same, start] at tableStart
      exact absurd tableStart (by decide)
    · refine take_not_mem language withMain _ isFixed ?_
      rw [start]
      exact List.mem_cons_self
  -- The order in which the constants are declared does not matter here.
  have sorted (settings vars tables support : List String) :
      (settings ++ vars ++ tables ++ support).Perm (vars ++ (tables ++ (settings ++ support))) :=
    List.perm_iff_count.mpr fun name => by
      simp only [List.count_append]
      omega
  have names : program.vars.map (fun entry => Program.variableName entry.1) =
      (program.vars.map (·.1)).map Program.variableName := by
    rw [List.map_map]
    rfl
  rw [declares_programLines language program withMain, (sorted ..).nodup_iff, List.nodup_append,
    and_iff_left ⟨tables, apart⟩, names,
    List.nodup_map_iff_inj_on (nodup_vars compiles generates)]
  simp only [variableName_eq_iff]

/-- A transfer function with two variables of some names. -/
def variablesDiagram (first second : String) : Diagram String where
  blocks := [⟨"lag", "tf", []⟩]
  connections := []
  vars := [(first, .int 1), (second, .int 2)]
  runtime := .null
  dt := .null
  nextId := 1

open Host.Usual

theorem nodup_constants_variablesDiagram : ∃ compiled after program,
    Completes (Compiled.ofDiagram (variablesDiagram "a b" "c") Compiled.standardDt
      Compiled.standardRuntime) [] compiled after ∧
      Program.ofCompiled compiled none 50 = .ok program ∧
      program.realized.map Realized.name = ["TF_A_0", "TF_B_0"] ∧
      ∀ language withMain,
        (Language.constants language (language.programLines program withMain)).Nodup := by
  have passes : programPasses (variablesDiagram "a b" "c") (fun _ program =>
      program.realized.map Realized.name == ["TF_A_0", "TF_B_0"] &&
        program.vars.map (·.1) == ["a b", "c"]) = true := by
    decide +kernel
  obtain ⟨compiled, after, program, compiles, generates, names⟩ := exists_of_programPasses passes
  rw [Bool.and_eq_true, beq_iff_eq, beq_iff_eq] at names
  refine ⟨compiled, after, program, compiles, generates, names.1, fun language withMain => ?_⟩
  rw [nodup_constants_iff compiles generates, names.2]
  decide

/-- Two variables may have one constant. -/
theorem not_nodup_constants_variablesDiagram : ∃ compiled after program,
    Completes (Compiled.ofDiagram (variablesDiagram "a b" "a_b") Compiled.standardDt
      Compiled.standardRuntime) [] compiled after ∧
      Program.ofCompiled compiled none 50 = .ok program ∧
      program.vars.map (·.1) = ["a b", "a_b"] ∧
      ∀ language withMain,
        ¬ (Language.constants language (language.programLines program withMain)).Nodup := by
  have passes : programPasses (variablesDiagram "a b" "a_b") (fun _ program =>
      program.vars.map (·.1) == ["a b", "a_b"]) = true := by
    decide +kernel
  obtain ⟨compiled, after, program, compiles, generates, names⟩ := exists_of_programPasses passes
  rw [beq_iff_eq] at names
  refine ⟨compiled, after, program, compiles, generates, names, fun language withMain nodup => ?_⟩
  have listed : (program.vars.map fun entry => Program.variableName entry.1) =
      ["var_a_b", "var_a_b"] := by
    have all := congrArg (List.map Program.variableName) names
    rw [List.map_map] at all
    exact all.trans (by decide)
  rw [declares_programLines language program withMain, listed] at nodup
  simp [List.nodup_append] at nodup

end Code

end SignalFlow
