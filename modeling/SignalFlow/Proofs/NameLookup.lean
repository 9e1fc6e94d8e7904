import SignalFlow.Host.Usual
import SignalFlow.Proofs.Completion
import SignalFlow.Proofs.Expr.Spellings
import SignalFlow.Proofs.ValueTexts
import SignalFlow.Proofs.Workspace.Reads

/-! # Names of variables

A variable whose name starts with a backslash is known under the name without it as well
(`Constants.knownAs`). Of several variables that are known under a name the last one gives it its
number, so a later variable may leave a name with two numbers, one behind the backslash and one
without it. Where the variables give a name one meaning, it has one value, whether it is looked up
or evaluated as an expression (`Constants.resolve_spellings`).
-/

namespace SignalFlow.Constants

open SignalFlow.Expr

/-- The names under which a variable is known. -/
def knownAs (name : String) : List String :=
  let key := Text.trim name
  if key.isEmpty then [] else key :: (marked key).filter (!·.isEmpty)

/-- No variable is known under a name. -/
def Unknown (vars : List (String × Value)) (key : String) : Prop :=
  ∀ entry ∈ vars, key ∉ knownAs entry.1

instance (vars : List (String × Value)) (key : String) : Decidable (Unknown vars key) :=
  inferInstanceAs (Decidable (∀ entry ∈ vars, key ∉ knownAs entry.1))

/-! ## The table of some variables -/

/-- Defining a variable sets what it is known under. -/
theorem get?_define (constants : Constants) (name : String) (value : Float) (key : String) :
    Entries.get? (constants.define name value) key =
      if key ∈ knownAs name then some value else Entries.get? constants key := by
  unfold define knownAs
  dsimp only
  generalize Text.trim name = own
  split
  · rw [if_neg List.not_mem_nil]
  · split
    · rename_i c rest characters
      have behind : (marked own).filter (!·.isEmpty) = [String.ofList (c :: rest)] := by
        simp [marked, characters]
      rw [behind, Entries.get?_set, Entries.get?_set]
      generalize String.ofList (c :: rest) = plain
      by_cases isPlain : plain = key
      · rw [if_pos isPlain, if_pos (by simp [isPlain])]
      · rw [if_neg isPlain]
        simp [Ne.symm isPlain, eq_comm]
    · rename_i other
      have behind : (marked own).filter (!·.isEmpty) = [] := by
        unfold marked
        split
        · rename_i rest characters
          cases rest with
          | nil => rfl
          | cons c rest => exact absurd characters (other c rest)
        · rfl
      rw [behind, Entries.get?_set]
      simp [eq_comm]

theorem exists_get?_extend [Host] {constants next : Constants} {entry : String × Value}
    (extended : constants.extend entry = .ok next) :
    ∃ value, ∀ key, Entries.get? next key =
      if key ∈ knownAs entry.1 then some value else Entries.get? constants key := by
  unfold extend at extended
  split at extended
  · rename_i blank
    cases extended
    refine ⟨0.0, fun key => ?_⟩
    rw [if_neg]
    simp [knownAs, blank]
  · obtain ⟨value, -, defined⟩ := bind_eq_ok_iff.mp extended
    refine ⟨value, fun key => ?_⟩
    rw [← Except.ok.inj defined]
    exact get?_define constants entry.1 value key

/-- A name that no variable is known under keeps its number. -/
theorem get?_foldlM_extend [Host] {vars : List (String × Value)} {table constants : Constants}
    (made : vars.foldlM extend table = .ok constants) {key : String} (unknown : Unknown vars key) :
    Entries.get? constants key = Entries.get? table key := by
  induction vars generalizing table with
  | nil =>
      rw [List.foldlM_nil] at made
      rw [← Except.ok.inj made]
  | cons entry rest ih =>
      obtain ⟨first, others⟩ := List.forall_mem_cons.mp unknown
      rw [List.foldlM_cons] at made
      obtain ⟨next, extended, made⟩ := bind_eq_ok_iff.mp made
      obtain ⟨value, known⟩ := exists_get?_extend extended
      rw [ih made others, known, if_neg first]

theorem get?_standard_eq_none {key : String} {c : Char} {rest : List Char}
    (characters : key.toList = c :: rest) (other : c ∉ ['p', 'e']) :
    Entries.get? standard key = none := by
  have different {name : String} {d : Char} {others : List Char}
      (nameCharacters : name.toList = d :: others) (listed : d ∈ ['p', 'e']) : name ≠ key := by
    rintro rfl
    rw [nameCharacters] at characters
    exact other ((List.cons.inj characters).1 ▸ listed)
  rw [standard, Entries.get?_cons, if_neg (different rfl (by decide)), Entries.get?_cons,
    if_neg (different rfl (by decide))]
  rfl

section Table

variable [Host] {vars : List (String × Value)} {constants : Constants}
  (made : ofVariables vars = .ok constants)
include made

/-- What is no name of a variable and no standard name has no number. -/
theorem get?_eq_none_of_unknown {key : String} {c : Char} {rest : List Char}
    (characters : key.toList = c :: rest) (other : c ∉ ['p', 'e']) (unknown : Unknown vars key) :
    Entries.get? constants key = none := by
  rw [get?_foldlM_extend made unknown, get?_standard_eq_none characters other]

/-- The last variable that is known under some names gives them one number. -/
theorem exists_get?_of_last {before after : List (String × Value)} {entry : String × Value}
    (parted : vars = before ++ entry :: after) :
    ∃ value, ∀ key ∈ knownAs entry.1, Unknown after key →
      Entries.get? constants key = some value := by
  rw [ofVariables, parted, List.foldlM_append] at made
  obtain ⟨table, -, made⟩ := bind_eq_ok_iff.mp made
  rw [List.foldlM_cons] at made
  obtain ⟨next, extended, made⟩ := bind_eq_ok_iff.mp made
  obtain ⟨value, known⟩ := exists_get?_extend extended
  refine ⟨value, fun key member unknown => ?_⟩
  rw [get?_foldlM_extend made unknown, known, if_pos member]

end Table

/-! ## One value for a name -/

/-- The variables give a name one meaning: none is known under it with its mark, or the last one
that is known under it, with its mark or without, is written with the mark. -/
def HasOneMeaning (vars : List (String × Value)) (name : String) : Prop :=
  Unknown vars (withMark name) ∨ ∃ before entry after, vars = before ++ entry :: after ∧
    Text.trim entry.1 = withMark name ∧ Unknown after name ∧ Unknown after (withMark name)

theorem knownAs_of_trim_eq {own name : String} (nonempty : name ≠ "")
    (trimmed : Text.trim own = withMark name) : knownAs own = [withMark name, name] := by
  have behind : marked (withMark name) = [name] := by
    rw [marked, toList_withMark]
    exact congrArg (fun text => [text]) String.ofList_toList
  have visible : ¬ (withMark name).isEmpty = true := by
    rw [String.isEmpty_iff, ← String.toList_eq_nil_iff, toList_withMark]
    exact List.cons_ne_nil _ _
  rw [knownAs, trimmed, behind, if_neg visible]
  simp [nonempty]

section Name

variable [Host] {vars : List (String × Value)} {constants : Constants} {name : String}
  (made : ofVariables vars = .ok constants) (word : IsLetterName name)
include made word

/-- A name of one meaning has the same number with its mark, if it has one there. -/
theorem valueOf_withMark (one : HasOneMeaning vars name) :
    Entries.get? constants (withMark name) = none ∨
      constants.valueOf (withMark name) = constants.valueOf name := by
  rcases one with unknown | ⟨before, entry, after, parted, trimmed, unknown, markedUnknown⟩
  · exact .inl (get?_eq_none_of_unknown made (toList_withMark name) (by decide) unknown)
  · obtain ⟨value, known⟩ := exists_get?_of_last made parted
    rw [knownAs_of_trim_eq word.nonempty trimmed] at known
    right
    rw [valueOf, valueOf, known name (by simp) unknown,
      known (withMark name) (by simp) markedUnknown]

/-- **A name has one value**, whether it is looked up or evaluated as an expression in parentheses,
and with a backslash in front of it as well, as long as the variables give it one meaning. With the
backslash the two values differ exactly if the marked name has a number of its own. -/
theorem resolve_spellings :
    (Unknown vars (inParentheses name) →
      constants.resolve (.text name) = constants.resolve (.text (inParentheses name))) ∧
    (Unknown vars (inParentheses (withMark name)) →
      (constants.resolve (.text (withMark name)) =
          constants.resolve (.text (inParentheses (withMark name))) ↔
        Entries.get? constants (withMark name) = none ∨
          constants.valueOf (withMark name) = constants.valueOf name) ∧
      (HasOneMeaning vars name → constants.resolve (.text (withMark name)) =
        constants.resolve (.text (inParentheses (withMark name))))) := by
  have absent {text : String} (unknown : Unknown vars (inParentheses text)) :
      Entries.get? constants (inParentheses text) = none :=
    get?_eq_none_of_unknown made (toList_inParentheses text) (by decide) unknown
  simp only [resolve_text]
  refine ⟨fun unknown => ?_, fun unknown => ?_⟩
  · rw [resolveText_of_spells word.spells, resolveText_of_spells word.spells_inParentheses_self,
      absent unknown, valueOf]
    cases Entries.get? constants name <;> rfl
  · have evaluated : constants.resolveText (inParentheses (withMark name)) =
        .ok (constants.valueOf name) := by
      rw [resolveText_of_spells word.spells_inParentheses_withMark, absent unknown]
      rfl
    have agree_iff : constants.resolveText (withMark name) =
          constants.resolveText (inParentheses (withMark name)) ↔
        Entries.get? constants (withMark name) = none ∨
          constants.valueOf (withMark name) = constants.valueOf name := by
      rw [evaluated, resolveText_of_spells word.spells_withMark, Except.ok.injEq,
        valueOf.eq_def constants (withMark name)]
      cases Entries.get? constants (withMark name) <;> simp
    exact ⟨agree_iff, fun one => agree_iff.mpr (valueOf_withMark made word one)⟩

end Name

/-- A variable that is replaced by one which is written with the mark. -/
def replacedVariable : List (String × Value) :=
  [("a", .int 1), (" \\a", .text "(a + 2)"), ("b", .text "2*\\a")]

open Host.Usual

theorem resolve_spellings_replacedVariable :
    ∃ constants, ofVariables replacedVariable = .ok constants ∧ IsLetterName "a" ∧
      Unknown replacedVariable "(a)" ∧ Unknown replacedVariable "(\\a)" ∧
      HasOneMeaning replacedVariable "a" ∧ constants.resolve (.text "a") = .ok 3.0 ∧
      constants.resolve (.text "a") = constants.resolve (.text "(a)") ∧
      constants.resolve (.text "\\a") = constants.resolve (.text "(\\a)") := by
  have builds : (ofVariables replacedVariable).toOption.any
      (fun constants => constants.resolve (.text "a") = .ok 3.0) = true := by
    decide +kernel
  obtain ⟨constants, made, value⟩ := exists_of_toOption_any builds
  have word : IsLetterName "a" := ⟨by decide, List.all_eq_true.mp rfl, by decide⟩
  have unknown : Unknown replacedVariable "(a)" := by decide
  have markedUnknown : Unknown replacedVariable "(\\a)" := by decide
  have one : HasOneMeaning replacedVariable "a" :=
    .inr ⟨[("a", .int 1)], (" \\a", .text "(a + 2)"), [("b", .text "2*\\a")], rfl, by decide,
      by decide, by decide⟩
  obtain ⟨plain, withMarks⟩ := resolve_spellings made word
  exact ⟨constants, made, word, unknown, markedUnknown, one,
    of_decide_eq_true value, plain unknown, (withMarks markedUnknown).2 one⟩

/-- A variable that is written with the mark and then replaced by one that is not. -/
def remarkedVariable : List (String × Value) := [("\\a", .int 1), ("a", .int 2)]

/-- The marked name is looked up as it stands, but evaluated as the name without its mark. -/
theorem not_resolve_spellings_remarkedVariable :
    IsLetterName "a" ∧ Unknown remarkedVariable "(\\a)" ∧
      ∃ constants, ofVariables remarkedVariable = .ok constants ∧
        constants.resolve (.text "\\a") = .ok 1.0 ∧
        constants.resolve (.text "(\\a)") = .ok 2.0 := by
  have builds : (ofVariables remarkedVariable).toOption.any (fun constants =>
      constants.resolve (.text "\\a") = .ok 1.0 ∧
        constants.resolve (.text "(\\a)") = .ok 2.0) = true := by
    decide +kernel
  obtain ⟨constants, made, values⟩ := exists_of_toOption_any builds
  obtain ⟨lookedUp, evaluated⟩ := of_decide_eq_true values
  exact ⟨⟨by decide, List.all_eq_true.mp rfl, by decide⟩, by decide, constants, made,
    lookedUp, evaluated⟩

end SignalFlow.Constants
