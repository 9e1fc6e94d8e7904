import SignalFlow.Constants
import SignalFlow.Proofs.Expr.Names
import SignalFlow.Proofs.TrimmedText

/-! # Spellings of names

A name may be written with a backslash in front of it, in parentheses, or both. These spellings
(`Expr.Spells`) are the same expression, the name, and no number is written like them. Their value
is therefore that of the name (`Constants.resolveText_of_spells`), except that a spelling is first
looked up as it stands.
-/

namespace SignalFlow

/-! ## Texts that are no numbers -/

namespace Text

/-- A text is made of the visible characters of ASCII. -/
def IsVisible (text : List Char) : Prop := ∀ c ∈ text, 33 ≤ c.toNat ∧ c.toNat ≤ 126

theorem IsVisible.trim_eq {text : String} (visible : IsVisible text.toList) :
    trim text = text := by
  refine trim_eq_self fun c member => ?_
  have range := visible c member
  simp only [isBlank, Bool.or_eq_false_iff, Bool.and_eq_false_iff, decide_eq_false_iff_not,
    beq_eq_false_iff_ne]
  omega

end Text

namespace Number

theorem asciiForm_of_isVisible {text : List Char} (visible : Text.IsVisible text) :
    Text.trimBy isAsciiBlank (asciiForm text) = text := by
  have same : asciiForm text = text := by
    rw [asciiForm]
    conv_rhs => rw [← List.map_id' text]
    refine List.map_congr_left fun c member => if_pos ?_
    have range := visible c member
    omega
  rw [same]
  refine (Text.IsTrimmed.of_forall fun c member => ?_).trimBy_eq
  have range := visible c member
  rw [isAsciiBlank, Bool.or_eq_false_iff, beq_eq_false_iff_ne, Bool.and_eq_false_iff,
    decide_eq_false_iff_not, decide_eq_false_iff_not]
  refine ⟨?_, by omega⟩
  rintro rfl
  exact absurd range.1 (by decide)

section Start

variable {c : Char} {rest : List Char} (notMark : c ∉ ['+', '-', '.'])
  (notDigit : Text.asciiDigit? c = none)
include notMark

theorem signOf_of_not_mem : signOf (c :: rest) = (false, c :: rest) := by
  unfold signOf
  split
  · rename_i same
    obtain ⟨rfl, -⟩ := List.cons.inj same
    exact absurd notMark (by decide)
  · rename_i same
    obtain ⟨rfl, -⟩ := List.cons.inj same
    exact absurd notMark (by decide)
  · rfl

include notDigit

/-- A decimal number starts with a digit or a point. -/
theorem decimal?_eq_none : decimal? (c :: rest) = none := by
  have run : digitRun (c :: rest) = ([], c :: rest) := by
    simp [digitRun, digitRunFrom, notDigit]
  rw [decimal?, run]
  dsimp only
  split
  · rename_i same
    obtain ⟨rfl, -⟩ := List.cons.inj same
    exact absurd notMark (by decide)
  · rfl

/-- A text that starts like no number is none, unless it is the name of one without a value. -/
theorem readFloat?_of_not_mem {text : String} (visible : Text.IsVisible text.toList)
    (characters : text.toList = c :: rest) : readFloat? text = named? (c :: rest) := by
  rw [readFloat?, asciiForm_of_isVisible visible, characters, signOf_of_not_mem notMark]
  dsimp only
  rw [decimal?_eq_none notMark notDigit]
  cases named? (c :: rest) <;> rfl

end Start

/-- Numbers that are written by their names are not finite. -/
theorem isFinite_of_named? {text : List Char} {x : Float} (named : named? text = some x) :
    x.isFinite = false := by
  unfold named? at named
  dsimp only at named
  split at named
  · rw [← Option.some.inj named]
    decide
  · split at named
    · rw [← Option.some.inj named]
      decide
    · cases named

end Number

namespace Constants

theorem written?_eq_none {text : String} (visible : Text.IsVisible text.toList) {c : Char}
    {rest : List Char} (characters : text.toList = c :: rest) (notMark : c ∉ ['+', '-', '.'])
    (notDigit : Text.asciiDigit? c = none) : written? text = none := by
  rw [written?, Number.readFloat?_of_not_mem notMark notDigit visible characters]
  cases named : Number.named? (c :: rest) with
  | none => rfl
  | some x =>
      rw [Option.filter_some, if_neg]
      simp [Number.isFinite_of_named? named]

end Constants

/-! ## Spellings of names -/

namespace Expr

/-- A name with a backslash in front of it. -/
def withMark (name : String) : String := "\\" ++ name

theorem toList_withMark (name : String) : (withMark name).toList = '\\' :: name.toList := by
  simp [withMark]

/-- A text in parentheses. -/
def inParentheses (text : String) : String := "(" ++ text ++ ")"

theorem toList_inParentheses (text : String) :
    (inParentheses text).toList = '(' :: (text.toList ++ [')']) := by
  simp [inParentheses]

theorem withoutMarks_of_not_mem {text : List Char} (absent : '\\' ∉ text) :
    withoutMarks text = text := by
  induction text with
  | nil => rfl
  | cons c rest ih =>
      rw [List.mem_cons, not_or] at absent
      rw [withoutMarks, if_neg (by simp [Ne.symm absent.1]), ih absent.2]

/-- A text is a spelling of a name: it starts like no number, without its marks it is the name or
the name in parentheses, and behind a backslash it is the name. -/
structure Spells (text name : String) : Prop where
  word : IsLetterName name
  visible : Text.IsVisible text.toList
  start {c : Char} : c ∈ text.toList.head? → c ∉ ['+', '-', '.'] ∧ Text.asciiDigit? c = none
  behind {rest : List Char} : text.toList = '\\' :: rest → String.ofList rest = name
  source_eq : source text = name ∨ source text = inParentheses name

/-- As an expression a spelling is the name. -/
theorem Spells.parse?_eq {text name : String} (spells : Spells text name) :
    parse? (source text) = some (.name name) := by
  obtain same | same := spells.source_eq
  · rw [same, parse?_word spells.word]
  · rw [same, parse?_parenthesized spells.word (toList_inParentheses name)]

/-- A spelling of a name is no reason for a reader to break off. -/
theorem Spells.breakdown?_eq [Host] {text name : String} (spells : Spells text name) :
    Host.breakdown? (source text) = none := by
  obtain ⟨plain, parenthesized⟩ :=
    Host.breakdown?_letters name (List.all_eq_true.mpr spells.word.letters)
  obtain same | same := spells.source_eq
  · rw [same, plain]
  · rw [same]
    exact parenthesized

theorem Spells.nonempty {text name : String} (spells : Spells text name) : text.toList ≠ [] := by
  intro empty
  have parsed := spells.parse?_eq
  rw [source, empty] at parsed
  cases parsed

section Word

variable {name : String} (word : IsLetterName name)
include word

theorem IsLetterName.isVisible : Text.IsVisible name.toList := fun c member => by
  have range := isLetter_iff.mp (word.letters c member)
  omega

theorem IsLetterName.not_mem {c : Char} (outside : isLetter c = false) : c ∉ name.toList :=
  fun member => ne_of_isLetter (word.letters c member) outside rfl

theorem IsLetterName.start {c : Char} (first : c ∈ name.toList.head?) :
    c ∉ ['+', '-', '.'] ∧ Text.asciiDigit? c = none := by
  have letter := word.letters c (List.mem_of_mem_head? first)
  refine ⟨not_mem_of_isLetter letter rfl, if_neg ?_⟩
  have range := isLetter_iff.mp letter
  rw [Bool.and_eq_true, decide_eq_true_iff, decide_eq_true_iff, Char.le_def, Char.le_def,
    UInt32.le_iff_toNat_le, UInt32.le_iff_toNat_le]
  change ¬ (48 ≤ c.toNat ∧ c.toNat ≤ 57)
  omega

theorem IsLetterName.spells : Spells name name where
  word := word
  visible := word.isVisible
  start := word.start
  behind same := absurd (by rw [same]; exact List.mem_cons_self) (word.not_mem (c := '\\') rfl)
  source_eq := by
    rw [source, withoutMarks_of_not_mem (word.not_mem rfl), String.ofList_toList,
      word.isVisible.trim_eq]
    exact .inl rfl

/-- The mark of a name is passed over. -/
theorem IsLetterName.withoutMarks_cons (rest : List Char) :
    withoutMarks ('\\' :: (name.toList ++ rest)) = withoutMarks (name.toList ++ rest) := by
  obtain ⟨c, others, characters, letter⟩ := word.exists_eq_cons
  rw [characters, List.cons_append, withoutMarks, if_pos (by simp [letter])]

theorem IsLetterName.spells_withMark : Spells (withMark name) name := by
  refine ⟨word, ?_, ?_, ?_, ?_⟩
  · rw [toList_withMark]
    exact List.forall_mem_cons.mpr ⟨by decide, word.isVisible⟩
  · rw [toList_withMark]
    rintro _ ⟨⟩
    decide
  · rw [toList_withMark]
    rintro _ ⟨⟩
    exact String.ofList_toList
  · have unmarked := word.withoutMarks_cons []
    rw [List.append_nil, withoutMarks_of_not_mem (word.not_mem rfl)] at unmarked
    rw [source, toList_withMark, unmarked, String.ofList_toList, word.isVisible.trim_eq]
    exact .inl rfl

/-- A text in parentheses is a spelling of a name if without its marks it is the name. -/
theorem IsLetterName.spells_inParentheses {text : String} (visible : Text.IsVisible text.toList)
    (unmarked : withoutMarks (text.toList ++ [')']) = name.toList ++ [')']) :
    Spells (inParentheses text) name := by
  have same : withoutMarks (inParentheses text).toList = '(' :: (name.toList ++ [')']) := by
    rw [toList_inParentheses, withoutMarks, if_neg (by simp), unmarked]
  have solid : Text.IsVisible ('(' :: (name.toList ++ [')'])) :=
    List.forall_mem_cons.mpr ⟨by decide, List.forall_mem_append.mpr
      ⟨word.isVisible, List.forall_mem_singleton.mpr (by decide)⟩⟩
  refine ⟨word, ?_, ?_, ?_, ?_⟩
  · rw [toList_inParentheses]
    exact List.forall_mem_cons.mpr ⟨by decide, List.forall_mem_append.mpr
      ⟨visible, List.forall_mem_singleton.mpr (by decide)⟩⟩
  · rw [toList_inParentheses]
    rintro _ ⟨⟩
    decide
  · rw [toList_inParentheses]
    rintro _ ⟨⟩
  · rw [source, same, Text.IsVisible.trim_eq (by rwa [String.toList_ofList]),
      ← toList_inParentheses, String.ofList_toList]
    exact .inr rfl

theorem IsLetterName.spells_inParentheses_self : Spells (inParentheses name) name := by
  refine word.spells_inParentheses word.isVisible (withoutMarks_of_not_mem ?_)
  rw [List.mem_append, not_or]
  exact ⟨word.not_mem rfl, by decide⟩

theorem IsLetterName.spells_inParentheses_withMark :
    Spells (inParentheses (withMark name)) name := by
  refine word.spells_inParentheses word.spells_withMark.visible ?_
  rw [toList_withMark, List.cons_append, word.withoutMarks_cons, withoutMarks_of_not_mem]
  rw [List.mem_append, not_or]
  exact ⟨word.not_mem rfl, by decide⟩

end Word

/-- The value of an expression that is a name is the number of that name. -/
theorem Spells.evaluate_eq [Host] {text name : String} (spells : Spells text name)
    (constants : Constants) : evaluate constants text =
      .ok (match Entries.get? constants name with
        | some value => if value.isFinite then .ok value else .error (.notFinite text)
        | none => .error (.noValue text (.unknownName name))) := by
  have parsed := spells.parse?_eq
  have readable := spells.breakdown?_eq
  unfold evaluate
  generalize source text = source at parsed readable ⊢
  have nonempty : ¬ source.isEmpty = true := by
    rw [String.isEmpty_iff]
    rintro rfl
    cases parsed
  rw [if_neg nonempty, readable, parsed]
  dsimp only
  rw [valueOf, eval, if_neg (by decide)]
  cases Entries.get? constants name <;> rfl

end Expr

namespace Constants

/-- The number of a name, zero if there is none. -/
def valueOf (constants : Constants) (name : String) : Float :=
  ((Entries.get? constants name).map finiteOrZero).getD 0.0

section Spellings

variable {text name : String} (spells : Expr.Spells text name) (constants : Constants)
include spells

/-- A spelling of a name is looked up as it stands, or as the name itself. -/
theorem named?_cases : constants.named? text = Entries.get? constants text ∨
    Entries.get? constants text = none ∧ constants.named? text = Entries.get? constants name := by
  rw [named?]
  cases Entries.get? constants text with
  | some value => exact .inl rfl
  | none =>
      dsimp only
      split
      · rename_i rest characters
        rw [spells.behind characters]
        exact .inr ⟨rfl, rfl⟩
      · exact .inl rfl

theorem written?_of_spells : written? text = none := by
  obtain ⟨c, rest, characters⟩ := List.exists_cons_of_ne_nil spells.nonempty
  have start := spells.start (c := c) (by rw [characters]; rfl)
  exact written?_eq_none spells.visible characters start.1 start.2

/-- **A spelling of a name** has the value of the name, unless it stands for a constant of its
own. -/
theorem resolveText_of_spells [Host] : constants.resolveText text =
    .ok (((Entries.get? constants text).map finiteOrZero).getD (constants.valueOf name)) := by
  have nonempty : ¬ text.isEmpty = true := by
    rw [String.isEmpty_iff, ← String.toList_eq_nil_iff]
    exact spells.nonempty
  rw [resolveText, spells.visible.trim_eq, if_neg nonempty, written?_of_spells spells]
  dsimp only
  rw [spells.evaluate_eq, valueOf]
  rcases named?_cases spells constants with asItStands | ⟨absent, asName⟩
  · rw [asItStands]
    cases Entries.get? constants text with
    | some value => rfl
    | none =>
        cases Entries.get? constants name with
        | none => rfl
        | some value =>
            by_cases finite : value.isFinite = true <;> simp [finiteOrZero, finite] <;> rfl
  · rw [asName, absent]
    cases Entries.get? constants name <;> rfl

end Spellings

end Constants

end SignalFlow
