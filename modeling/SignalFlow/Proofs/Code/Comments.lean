import SignalFlow.Code.Generate
import SignalFlow.Proofs.Doubles.Literals
import Mathlib.Tactic.SplitIfs

/-! # Lines and comments that end where they should

A text that a diagram brings along stands in a program as a comment, as part of a name or between
quotes. A comment has no line break in it, whatever its text, and only its own end mark ends it
(`Language.endsItself_comment`); a name consists of letters, digits and underscores
(`isWord_sanitize`); and numbers and quoted texts have no line breaks either.
-/

namespace SignalFlow

/-! ## Texts without line breaks -/

/-- A text without line breaks. -/
def IsUnbroken (text : String) : Prop := '\n' ∉ text.toList ∧ '\r' ∉ text.toList

instance (text : String) : Decidable (IsUnbroken text) := inferInstanceAs (Decidable (_ ∧ _))

namespace IsUnbroken

@[simp] theorem append_iff {first rest : String} :
    IsUnbroken (first ++ rest) ↔ IsUnbroken first ∧ IsUnbroken rest := by
  simp only [IsUnbroken, String.toList_append, List.mem_append, not_or]
  exact and_and_and_comm

theorem append {first rest : String} (firstUnbroken : IsUnbroken first)
    (restUnbroken : IsUnbroken rest) : IsUnbroken (first ++ rest) :=
  append_iff.mpr ⟨firstUnbroken, restUnbroken⟩

/-- A text that is written out is one of characters, which is quicker to look through. -/
theorem ofList {characters : List Char} (unbroken : '\n' ∉ characters ∧ '\r' ∉ characters) :
    IsUnbroken (String.ofList characters) := by
  simpa [IsUnbroken] using unbroken

theorem of_forall {text : String} (property : Char → Prop) (newline : ¬ property '\n')
    (return' : ¬ property '\r') (all : ∀ c ∈ text.toList, property c) : IsUnbroken text :=
  ⟨fun member => newline (all _ member), fun member => return' (all _ member)⟩

theorem intercalate {separator : String} (separatorUnbroken : IsUnbroken separator)
    {texts : List String} (unbroken : ∀ text ∈ texts, IsUnbroken text) :
    IsUnbroken (separator.intercalate texts) := by
  induction texts with
  | nil => exact ⟨by simp, by simp⟩
  | cons first rest ih =>
      rw [List.forall_mem_cons] at unbroken
      cases rest with
      | nil => simpa using unbroken.1
      | cons second rest =>
          rw [String.intercalate_cons_cons, append_iff, append_iff]
          exact ⟨⟨unbroken.1, separatorUnbroken⟩, ih unbroken.2⟩

theorem join {texts : List String} (unbroken : ∀ text ∈ texts, IsUnbroken text) :
    IsUnbroken (String.join texts) := by
  simp only [IsUnbroken, String.toList_join, List.mem_flatMap, not_exists, not_and]
  exact ⟨fun text listed => (unbroken text listed).1, fun text listed => (unbroken text listed).2⟩

end IsUnbroken

/-! ## Comments -/

namespace Text

/-- There is no blank in a word. -/
theorem isBlank_of_mem_words {text word : String} (member : word ∈ words text) {c : Char}
    (inside : c ∈ word.toList) : isBlank c = false := by
  have each (current rest : List Char) (solid : ∀ c ∈ current, isBlank c = false) :
      ∀ word ∈ wordsFrom current rest, ∀ c ∈ word.toList, isBlank c = false := by
    induction rest generalizing current with
    | nil =>
        unfold wordsFrom
        split
        · simp
        · simpa using solid
    | cons first rest ih =>
        unfold wordsFrom
        split
        · split
          · exact ih [] (by simp)
          · simp only [List.forall_mem_cons, String.toList_ofList, List.mem_reverse]
            exact ⟨solid, ih [] (by simp)⟩
        · rename_i isSolid
          exact ih _ (List.forall_mem_cons.mpr ⟨by simpa using isSolid, solid⟩)
  exact each [] text.toList (by simp) word member c inside

theorem isUnbroken_of_mem_words {text word : String} (member : word ∈ words text) :
    IsUnbroken word :=
  .of_forall (isBlank · = false) (by decide) (by decide) fun _ => isBlank_of_mem_words member

end Text

/-- Breaking an end mark adds blanks only. -/
theorem mem_breakCommentEnds {text : List Char} {c : Char} (member : c ∈ breakCommentEnds text) :
    c ∈ text ∨ c = ' ' := by
  fun_induction breakCommentEnds text <;> grind

theorem head?_breakCommentEnds (text : List Char) :
    (breakCommentEnds text).head? = text.head? := by
  fun_cases breakCommentEnds text <;> rfl

/-- No end mark is left. -/
theorem not_isInfix_breakCommentEnds (text : List Char) :
    ¬ ['*', '/'] <:+: breakCommentEnds text := by
  fun_induction breakCommentEnds text with
  | case1 rest ih => simpa [List.infix_cons_iff] using ih
  | case2 c rest other ih =>
      rw [List.infix_cons_iff, not_or]
      refine ⟨fun starts => ?_, ih⟩
      -- What follows an asterisk is kept, so a slash after it would have been there before.
      obtain ⟨rfl, kept, same⟩ := List.cons_prefix_cons.mp starts
      have first := head?_breakCommentEnds rest
      rw [← same, List.cons_append, List.head?_cons] at first
      obtain ⟨rest, rfl⟩ := List.head?_eq_some_iff.mp first.symm
      exact other rest rfl rfl
  | case3 => simp

namespace Language

/-- A text is a comment that nothing but its own end closes: a comment of Python lasts up to the end
of its line, one of C up to its first end mark. -/
def EndsItself (language : Language) (comment : String) : Prop :=
  match language with
  | .python => ∃ rest, comment = "#" ++ rest
  | .c => ∃ inside, comment = "/*" ++ inside ++ "*/" ∧
      ∀ before after, comment.toList = before ++ '*' :: '/' :: after → after = []

theorem eq_nil_of_append_end {text before after : List Char} (unended : ¬ ['*', '/'] <:+: text)
    (same : text ++ [' ', '*', '/'] = before ++ '*' :: '/' :: after) : after = [] := by
  induction text generalizing before with
  | nil =>
      rcases before with _ | ⟨_, _ | ⟨_, _ | ⟨_, before⟩⟩⟩ <;> simp_all
  | cons c text ih =>
      rw [List.infix_cons_iff, not_or] at unended
      cases before with
      | nil =>
          obtain ⟨rfl, rest⟩ := List.cons.inj same
          cases text with
          | nil => cases rest
          | cons second text =>
              obtain ⟨rfl, -⟩ := List.cons.inj rest
              exact absurd ⟨text, rfl⟩ unended.1
      | cons _ before => exact ih unended.2 (List.cons.inj same).2

theorem endsItself_comment (language : Language) (text : String) :
    language.EndsItself (language.comment text) := by
  cases language with
  | python => exact ⟨" " ++ _, by rw [comment, ← String.append_assoc]; rfl⟩
  | c =>
      refine ⟨" " ++ String.ofList (breakCommentEnds (" ".intercalate (Text.words text)).toList) ++
        " ", ?_, fun before after same => ?_⟩
      · apply String.toList_injective
        simp [comment]
      · have inside := not_isInfix_breakCommentEnds (" ".intercalate (Text.words text)).toList
        have unended : ¬ ['*', '/'] <:+: '/' :: '*' :: ' ' ::
            breakCommentEnds (" ".intercalate (Text.words text)).toList := by
          simpa [List.infix_cons_iff] using inside
        refine eq_nil_of_append_end unended (Eq.trans ?_ same)
        simp [comment]

/-- There is no line break in a comment, whatever its text. -/
theorem isUnbroken_comment (language : Language) (text : String) :
    IsUnbroken (language.comment text) := by
  have words : IsUnbroken (" ".intercalate (Text.words text)) :=
    .intercalate (by decide) fun _ => Text.isUnbroken_of_mem_words
  cases language with
  | python => exact IsUnbroken.append_iff.mpr ⟨by decide, words⟩
  | c =>
      refine IsUnbroken.append_iff.mpr ⟨IsUnbroken.append_iff.mpr ⟨by decide, ?_⟩, by decide⟩
      constructor <;>
      · rw [String.toList_ofList]
        intro member
        rcases mem_breakCommentEnds member with inside | blank
        · first | exact words.1 inside | exact words.2 inside
        · cases blank

end Language

/-! ## Numbers and quoted texts -/

theorem IsDigits.isUnbroken {text : String} (digits : IsDigits text.toList) : IsUnbroken text :=
  .of_forall (·.isDigit = true) (by decide) (by decide) digits.2

theorem isUnbroken_digitsOf (n : Nat) : IsUnbroken (Decimal.digitsOf n) :=
  (Decimal.isDigits_digitsOf n).isUnbroken

/-- A character of a number. -/
def IsNumeral (c : Char) : Prop := c.isDigit = true ∨ c = '.' ∨ c = 'e' ∨ c = '+' ∨ c = '-'

theorem IsMantissa.isNumeral {text : List Char} (mantissa : IsMantissa text) :
    ∀ c ∈ text, IsNumeral c := by
  cases mantissa with
  | whole digits => exact fun c member => .inl (digits.2 c member)
  | point whole fraction =>
      simp only [List.forall_mem_append, List.forall_mem_cons]
      exact ⟨fun c member => .inl (whole.2 c member), .inr (.inl rfl),
        fun c member => .inl (fraction.2 c member)⟩

theorem IsUnsigned.isNumeral {text : List Char} (unsigned : IsUnsigned text) :
    ∀ c ∈ text, IsNumeral c := by
  cases unsigned with
  | plain mantissa => exact mantissa.isNumeral
  | scaled mantissa sign exponent =>
      simp only [List.forall_mem_append, List.forall_mem_cons]
      refine ⟨mantissa.isNumeral, .inr (.inr (.inl rfl)), ?_,
        fun c member => .inl (exponent.2 c member)⟩
      rcases sign with rfl | rfl <;> simp [IsNumeral]

theorem isUnbroken_shortest (x : Float) : IsUnbroken (Decimal.shortest x) := by
  by_cases finite : x.isFinite = true
  · obtain ⟨negative, unsigned, isUnsigned, same⟩ :=
      (Decimal.isDecimalLiteral_shortest_iff x).mpr finite
    refine .of_forall IsNumeral (by simp [IsNumeral]) (by simp [IsNumeral]) ?_
    rw [same, List.forall_mem_append]
    refine ⟨?_, isUnsigned.isNumeral⟩
    cases negative <;> simp [Decimal.sign, IsNumeral]
  · rw [Binary64.isFinite_iff_parts] at finite
    unfold Decimal.shortest
    cases found : Binary64.parts x with
    | notANumber => decide
    | infinite negative => cases negative <;> decide
    | finite negative mantissa exponent => exact absurd ⟨_, _, _, found⟩ finite

namespace Text

theorem hexCharacter_ne_break :
    ∀ digit < 16, hexCharacter digit ≠ '\n' ∧ hexCharacter digit ≠ '\r' := by
  decide

theorem isUnbroken_hexText (count n : Nat) : '\n' ∉ hexText count n ∧ '\r' ∉ hexText count n := by
  induction count generalizing n with
  | zero => exact ⟨List.not_mem_nil, List.not_mem_nil⟩
  | succ count ih =>
      have digit := hexCharacter_ne_break (n % 16) (Nat.mod_lt _ (by decide))
      simp [hexText, ih, digit.1.symm, digit.2.symm]

theorem isUnbroken_quotedCharacter {quote : Char} (isQuote : quote ≠ '\n' ∧ quote ≠ '\r')
    (c : Char) : '\n' ∉ quotedCharacter quote c ∧ '\r' ∉ quotedCharacter quote c := by
  have numbered_unbroken : '\n' ∉ numbered c.toNat ∧ '\r' ∉ numbered c.toNat := by
    unfold numbered
    split_ifs <;> simp [isUnbroken_hexText]
  unfold quotedCharacter
  split_ifs with escaped newline return' tab printable
  · rw [Bool.or_eq_true, beq_iff_eq, beq_iff_eq] at escaped
    rcases escaped with rfl | rfl
    · simp [isQuote.1.symm, isQuote.2.symm]
    · decide
  · decide
  · decide
  · decide
  · rw [beq_iff_eq] at newline return'
    simp [Ne.symm newline, Ne.symm return']
  · exact numbered_unbroken

theorem isUnbroken_quoted (text : String) : IsUnbroken (quoted text) := by
  have isQuote : quoteFor text.toList ≠ '\n' ∧ quoteFor text.toList ≠ '\r' := by
    unfold quoteFor
    split <;> decide
  simp [IsUnbroken, quoted, isUnbroken_quotedCharacter isQuote, isQuote.1.symm, isQuote.2.symm]

end Text

namespace Value

mutual

theorem isUnbroken_quoted : (value : Value) → IsUnbroken value.quoted
  | .null => by decide
  | .bool true => by decide
  | .bool false => by decide
  | .int n => by
      rw [quoted]
      split
      · exact IsUnbroken.append_iff.mpr ⟨by decide, isUnbroken_digitsOf _⟩
      · exact isUnbroken_digitsOf _
  | .float x => isUnbroken_shortest x
  | .text s => Text.isUnbroken_quoted s
  | .list items => by
      rw [quoted, IsUnbroken.append_iff, IsUnbroken.append_iff]
      exact ⟨⟨by decide, .intercalate (by decide) (isUnbroken_quotedItems items)⟩, by decide⟩
  | .mapping entries => by
      rw [quoted, IsUnbroken.append_iff, IsUnbroken.append_iff]
      exact ⟨⟨by decide, .intercalate (by decide) (isUnbroken_quotedEntries entries)⟩, by decide⟩

theorem isUnbroken_quotedItems :
    (items : List Value) → ∀ text ∈ quotedItems items, IsUnbroken text
  | [] => by simp [quotedItems]
  | item :: rest => by
      rw [quotedItems, List.forall_mem_cons]
      exact ⟨isUnbroken_quoted item, isUnbroken_quotedItems rest⟩

theorem isUnbroken_quotedEntries :
    (entries : List (String × Value)) → ∀ text ∈ quotedEntries entries, IsUnbroken text
  | [] => by simp [quotedEntries]
  | (key, value) :: rest => by
      rw [quotedEntries, List.forall_mem_cons, IsUnbroken.append_iff, IsUnbroken.append_iff]
      exact ⟨⟨⟨Text.isUnbroken_quoted key, by decide⟩, isUnbroken_quoted value⟩,
        isUnbroken_quotedEntries rest⟩

end

end Value

/-! ## Names -/

/-- A letter, a digit or the underscore, of ASCII. -/
def isWordCharacter (c : Char) : Bool := c.toNat < 128 && (c.isAlphanum || c == '_')

/-- A text of letters, digits and underscores. -/
def IsWord (text : String) : Prop := ∀ c ∈ text.toList, isWordCharacter c = true

theorem IsWord.append {first rest : String} (firstWord : IsWord first) (restWord : IsWord rest) :
    IsWord (first ++ rest) := by
  rw [IsWord, String.toList_append, List.forall_mem_append]
  exact ⟨firstWord, restWord⟩

theorem isWord_digitsOf (n : Nat) : IsWord (Decimal.digitsOf n) := by
  intro c member
  have digit := (Decimal.isDigits_digitsOf n).2 c member
  have ascii : c.toNat < 128 := by
    simp only [Char.isDigit, Bool.and_eq_true, decide_eq_true_eq, UInt32.le_iff_toNat_le] at digit
    exact digit.2.trans_lt (by decide)
  simp [isWordCharacter, Char.isAlphanum, ascii, digit]

theorem isWord_sanitize (name : String) : IsWord (sanitize name) := by
  simp only [IsWord, sanitize, String.toList_ofList, List.forall_mem_map]
  intro c _
  split
  · assumption
  · rfl

theorem IsWord.isUnbroken {text : String} (word : IsWord text) : IsUnbroken text :=
  .of_forall (isWordCharacter · = true) (by decide) (by decide) word

namespace Text

theorem quotedCharacter_of_isWordCharacter {c : Char} (word : isWordCharacter c = true) :
    quotedCharacter '\'' c = [c] := by
  have ascii : c.toNat < 128 := by
    rw [isWordCharacter, Bool.and_eq_true] at word
    exact of_decide_eq_true word.1
  have all : ∀ n < 128, isWordCharacter (Char.ofNat n) = true →
      quotedCharacter '\'' (Char.ofNat n) = [Char.ofNat n] := by
    decide +kernel
  have own := all c.toNat ascii
  rw [Char.ofNat_toNat] at own
  exact own word

/-- A word between quotes stands there as it is. -/
theorem quoted_of_isWord {text : String} (word : IsWord text) :
    quoted text = "'" ++ text ++ "'" := by
  have noQuote : '\'' ∉ text.toList := fun member => absurd (word _ member) (by decide)
  have same : text.toList.flatMap (quotedCharacter '\'') = text.toList := by
    rw [List.flatMap_congr fun c member => quotedCharacter_of_isWordCharacter (word c member)]
    simp
  apply String.toList_injective
  simp [quoted, quoteFor, noQuote, same]

end Text

end SignalFlow
