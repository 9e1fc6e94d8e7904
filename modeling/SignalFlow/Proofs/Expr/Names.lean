import SignalFlow.Expr.Eval
import Mathlib.Data.List.TakeWhile

/-! # Names as expressions

A word of ASCII letters that is no keyword (`Expr.IsLetterName`) is an expression, and so is the
word in parentheses; both are the name that the word is (`Expr.parse?_word`,
`Expr.parse?_parenthesized`). The word is scanned as one token wherever nothing follows it that
could go on with it (`Token.Scanner.step_word`).
-/

namespace SignalFlow

namespace Expr

/-- A text is made of ASCII letters and no keyword. -/
structure IsLetterName (name : String) : Prop where
  nonempty : name ≠ ""
  letters : ∀ c ∈ name.toList, isLetter c = true
  notKeyword : name ∉ Token.keywords

/-- The ASCII letters lie in two ranges. -/
theorem isLetter_iff {c : Char} : isLetter c = true ↔
    65 ≤ c.toNat ∧ c.toNat ≤ 90 ∨ 97 ≤ c.toNat ∧ c.toNat ≤ 122 := by
  unfold isLetter Char.isAlpha Char.isUpper Char.isLower
  simp only [Bool.and_eq_true, Bool.or_eq_true, decide_eq_true_iff, UInt32.le_iff_toNat_le,
    ge_iff_le]
  change c.toNat < 128 ∧ (65 ≤ c.toNat ∧ c.toNat ≤ 90 ∨ 97 ≤ c.toNat ∧ c.toNat ≤ 122) ↔ _
  omega

/-- A letter is none of the characters outside the two ranges. -/
theorem ne_of_isLetter {c other : Char} (letter : isLetter c = true)
    (outside : isLetter other = false) : c ≠ other := by
  rintro rfl
  rw [letter] at outside
  cases outside

theorem not_mem_of_isLetter {c : Char} {others : List Char} (letter : isLetter c = true)
    (outside : others.any isLetter = false) : c ∉ others := fun member =>
  ne_of_isLetter letter (Bool.eq_false_iff.mpr (List.any_eq_false.mp outside c member)) rfl

theorem isNameStart_of_isLetter {c : Char} (letter : isLetter c = true) :
    Token.isNameStart c = true := by
  rw [isLetter, Bool.and_eq_true] at letter
  rw [Token.isNameStart, letter.2, Bool.true_or, Bool.true_or]

theorem IsLetterName.exists_eq_cons {name : String} (word : IsLetterName name) :
    ∃ c rest, name.toList = c :: rest ∧ isLetter c = true := by
  obtain ⟨c, rest, characters⟩ := List.exists_cons_of_ne_nil
    (String.toList_eq_nil_iff.not.mpr word.nonempty)
  exact ⟨c, rest, characters, word.letters c (by simp [characters])⟩

theorem IsLetterName.isIdentifier {name : String} (word : IsLetterName name) :
    Text.isIdentifier name = true := by
  have ascii {c : Char} (letter : isLetter c = true) : c.val < 128 ∧ c.isAlpha = true := by
    rw [isLetter, Bool.and_eq_true, decide_eq_true_iff] at letter
    exact letter
  obtain ⟨c, rest, characters, letter⟩ := word.exists_eq_cons
  rw [Text.isIdentifier, characters]
  dsimp only
  rw [Bool.and_eq_true, List.all_eq_true]
  refine ⟨?_, fun other member => ?_⟩
  · rw [Text.isIdentifierStart, if_pos (ascii letter).1, (ascii letter).2, Bool.true_or]
  · have otherLetter := word.letters other (by simp [characters, member])
    rw [Text.isIdentifierRest, if_pos (ascii otherLetter).1, Char.isAlphanum,
      (ascii otherLetter).2, Bool.true_or, Bool.true_or]

/-- ASCII is its own compatibility form. -/
theorem IsLetterName.compatibility_eq {name : String} (word : IsLetterName name) :
    Text.compatibility name = name := by
  refine if_pos (List.all_eq_true.mpr fun c member => ?_)
  have letter := word.letters c member
  rw [isLetter, Bool.and_eq_true] at letter
  exact letter.1

end Expr

namespace Token.Scanner

open SignalFlow.Expr

/-! ## Scanning -/

/-- A line starts with its first visible character where no line is indented. -/
theorem step_fresh {s : Scanner} {c : Char} {rest : List Char} (fresh : s.fresh = true)
    (rest_eq : s.rest = c :: rest) (plain : c ∉ [' ', '\t', '\x0c', '\\', '#', '\n'])
    (brackets : s.brackets = []) (indents : s.indents = []) :
    s.step c rest = some { s with fresh := false, blank := true } := by
  simp only [List.mem_cons, List.not_mem_nil, or_false, not_or] at plain
  obtain ⟨space, tab, feed, backslash, hash, newline⟩ := plain
  have start : columns s.rest 0 0 0 0 = some (0, 0, 0) := by
    rw [rest_eq, columns.eq_def]
    split
    · rename_i same
      exact absurd (List.cons.inj same).1 backslash
    · rename_i other _ _ same
      obtain ⟨rfl, rfl⟩ := List.cons.inj same
      simp [space, tab, feed, backslash]
    · rename_i same
      cases same
  unfold step
  rw [if_pos fresh, startLine, start]
  simp [rest_eq, hash, newline, brackets, indents, align, pass]

section Word

variable {s : Scanner} {name : String} (word : IsLetterName name) {rest : List Char}
  (rest_eq : s.rest = name.toList ++ rest)
  (ends : ∀ c ∈ rest.head?, isNameRest c = false ∧ c ≠ '"' ∧ c ≠ '\'')
include word rest_eq ends

/-- A word is one token where nothing goes on with it. -/
theorem nameToken_word : s.nameToken = some (s.take (.name name) name.toList.length) := by
  have all : ∀ c ∈ name.toList, isNameRest c = true := fun c member => by
    rw [isNameRest, isNameStart_of_isLetter (word.letters c member), Bool.true_or]
  have letters : s.rest.takeWhile isNameRest = name.toList := by
    rw [rest_eq, List.takeWhile_append_of_pos all]
    cases rest with
    | nil => simp
    | cons c rest => rw [List.takeWhile_cons_of_neg (by simp [(ends c rfl).1]), List.append_nil]
  have isPlain : nameToken.plain s name.toList = some (s.take (.name name) name.toList.length) := by
    unfold nameToken.plain
    dsimp only
    rw [String.ofList_toList, if_neg (by simpa using word.notKeyword), if_pos word.isIdentifier,
      word.compatibility_eq]
  unfold nameToken
  dsimp only
  rw [letters, rest_eq, List.drop_left]
  cases rest with
  | nil => exact isPlain
  | cons c rest =>
      dsimp only
      rw [if_neg (by simp [(ends c rfl).2])]
      exact isPlain

theorem step_word (notFresh : s.fresh = false) {c : Char} {others : List Char}
    (characters : s.rest = c :: others) :
    s.step c others = some (s.take (.name name) name.toList.length) := by
  obtain ⟨first, front, nameCharacters, letter⟩ := word.exists_eq_cons
  obtain rfl : first = c := by
    rw [rest_eq, nameCharacters, List.cons_append] at characters
    exact (List.cons.inj characters).1
  have other {d : Char} (outside : isLetter d = false) : (first == d) = false :=
    beq_eq_false_iff_ne.mpr (ne_of_isLetter letter outside)
  have notDigit : first.isDigit = false := by
    have range := isLetter_iff.mp letter
    rw [Char.isDigit, Bool.and_eq_false_iff, decide_eq_false_iff_not, decide_eq_false_iff_not,
      UInt32.le_iff_toNat_le, ge_iff_le, UInt32.le_iff_toNat_le]
    change ¬ 48 ≤ first.toNat ∨ ¬ first.toNat ≤ 57
    omega
  -- The branches of a step are tried one by one until that of names.
  unfold step
  rw [if_neg (by simp [notFresh]), if_neg (by simp [other (d := ' ') rfl, other (d := '\t') rfl,
    other (d := '\x0c') rfl]), if_neg (by simp [other (d := '#') rfl]),
    if_neg (by simp [other (d := '\n') rfl]), if_neg (by simp [other (d := '\\') rfl]),
    if_neg (by simp [notDigit, other (d := '.') rfl]),
    if_neg (by simp [other (d := '"') rfl, other (d := '\'') rfl]),
    if_pos (isNameStart_of_isLetter letter)]
  exact nameToken_word word rest_eq ends

end Word

section Parentheses

variable {s : Scanner} {rest : List Char} (notFresh : s.fresh = false)
include notFresh

/-- An opening parenthesis is a token, and waits for the closing one. -/
theorem step_open (rest_eq : s.rest = '(' :: rest) (room : s.brackets.length < bracketLimit) :
    s.step '(' rest =
      some { s.take (.operator "(") 1 with brackets := ')' :: s.brackets } := by
  have known : (operators.find? fun known => known.toList.isPrefixOf s.rest) = some "(" := by
    rw [rest_eq]
    rfl
  have notFull : ¬ bracketLimit ≤ (s.take (.operator "(") 1).brackets.length :=
    Nat.not_le.mpr room
  unfold step operatorToken
  rw [if_neg (by simp [notFresh]), known]
  exact if_neg notFull

/-- A closing parenthesis is a token where it is waited for. -/
theorem step_close {outer : List Char} (rest_eq : s.rest = ')' :: rest)
    (brackets : s.brackets = ')' :: outer) :
    s.step ')' rest = some { s.take (.operator ")") 1 with brackets := outer } := by
  have known : (operators.find? fun known => known.toList.isPrefixOf s.rest) = some ")" := by
    rw [rest_eq]
    rfl
  have waiting : (s.take (.operator ")") ")".length).brackets = ')' :: outer := brackets
  unfold step operatorToken
  rw [if_neg (by simp [notFresh]), known]
  dsimp only [Option.bind_eq_bind, Option.bind_some]
  rw [waiting]
  rfl

end Parentheses

theorem run_of_step {s next : Scanner} {c : Char} {rest : List Char} (rest_eq : s.rest = c :: rest)
    (stepped : s.step c rest = some next) (fuel : Nat) : run (fuel + 1) s = run fuel next := by
  rw [run, rest_eq]
  dsimp only
  rw [stepped]

theorem run_of_end {s : Scanner} (rest_eq : s.rest = []) (brackets : s.brackets = [])
    (indents : s.indents = []) (fuel : Nat) : run (fuel + 1) s = some s.found.reverse := by
  rw [run, rest_eq]
  simp [brackets, indents]

end Token.Scanner

namespace Token

open SignalFlow.Expr

variable {name : String} (word : IsLetterName name)
include word

theorem scan?_word : ∃ tokens, scan? name.toList = some tokens ∧
    tokens.map (·.lexeme) = [.name name] := by
  obtain ⟨c, rest, characters, letter⟩ := word.exists_eq_cons
  have noNull : ¬ name.toList.contains (Char.ofNat 0) = true := by
    rw [List.contains_iff_mem]
    exact fun member => absurd (word.letters _ member) (by decide)
  have fuel : 2 * name.toList.length + 2 = 2 * rest.length + 1 + 1 + 1 + 1 := by
    rw [characters, List.length_cons]
    omega
  have plain : c ∉ [' ', '\t', '\x0c', '\\', '#', '\n'] := not_mem_of_isLetter letter rfl
  rw [scan?, if_neg noNull, fuel,
    Scanner.run_of_step characters (Scanner.step_fresh rfl characters plain rfl rfl),
    Scanner.run_of_step characters (Scanner.step_word word (List.append_nil _).symm (by simp) rfl
      characters),
    Scanner.run_of_end (List.drop_length) rfl rfl]
  exact ⟨_, rfl, rfl⟩

theorem scan?_parenthesized : ∃ tokens, scan? ('(' :: (name.toList ++ [')'])) = some tokens ∧
    tokens.map (·.lexeme) = [.operator "(", .name name, .operator ")"] := by
  obtain ⟨c, rest, characters, -⟩ := word.exists_eq_cons
  have noNull : ¬ ('(' :: (name.toList ++ [')'])).contains (Char.ofNat 0) = true := by
    rw [List.contains_iff_mem, List.mem_cons, List.mem_append, List.mem_singleton]
    rintro (bracket | member | bracket)
    · exact absurd bracket (by decide)
    · exact absurd (word.letters _ member) (by decide)
    · exact absurd bracket (by decide)
  have fuel : 2 * ('(' :: (name.toList ++ [')'])).length + 2 =
      2 * name.toList.length + 1 + 1 + 1 + 1 + 1 + 1 := by
    rw [List.length_cons, List.length_append, List.length_singleton]
    omega
  have inner : name.toList ++ [')'] = c :: (rest ++ [')']) := by rw [characters, List.cons_append]
  have room : ([] : List Char).length < bracketLimit := by decide
  rw [scan?, if_neg noNull, fuel,
    Scanner.run_of_step rfl (Scanner.step_fresh rfl rfl (by decide) rfl rfl),
    Scanner.run_of_step rfl (Scanner.step_open rfl rfl room),
    Scanner.run_of_step inner (Scanner.step_word word rfl (by rintro _ ⟨⟩; decide) rfl inner),
    Scanner.run_of_step List.drop_left (Scanner.step_close rfl List.drop_left rfl),
    Scanner.run_of_end (by simp [Scanner.take, Scanner.pass]) rfl rfl]
  exact ⟨_, rfl, rfl⟩

end Token

/-! ## Parsing -/

namespace Expr

variable {name : String} (word : IsLetterName name)
include word

/-- A word is the name that it is. -/
theorem parse?_word : parse? name = some (.name name) := by
  have unbroken : '\r' ∉ name.toList := fun member => absurd (word.letters _ member) (by decide)
  obtain ⟨tokens, scanned, lexemes⟩ := Token.scan?_word word
  rw [parse?, Text.unifyBreakList_of_not_mem unbroken, scanned]
  obtain ⟨⟨_, _, _, _⟩, rfl, rfl⟩ := List.map_eq_singleton_iff.mp lexemes
  rfl

set_option maxRecDepth 4000 in
/-- A word in parentheses is the name that it is without them. -/
theorem parse?_parenthesized {text : String}
    (characters : text.toList = '(' :: (name.toList ++ [')'])) :
    parse? text = some (.name name) := by
  have unbroken : '\r' ∉ text.toList := by
    rw [characters, List.mem_cons, List.mem_append, List.mem_singleton]
    rintro (bracket | member | bracket)
    · exact absurd bracket (by decide)
    · exact absurd (word.letters _ member) (by decide)
    · exact absurd bracket (by decide)
  obtain ⟨tokens, scanned, lexemes⟩ := Token.scan?_parenthesized word
  rw [parse?, Text.unifyBreakList_of_not_mem unbroken, characters, scanned]
  -- One level of nesting is enough, and there is room for it.
  have room : Parser.levels * text.length + 8 = Parser.levels * text.length + 7 + 1 := rfl
  rw [room]
  generalize Parser.levels * text.length + 7 = depth
  match tokens, lexemes with
  | [⟨_, _, _, _⟩, ⟨_, _, _, _⟩, ⟨_, _, _, _⟩], rfl => rfl

end Expr

end SignalFlow
