import SignalFlow.Proofs.Code.Comments
import SignalFlow.Proofs.Code.Execution
import SignalFlow.Proofs.Code.Mentions

/-! # Where the texts of a diagram stand in a program

The same program with other comments, other names of inputs and outputs and other variables
(`Program.rewrite`) has the same lines, filled in differently: there is one template for all of them
(`Program.follows_programLines`). In it a comment has a line of its own, behind a margin; a name or
a variable is a part of a line, on its own or between quotes; and all the rest is fixed.
-/

namespace SignalFlow.Code

variable {α : Type}

/-! ## Programs with other texts -/

/-- Texts in place of those that a program has from its diagram. -/
structure Texts where
  comment : String → String
  /-- The name of an input or an output of the whole program. -/
  name : String → String
  var : String → String

/-- A term with other texts. -/
def Term.rewrite (texts : Texts) : Term α → Term α
  | .external name => .external (texts.name name)
  | .add a b => .add (a.rewrite texts) (b.rewrite texts)
  | .sub a b => .sub (a.rewrite texts) (b.rewrite texts)
  | .mul a b => .mul (a.rewrite texts) (b.rewrite texts)
  | .div a b => .div (a.rewrite texts) (b.rewrite texts)
  | .sin a => .sin (a.rewrite texts)
  | .abs a => .abs (a.rewrite texts)
  | .min a b => .min (a.rewrite texts) (b.rewrite texts)
  | .max a b => .max (a.rewrite texts) (b.rewrite texts)
  | .choice relation a b ifTrue ifFalse => .choice relation (a.rewrite texts) (b.rewrite texts)
      (ifTrue.rewrite texts) (ifFalse.rewrite texts)
  | .grouped a => .grouped (a.rewrite texts)
  | term => term

/-- The names of inputs of the whole program in a term. -/
def Term.names : Term α → List String
  | .external name => [name]
  | .add a b | .sub a b | .mul a b | .div a b | .min a b | .max a b => a.names ++ b.names
  | .sin a | .abs a | .grouped a => a.names
  | .choice _ a b ifTrue ifFalse => a.names ++ b.names ++ ifTrue.names ++ ifFalse.names
  | _ => []

/-- A test with other texts. -/
def Test.rewrite (texts : Texts) : Test α → Test α
  | .compare relation a b => .compare relation (a.rewrite texts) (b.rewrite texts)
  | test => test

/-- The names in a test. -/
def Test.names : Test α → List String
  | .compare _ a b => a.names ++ b.names
  | _ => []

mutual

/-- A statement with other texts. -/
def Statement.rewrite (texts : Texts) : Statement α → Statement α
  | .comment text => .comment (texts.comment text)
  | .store target value => .store target (value.rewrite texts)
  | .increase field amount => .increase field (amount.rewrite texts)
  | .define name value => .define name (value.rewrite texts)
  | .rungeKutta state handle order input => .rungeKutta state handle order (input.rewrite texts)
  | .publish name handle => .publish (texts.name name) handle
  | .when test body => .when (test.rewrite texts) (rewriteAll texts body)
  | .block body => .block (rewriteAll texts body)
  | statement => statement

/-- Statements with other texts. -/
def rewriteAll (texts : Texts) : List (Statement α) → List (Statement α)
  | [] => []
  | first :: rest => first.rewrite texts :: rewriteAll texts rest

end

mutual

/-- The names of inputs and outputs of the whole program in a statement. -/
def Statement.names : Statement α → List String
  | .store _ term | .increase _ term | .define _ term | .rungeKutta _ _ _ term => term.names
  | .publish name _ => [name]
  | .when test body => test.names ++ namesOf body
  | .block body => namesOf body
  | _ => []

/-- The names in some statements. -/
def namesOf : List (Statement α) → List String
  | [] => []
  | first :: rest => first.names ++ namesOf rest

end

/-- A tick with other texts. -/
def Tick.rewrite (texts : Texts) (tick : Tick α) : Tick α where
  outputs := rewriteAll texts tick.outputs
  seeds := rewriteAll texts tick.seeds
  pass := rewriteAll texts tick.pass
  sinks := rewriteAll texts tick.sinks
  updates := rewriteAll texts tick.updates

/-- The names in a tick. -/
def Tick.names (tick : Tick α) : List String :=
  namesOf tick.outputs ++ namesOf tick.seeds ++ namesOf tick.pass ++ namesOf tick.sinks ++
    namesOf tick.updates

/-- A program with other texts. -/
def Program.rewrite (texts : Texts) (program : Program α) : Program α :=
  { program with
    inputNames := program.inputNames.map texts.name
    outputNames := program.outputNames.map texts.name
    vars := program.vars.map fun (name, value) => (texts.var name, value)
    tick := program.tick.rewrite texts }

/-- The names of inputs and outputs that a program is written with. -/
def Program.names (program : Program α) : List String :=
  program.inputNames ++ program.outputNames ++ program.tick.names

/-! ## Templates -/

/-- A part of a line. -/
inductive Part where
  /-- Text that is the same whatever the texts of the diagram. -/
  | code (text : String)
  /-- The name of an input or an output. -/
  | name (own : String)
  /-- Such a name between quotes. -/
  | quoted (own : String)
  /-- The name of a variable, behind what all of them start with. -/
  | var (own : String)

/-- What stands in the place of a part. -/
def Part.text (texts : Texts) : Part → String
  | .code text => text
  | .name own => texts.name own
  | .quoted own => Text.quoted (texts.name own)
  | .var own => sanitize (texts.var own)

/-- A part of a program with given names. -/
def Part.IsOf (names : List String) : Part → Prop
  | .code text => IsUnbroken text
  | .name own | .quoted own => own ∈ names
  | .var _ => True

/-- A line of a template. -/
inductive Line where
  | blank
  /-- A comment behind a margin. -/
  | comment (margin text : String)
  | parts (items : List Part)

/-- What stands in the place of a line. -/
def Line.text (language : Language) (texts : Texts) : Line → String
  | .blank => ""
  | .comment margin text => margin ++ language.comment (texts.comment text)
  | .parts items => String.join (items.map (Part.text texts))

/-- A line of a program with given names. A line with parts is not empty, whatever the texts. -/
def Line.IsOf (names : List String) : Line → Prop
  | .blank => True
  | .comment margin _ => ∀ c ∈ margin.toList, c = ' '
  | .parts items => (∃ text, .code text ∈ items ∧ text ≠ "") ∧ ∀ part ∈ items, part.IsOf names

section Templates

variable {language : Language} {names : List String}

/-- A text that is made of parts. -/
def Spelled (names : List String) (text : Texts → String) : Prop :=
  ∃ parts : List Part, (∀ part ∈ parts, part.IsOf names) ∧
    ∀ texts, text texts = String.join (parts.map (Part.text texts))

/-- A text that is made of parts and not empty. -/
def Solid (names : List String) (text : Texts → String) : Prop :=
  ∃ parts : List Part, Line.IsOf names (.parts parts) ∧
    ∀ texts, text texts = String.join (parts.map (Part.text texts))

/-- Lines that come from one template. -/
def Follows (language : Language) (names : List String) (lines : Texts → List String) : Prop :=
  ∃ template : List Line, (∀ line ∈ template, line.IsOf names) ∧
    ∀ texts, lines texts = template.map (Line.text language texts)

namespace Spelled

variable {text other : Texts → String}

theorem part {part : Part} (isOf : part.IsOf names) : Spelled names (Part.text · part) :=
  ⟨[part], by simpa using isOf, fun texts => by simp⟩

theorem code {text : String} (unbroken : IsUnbroken text) : Spelled names fun _ => text :=
  part (show Part.IsOf names (.code text) from unbroken)

/-- A text that is written out. -/
theorem literal {characters : List Char} (unbroken : '\n' ∉ characters ∧ '\r' ∉ characters) :
    Spelled names fun _ => String.ofList characters :=
  code (.ofList unbroken)

theorem append (first : Spelled names text) (rest : Spelled names other) :
    Spelled names fun texts => text texts ++ other texts := by
  obtain ⟨firstParts, firstOf, first⟩ := first
  obtain ⟨restParts, restOf, rest⟩ := rest
  refine ⟨firstParts ++ restParts, List.forall_mem_append.mpr ⟨firstOf, restOf⟩, fun texts => ?_⟩
  simp [first, rest]

theorem intercalate {β : Type} {separator : String} (separatorUnbroken : IsUnbroken separator)
    {items : List β} {write : β → Texts → String}
    (each : ∀ item ∈ items, Spelled names (write item)) :
    Spelled names fun texts => separator.intercalate (items.map (write · texts)) := by
  induction items with
  | nil => exact code ⟨by simp, by simp⟩
  | cons first rest ih =>
      rw [List.forall_mem_cons] at each
      cases rest with
      | nil => simpa using each.1
      | cons second rest =>
          simpa [String.intercalate_cons_cons] using
            (each.1.append (code separatorUnbroken)).append (ih each.2)

end Spelled

namespace Solid

variable {text other : Texts → String}

theorem code {text : String} (unbroken : IsUnbroken text) (nonempty : text ≠ "") :
    Solid names fun _ => text :=
  ⟨[.code text], ⟨⟨text, by simp, nonempty⟩, by simpa [Part.IsOf] using unbroken⟩,
    fun texts => by simp [Part.text]⟩

/-- A text that is written out and not empty. -/
theorem literal {characters : List Char}
    (unbroken : characters ≠ [] ∧ '\n' ∉ characters ∧ '\r' ∉ characters) :
    Solid names fun _ => String.ofList characters :=
  code (.ofList unbroken.2) (by simpa using unbroken.1)

theorem append (first : Solid names text) (rest : Spelled names other) :
    Solid names fun texts => text texts ++ other texts := by
  obtain ⟨firstParts, ⟨⟨code, listed, nonempty⟩, firstOf⟩, first⟩ := first
  obtain ⟨restParts, restOf, rest⟩ := rest
  refine ⟨firstParts ++ restParts, ⟨⟨code, List.mem_append_left _ listed, nonempty⟩,
    List.forall_mem_append.mpr ⟨firstOf, restOf⟩⟩, fun texts => ?_⟩
  simp [first, rest]

/-- What has text that does not depend on the texts is not empty. -/
theorem of_append (first : Spelled names text) (rest : Solid names other) :
    Solid names fun texts => text texts ++ other texts := by
  obtain ⟨firstParts, firstOf, first⟩ := first
  obtain ⟨restParts, ⟨⟨code, listed, nonempty⟩, restOf⟩, rest⟩ := rest
  refine ⟨firstParts ++ restParts, ⟨⟨code, List.mem_append_right _ listed, nonempty⟩,
    List.forall_mem_append.mpr ⟨firstOf, restOf⟩⟩, fun texts => ?_⟩
  simp [first, rest]

end Solid

/-- A line that is not blank is not empty, whatever the texts. -/
theorem Line.text_ne_empty {line : Line} (isOf : line.IsOf names) (filled : line ≠ .blank)
    (texts : Texts) : line.text language texts ≠ "" := by
  cases line with
  | blank => exact absurd rfl filled
  | comment margin text =>
      intro empty
      have := (String.append_eq_empty_iff.mp empty).2
      cases language <;> simp [Language.comment] at this
  | parts items =>
      obtain ⟨⟨text, listed, nonempty⟩, -⟩ := isOf
      intro empty
      rw [Line.text, ← String.toList_eq_nil_iff, String.toList_join,
        List.flatMap_eq_nil_iff] at empty
      exact nonempty (String.toList_eq_nil_iff.mp (empty _ (List.mem_map_of_mem listed)))

/-- A line inside another one. -/
def Line.indented (language : Language) : Line → Line
  | .blank => .blank
  | .comment margin text => .comment (language.margin ++ margin) text
  | .parts items => .parts (.code language.margin :: items)

theorem Line.IsOf.indented {line : Line} (isOf : line.IsOf names) :
    (line.indented language).IsOf names := by
  cases line with
  | blank => trivial
  | comment margin text =>
      have spaces : ∀ c ∈ language.margin.toList, c = ' ' := by
        cases language <;> simp [Language.margin]
      simpa [Line.indented, Line.IsOf, or_imp, forall_and] using ⟨spaces, isOf⟩
  | parts items =>
      obtain ⟨⟨text, listed, nonempty⟩, isOf⟩ := isOf
      have unbroken : IsUnbroken language.margin := by
        cases language <;> exact .ofList (by decide)
      exact ⟨⟨text, List.mem_cons_of_mem _ listed, nonempty⟩,
        List.forall_mem_cons.mpr ⟨unbroken, isOf⟩⟩

theorem Line.text_indented {line : Line} (isOf : line.IsOf names) (texts : Texts) :
    (line.indented language).text language texts =
      if (line.text language texts).isEmpty then line.text language texts
      else language.margin ++ line.text language texts := by
  cases line with
  | blank => rfl
  | comment margin text =>
      rw [if_neg (by simpa using text_ne_empty isOf (by simp) texts)]
      exact String.append_assoc
  | parts items =>
      rw [if_neg (by simpa using text_ne_empty isOf (by simp) texts)]
      exact String.join_cons

namespace Follows

variable {lines others : Texts → List String}

theorem nil : Follows language names fun _ => [] := ⟨[], by simp, fun _ => rfl⟩

theorem line {text : Texts → String} (solid : Solid names text) :
    Follows language names fun texts => [text texts] := by
  obtain ⟨parts, isOf, same⟩ := solid
  exact ⟨[.parts parts], by simpa using isOf, fun texts => by simp [Line.text, same]⟩

theorem comment (text : String) :
    Follows language names fun texts => [language.comment (texts.comment text)] :=
  ⟨[.comment "" text], by simp [Line.IsOf], fun texts => by simp [Line.text]⟩

theorem append (first : Follows language names lines) (rest : Follows language names others) :
    Follows language names fun texts => lines texts ++ others texts := by
  obtain ⟨firstTemplate, firstOf, first⟩ := first
  obtain ⟨restTemplate, restOf, rest⟩ := rest
  refine ⟨firstTemplate ++ restTemplate, List.forall_mem_append.mpr ⟨firstOf, restOf⟩,
    fun texts => ?_⟩
  rw [List.map_append, ← first, ← rest]

theorem cons {text : Texts → String} (solid : Solid names text)
    (rest : Follows language names lines) :
    Follows language names fun texts => text texts :: lines texts :=
  (line solid).append rest

theorem blank (rest : Follows language names lines) :
    Follows language names fun texts => "" :: lines texts := by
  obtain ⟨template, isOf, same⟩ := rest
  exact ⟨.blank :: template, by simpa [Line.IsOf] using isOf,
    fun texts => by simp [Line.text, same]⟩

/-- Lines that are the same whatever the texts. -/
theorem fixed {lines : List String} (unbroken : ∀ line ∈ lines, IsUnbroken line) :
    Follows language names fun _ => lines := by
  induction lines with
  | nil => exact nil
  | cons first rest ih =>
      rw [List.forall_mem_cons] at unbroken
      by_cases empty : first = ""
      · rw [empty]
        exact blank (ih unbroken.2)
      · exact cons (.code unbroken.1 empty) (ih unbroken.2)

theorem flatMap {β : Type} {items : List β} {write : β → Texts → List String}
    (each : ∀ item ∈ items, Follows language names (write item)) :
    Follows language names fun texts => items.flatMap (write · texts) := by
  induction items with
  | nil => exact nil
  | cons first rest ih =>
      rw [List.forall_mem_cons] at each
      simpa using each.1.append (ih each.2)

theorem map {β : Type} {items : List β} {write : β → Texts → String}
    (each : ∀ item ∈ items, Solid names (write item)) :
    Follows language names fun texts => items.map (write · texts) := by
  induction items with
  | nil => exact nil
  | cons first rest ih =>
      rw [List.forall_mem_cons] at each
      simpa using (line each.1).append (ih each.2)

/-- Indenting moves comments behind a wider margin. -/
theorem indented (follows : Follows language names lines) :
    Follows language names fun texts => language.indented (lines texts) := by
  obtain ⟨template, isOf, same⟩ := follows
  refine ⟨template.map (Line.indented language), ?_, fun texts => ?_⟩
  · rw [List.forall_mem_map]
    exact fun line listed => (isOf line listed).indented
  · dsimp only
    rw [same, Language.indented, indentedBy, List.map_map, List.map_map]
    exact List.map_congr_left fun line listed => (Line.text_indented (isOf line listed) texts).symm

end Follows

/-! ## Terms, tests and statements -/

theorem isUnbroken_ownName {base : String} (unbroken : IsUnbroken base) (handle : Nat) :
    IsUnbroken (ownName base handle) := by
  simp only [ownName, IsUnbroken.append_iff]
  exact ⟨⟨unbroken, by decide⟩, isUnbroken_digitsOf handle⟩

theorem isUnbroken_fieldName (field : Field) : IsUnbroken field.name :=
  isUnbroken_ownName (by cases field.role <;> decide) field.handle

theorem isUnbroken_field (language : Language) (field : Field) :
    IsUnbroken (language.field field) := by
  have name := isUnbroken_fieldName field
  cases language with
  | python => exact (IsUnbroken.append (by decide) name).append (by decide)
  | c => exact .append (by decide) name

theorem isUnbroken_localName (name : Local) : IsUnbroken name.name := by
  cases name with
  | candidate => decide
  | rate handle | result handle => exact isUnbroken_ownName (by decide) handle

theorem isUnbroken_ahead (language : Language) (idx : Field) (steps size : Nat) :
    IsUnbroken (language.ahead idx steps size) := by
  simp only [Language.ahead, IsUnbroken.append_iff]
  exact ⟨⟨by decide, isUnbroken_field language idx⟩, ⟨⟨by decide, isUnbroken_digitsOf steps⟩,
    by decide⟩, isUnbroken_digitsOf size⟩

theorem isUnbroken_place (language : Language) (place : Place) :
    IsUnbroken (language.place place) := by
  cases place with
  | «at» place => exact isUnbroken_digitsOf place
  | cursor idx => exact isUnbroken_field language idx
  | ahead idx steps size => exact isUnbroken_ahead language idx steps size

theorem isUnbroken_item (language : Language) (array : Field) {place : String}
    (unbroken : IsUnbroken place) : IsUnbroken (language.field array ++ "[" ++ place ++ "]") := by
  simp only [IsUnbroken.append_iff]
  exact ⟨⟨⟨isUnbroken_field language array, by decide⟩, unbroken⟩, by decide⟩

theorem isUnbroken_literal (value : Float) : IsUnbroken (literal value) := by
  unfold literal
  dsimp only
  split
  · simp only [IsUnbroken.append_iff]
    exact ⟨⟨by decide, isUnbroken_shortest value⟩, by decide⟩
  · exact isUnbroken_shortest value

theorem isUnbroken_output (handle : Nat) : IsUnbroken (Language.output handle) := by
  simp only [Language.output, IsUnbroken.append_iff]
  exact ⟨⟨by decide, isUnbroken_digitsOf handle⟩, by decide⟩

theorem isUnbroken_relation (relation : Relation) : IsUnbroken relation.text := by
  cases relation <;> decide

theorem isUnbroken_function (language : Language) {name : String}
    (unbroken : IsUnbroken name) : IsUnbroken (language.function name) := by
  unfold Language.function
  split <;> first | decide | exact unbroken

theorem isUnbroken_settled (handle : Nat) : IsUnbroken (Language.settled handle) := by
  simp only [Language.settled, IsUnbroken.append_iff]
  exact ⟨⟨by decide, isUnbroken_digitsOf handle⟩, by decide⟩

theorem Spelled.wrapped {text : Texts → String} (spelled : Spelled names text) (needed : Bool) :
    Spelled names fun texts => Language.wrapped needed (text texts) := by
  cases needed
  · exact spelled
  · exact ((Spelled.literal (by decide)).append spelled).append (.literal (by decide))

theorem Spelled.compared {text other : Texts → String} (first : Spelled names text)
    (relation : Relation) (rest : Spelled names other) :
    Spelled names fun texts => text texts ++ " " ++ relation.text ++ " " ++ other texts :=
  (((first.append (.literal (by decide))).append (.code (isUnbroken_relation relation))).append
    (.literal (by decide))).append rest

/-- A term is made of its names and of fixed text. -/
theorem spelled_termAt (language : Language) (level : Nat) {term : Term Float}
    (listed : term.names ⊆ names) :
    Spelled names fun texts => language.termAt level (term.rewrite texts) := by
  induction term generalizing level with
  | number value => exact .code (isUnbroken_literal value)
  | time | step => exact .literal (by decide)
  | pi => cases language <;> exact .literal (by decide)
  | output handle => exact .code (isUnbroken_output handle)
  | field read => exact .code (isUnbroken_field language read)
  | item array place =>
      exact .code (isUnbroken_item language array (isUnbroken_place language place))
  | localValue name => exact .code (isUnbroken_localName name)
  | external name =>
      have isName : Spelled names fun texts => texts.name name :=
        .part (show Part.IsOf names (.name name) from listed List.mem_cons_self)
      cases language <;> exact ((Spelled.literal (by decide)).append isName).append (.literal (by decide))
  | add a b iha ihb | sub a b iha ihb =>
      simp only [Term.names, List.append_subset] at listed
      exact (((iha 1 listed.1).append (.literal (by decide))).append (ihb 2 listed.2)).wrapped _
  | mul a b iha ihb | div a b iha ihb =>
      simp only [Term.names, List.append_subset] at listed
      exact (((iha 2 listed.1).append (.literal (by decide))).append (ihb 3 listed.2)).wrapped _
  | sin a ih | abs a ih =>
      exact (((Spelled.code (isUnbroken_function language (by decide))).append
        (.literal (by decide))).append (ih 1 listed)).append (.literal (by decide))
  | min a b iha ihb | max a b iha ihb =>
      simp only [Term.names, List.append_subset] at listed
      exact (((((Spelled.code (isUnbroken_function language (by decide))).append
        (.literal (by decide))).append (iha 1 listed.1)).append (.literal (by decide))).append
          (ihb 1 listed.2)).append (.literal (by decide))
  | choice relation a b ifTrue ifFalse iha ihb ihTrue ihFalse =>
      simp only [Term.names, List.append_subset] at listed
      obtain ⟨⟨⟨inA, inB⟩, inTrue⟩, inFalse⟩ := listed
      have test := (iha 1 inA).compared relation (ihb 1 inB)
      cases language with
      | python =>
          exact ((((((Spelled.literal (by decide)).append (ihTrue 1 inTrue)).append
            (.literal (by decide))).append test).append (.literal (by decide))).append
              (ihFalse 1 inFalse)).append (.literal (by decide))
      | c =>
          exact ((((((Spelled.literal (by decide)).append test).append (.literal (by decide))).append
            (ihTrue 1 inTrue)).append (.literal (by decide))).append (ihFalse 1 inFalse)).append
              (.literal (by decide))
  | grouped a ih =>
      exact ((Spelled.literal (by decide)).append (ih 1 listed)).append (.literal (by decide))

theorem spelled_test (language : Language) {test : Test Float} (listed : test.names ⊆ names) :
    Spelled names fun texts => language.test (test.rewrite texts) := by
  cases test with
  | compare relation a b =>
      simp only [Test.names, List.append_subset] at listed
      exact (spelled_termAt language 1 listed.1).compared relation
        (spelled_termAt language 1 listed.2)
  | settled handles =>
      have marks : ∀ text ∈ handles.map Language.settled, IsUnbroken text := by
        simpa using fun handle _ => isUnbroken_settled handle
      cases language <;> exact .code (.intercalate (by decide) marks)
  | stale handle =>
      have stored : Spelled names fun _ => Language.output handle :=
        .code (isUnbroken_output handle)
      have marked : Spelled names fun _ => Language.settled handle :=
        .code (isUnbroken_settled handle)
      cases language <;>
        exact ((((Spelled.literal (by decide)).append marked).append (.literal (by decide))).append
          stored).append (.literal (by decide))

theorem isUnbroken_noise (language : Language) (rng : Field) :
    IsUnbroken (language.noise rng) := by
  have state := isUnbroken_field language rng
  cases language
  · exact IsUnbroken.append_iff.mpr ⟨IsUnbroken.append_iff.mpr ⟨by decide, state⟩, by decide⟩
  · exact IsUnbroken.append_iff.mpr ⟨IsUnbroken.append_iff.mpr ⟨by decide, state⟩, by decide⟩

theorem isUnbroken_counting (language : Language) (counting : Counting) :
    IsUnbroken (counting.text language) := by
  cases counting <;> cases language <;>
    exact IsUnbroken.append_iff.mpr ⟨IsUnbroken.append_iff.mpr ⟨by decide,
      isUnbroken_digitsOf _⟩, by decide⟩

/-- A loop over an array gives the array twice in its body. -/
theorem isUnbroken_lines (language : Language) {array : String} (unbroken : IsUnbroken array)
    (shift : Shift) : ∀ line ∈ shift.lines language array, IsUnbroken line := by
  have start := isUnbroken_counting language shift.counting
  have source : IsUnbroken shift.source.text := by
    cases shift.source <;> decide
  have assigns : IsUnbroken "[i] = " := by decide
  unfold Shift.lines
  split
  · exact nofun
  · cases language with
    | python =>
        have margin : IsUnbroken "    " := by decide
        simp only [List.forall_mem_cons, IsUnbroken.append_iff]
        exact ⟨start, ⟨⟨⟨⟨margin, unbroken⟩, assigns⟩, unbroken⟩, source⟩, nofun⟩
    | c =>
        have ends : IsUnbroken ";" := by decide
        simp only [List.forall_mem_cons, IsUnbroken.append_iff]
        exact ⟨⟨⟨⟨⟨⟨start, unbroken⟩, assigns⟩, unbroken⟩, source⟩, ends⟩, nofun⟩

theorem isUnbroken_target (language : Language) (target : Target) :
    IsUnbroken (language.target target) := by
  cases target with
  | output handle => exact isUnbroken_output handle
  | field stored => exact isUnbroken_field language stored
  | item array place => exact isUnbroken_item language array (isUnbroken_digitsOf place)
  | ahead array idx steps size =>
      exact isUnbroken_item language array (isUnbroken_ahead language idx steps size)

/-- A statement that ends here has a line of its own. -/
theorem Follows.ended {text : Texts → String} (solid : Solid names text) :
    Follows language names fun texts => [language.ended (text texts)] := by
  cases language with
  | python => exact line solid
  | c => exact line (solid.append (.literal (by decide)))

theorem Follows.branch {test : Texts → String} {body : Texts → List String}
    (spelled : Spelled names test) (follows : Follows language names body) :
    Follows language names fun texts => language.branch (test texts) (body texts) := by
  cases language with
  | python =>
      exact cons (((Solid.literal (by decide)).append spelled).append (.literal (by decide)))
        follows.indented
  | c =>
      exact (cons (((Solid.literal (by decide)).append spelled).append
        (.literal (by decide))) follows.indented).append (fixed (by decide))

/-- Whether there are lines in a scope does not depend on the texts. -/
theorem Follows.scope {body : Texts → List String} (follows : Follows language names body) :
    Follows language names fun texts => language.scope (body texts) := by
  cases language with
  | python => exact follows
  | c =>
      have indented := follows.indented
      obtain ⟨template, isOf, same⟩ := follows
      by_cases empty : template = []
      · exact ⟨[], by simp, fun texts => by simp [Language.scope, same, empty]⟩
      · have filled (texts : Texts) : ¬ (body texts).isEmpty = true := by simp [same, empty]
        simp only [Language.scope, if_neg (filled _)]
        exact (cons (.literal (by decide)) indented).append (fixed (by decide))

mutual

/-- The lines of a statement come from one template. -/
theorem follows_statement (language : Language) : (statement : Statement Float) →
    statement.names ⊆ names →
      Follows language names fun texts => language.statement (statement.rewrite texts)
  | .comment text, _ => by
      simp only [Statement.rewrite, Language.statement]
      exact .comment text
  | .store target value, listed => by
      simp only [Statement.rewrite, Language.statement]
      exact .ended ((Solid.of_append (.code (isUnbroken_target language target))
        (.literal (by decide))).append (spelled_termAt language 1 listed))
  | .when test body, listed => by
      simp only [Statement.names, List.append_subset] at listed
      simp only [Statement.rewrite, Language.statement]
      exact .branch (spelled_test language listed.1) (follows_statements language body listed.2)
  | .block body, listed => by
      simp only [Statement.rewrite, Language.statement]
      exact .scope (follows_statements language body listed)
  | .increase field amount, listed => by
      simp only [Statement.rewrite, Language.statement]
      exact .ended ((Solid.of_append (.code (isUnbroken_field language field))
        (.literal (by decide))).append (spelled_termAt language 1 listed))
  | .define name value, listed => by
      simp only [Statement.rewrite, Language.statement]
      have kind : IsUnbroken (match language with
          | .python => ""
          | .c => "double ") := by
        cases language <;> decide
      exact .ended ((Solid.of_append ((Spelled.code kind).append
        (.code (isUnbroken_localName name))) (.literal (by decide))).append
          (spelled_termAt language 1 listed))
  | .settle handle, _ => by
      simp only [Statement.rewrite, Language.statement]
      exact .ended ((Solid.of_append (.code (isUnbroken_settled handle))
        (.literal (by decide))).append (.code (by cases language <;> decide)))
  | .progress, _ => by
      simp only [Statement.rewrite, Language.statement]
      exact .ended ((Solid.literal (by decide)).append
        (.code (by cases language <;> decide)))
  | .advance idx size, _ => by
      simp only [Statement.rewrite, Language.statement]
      exact .ended ((Solid.of_append (.code (isUnbroken_field language idx))
        (.literal (by decide))).append (.code (isUnbroken_ahead language idx 1 size)))
  | .drawNoise rng, _ => by
      simp only [Statement.rewrite, Language.statement]
      exact .ended ((Solid.of_append (.code (isUnbroken_field language rng))
        (.literal (by decide))).append (.code (isUnbroken_noise language rng)))
  | .rungeKutta state handle order input, listed => by
      simp only [Statement.rewrite, Language.statement]
      have x := isUnbroken_field language state
      have a : IsUnbroken (matrixName handle) := isUnbroken_ownName (by decide) handle
      have b : IsUnbroken (vectorName handle) := isUnbroken_ownName (by decide) handle
      have u := spelled_termAt language 1 listed
      cases language with
      | python =>
          exact .line ((((((((((Solid.of_append (.code x) (.literal (by decide))).append
            (.code a)).append (.literal (by decide))).append (.code b)).append
              (.literal (by decide))).append (.code x)).append (.literal (by decide))).append u).append
                (.literal (by decide))))
      | c =>
          exact .line ((((((((((Solid.literal (by decide)).append
            (.code (isUnbroken_digitsOf order))).append (.literal (by decide))).append
              (.code a)).append (.literal (by decide))).append (.code b)).append
                (.literal (by decide))).append (.code x)).append (.literal (by decide))).append u |>.append
                  (.literal (by decide)))
  | .shiftRight array length, _ | .shiftLeft array length, _ => by
      simp only [Statement.rewrite]
      refine .fixed ?_
      rw [statement_of_shift? rfl]
      exact isUnbroken_lines language (isUnbroken_field language array) _
  | .publish name handle, listed => by
      simp only [Statement.rewrite, Language.statement]
      have isName : Spelled names fun texts => texts.name name :=
        .part (show Part.IsOf names (.name name) from listed List.mem_cons_self)
      have shown : Spelled names fun _ => Language.output handle := .code (isUnbroken_output handle)
      cases language with
      | python =>
          exact .line ((((Solid.literal (by decide)).append isName).append
            (.literal (by decide))).append shown)
      | c =>
          exact .line (((((Solid.literal (by decide)).append isName).append
            (.literal (by decide))).append shown).append (.literal (by decide)))

/-- The lines of some statements come from one template. -/
theorem follows_statements (language : Language) : (statements : List (Statement Float)) →
    namesOf statements ⊆ names →
      Follows language names fun texts => language.statements (rewriteAll texts statements)
  | [], _ => by
      simp only [rewriteAll, Language.statements]
      exact .nil
  | first :: rest, listed => by
      simp only [namesOf, List.append_subset] at listed
      simp only [rewriteAll, Language.statements]
      exact (follows_statement language first listed.1).append
        (follows_statements language rest listed.2)

end

end Templates

end SignalFlow.Code
