import SignalFlow.Host.Usual
import SignalFlow.Proofs.Completion
import SignalFlow.Proofs.TrimmedText
import SignalFlow.Proofs.ValueTexts

/-! # Coefficient lists as text

A coefficient list may be written as one text, with commas between its items and brackets around
them. Its items are what stands between any two commas of the text
(`Constants.commaParts_append_comma`), also between those of a call with several arguments. So the
text stands for the list of its items exactly if none of these has a comma
(`Constants.resolveList_bracketed`).
-/

namespace SignalFlow.Constants

/-- Texts in square brackets with commas between them. -/
def bracketed (texts : List String) : String :=
  "[" ++ ", ".intercalate texts ++ "]"

/-- A text is not blank, and neither its first nor its last visible character is a comma. -/
structure IsItem (text : String) : Prop where
  visible : Text.trim text ≠ ""
  head : (Text.trim text).toList.head? ≠ some ','
  last : (Text.trim text).toList.getLast? ≠ some ','

instance (text : String) : Decidable (IsItem text) :=
  decidable_of_iff (Text.trim text ≠ "" ∧ (Text.trim text).toList.head? ≠ some ',' ∧
      (Text.trim text).toList.getLast? ≠ some ',')
    ⟨fun ⟨visible, head, last⟩ => ⟨visible, head, last⟩,
      fun ⟨visible, head, last⟩ => ⟨visible, head, last⟩⟩

/-! ## Between commas -/

/-- A comma parts what stands before it from what stands behind it. -/
theorem commaParts_append_comma (before after : List Char) :
    commaParts (before ++ ',' :: after) = commaParts before ++ commaParts after := by
  rw [commaParts, List.splitOn_append_cons_self, List.map_append, List.filter_append]
  rfl

theorem commaParts_of_not_mem {text : List Char} (absent : ',' ∉ text) :
    commaParts text =
      [Text.trim (String.ofList text)].filter (!·.isEmpty) := by
  rw [commaParts, List.splitOn_eq_singleton absent, List.map_singleton]

/-- A blank at the front belongs to no part. -/
theorem commaParts_cons_blank {c : Char} (blank : Text.isBlank c = true) (text : List Char) :
    commaParts (c :: text) = commaParts text := by
  have other : (c == ',') = false := by
    rw [beq_eq_false_iff_ne]
    rintro rfl
    exact absurd blank (by decide)
  obtain ⟨first, rest, parts⟩ := List.exists_cons_of_ne_nil (List.splitOn_ne_nil ',' text)
  have same : Text.trim (String.ofList (c :: first)) = Text.trim (String.ofList first) := by
    rw [Text.trim, Text.trim, String.toList_ofList, String.toList_ofList,
      Text.trimBy_cons_of_pos blank]
  rw [commaParts, commaParts, List.splitOn_cons_eq_if_modifyHead, if_neg (by simp [other]), parts,
    List.modifyHead_cons, List.map_cons, List.map_cons, same]

/-- A text with a visible character besides commas has a part. -/
theorem commaParts_ne_nil {text : List Char} {c : Char} (member : c ∈ text)
    (visible : Text.isBlank c = false) (other : c ≠ ',') : commaParts text ≠ [] := by
  by_cases comma : ',' ∈ text
  · obtain ⟨before, after, parted⟩ := List.append_of_mem comma
    have lengths : text.length = before.length + (after.length + 1) := by
      rw [parted, List.length_append, List.length_cons]
    rw [parted, commaParts_append_comma, Ne, List.append_eq_nil_iff, not_and_or]
    rw [parted] at member
    rcases List.mem_append.mp member with inFront | behind
    · exact .inl (commaParts_ne_nil inFront visible other)
    · have behind := (List.mem_cons.mp behind).resolve_left other
      exact .inr (commaParts_ne_nil behind visible other)
  · have solid : Text.trim (String.ofList text) ≠ "" := by
      intro empty
      rw [Text.trim, String.toList_ofList, String.ofList_eq_empty_iff,
        Text.trimBy_eq_nil_iff] at empty
      simp [empty c member] at visible
    simp [commaParts_of_not_mem comma, solid]
termination_by text.length
decreasing_by all_goals omega

section Ends

variable {before after : List Char}
  (trimmed : Text.IsTrimmed Text.isBlank (before ++ ',' :: after))
include trimmed

/-- Something is visible before a comma if the first character is none. -/
theorem exists_visible_before (notHead : (before ++ ',' :: after).head? ≠ some ',') :
    ∃ c ∈ before, Text.isBlank c = false ∧ c ≠ ',' := by
  cases before with
  | nil => exact absurd rfl notHead
  | cons first rest =>
      refine ⟨first, List.mem_cons_self, trimmed.head rfl, ?_⟩
      rintro rfl
      exact notHead rfl

/-- Something is visible behind a comma if the last character is none. -/
theorem exists_visible_after (notLast : (before ++ ',' :: after).getLast? ≠ some ',') :
    ∃ c ∈ after, Text.isBlank c = false ∧ c ≠ ',' := by
  obtain rfl | ⟨rest, last, rfl⟩ := List.eq_nil_or_concat' after
  · exact absurd List.getLast?_concat notLast
  · have isLast : (before ++ ',' :: (rest ++ [last])).getLast? = some last := by
      rw [← List.cons_append, ← List.append_assoc, List.getLast?_concat]
    refine ⟨last, List.mem_append_right _ List.mem_cons_self, trimmed.last isLast, ?_⟩
    rintro rfl
    exact notLast isLast

end Ends

/-- An item without a comma is its only part. -/
theorem IsItem.commaParts_eq {text : String} (item : IsItem text) (absent : ',' ∉ text.toList) :
    commaParts text.toList = [Text.trim text] := by
  rw [commaParts_of_not_mem absent, String.ofList_toList]
  simp [item.visible]

/-- An item with a comma has several parts. -/
theorem IsItem.two_le_length {text : String} (item : IsItem text) (comma : ',' ∈ text.toList) :
    2 ≤ (commaParts text.toList).length := by
  obtain ⟨-, notHead, notLast⟩ := item
  rw [Text.trim, String.toList_ofList] at notHead notLast
  have trimmed := Text.isTrimmed_trimBy Text.isBlank text.toList
  obtain ⟨front, back, same, frontBlank, backBlank⟩ :=
    Text.exists_append_trimBy Text.isBlank text.toList
  generalize Text.trimBy Text.isBlank text.toList = middle at *
  have inside : ',' ∈ middle := by
    rw [same, List.mem_append, List.mem_append] at comma
    rcases comma with (inFront | inside) | inBack
    · exact absurd (frontBlank ',' inFront) (by decide)
    · exact inside
    · exact absurd (backBlank ',' inBack) (by decide)
  obtain ⟨before, after, rfl⟩ := List.append_of_mem inside
  obtain ⟨c, member, visible, other⟩ := exists_visible_before trimmed notHead
  have first : commaParts (front ++ before) ≠ [] :=
    commaParts_ne_nil (List.mem_append_right _ member) visible other
  obtain ⟨c, member, visible, other⟩ := exists_visible_after trimmed notLast
  have second : commaParts (after ++ back) ≠ [] :=
    commaParts_ne_nil (List.mem_append_left _ member) visible other
  have parted : text.toList = (front ++ before) ++ ',' :: (after ++ back) := by simp [same]
  rw [parted, commaParts_append_comma, List.length_append]
  exact Nat.add_le_add (List.length_pos_iff.mpr first) (List.length_pos_iff.mpr second)

/-! ## The items of a text -/

/-- The parts of joined texts are those of the texts. -/
theorem commaParts_intercalate (texts : List String) :
    commaParts (", ".intercalate texts).toList = texts.flatMap (commaParts ·.toList) := by
  rw [String.toList_intercalate]
  induction texts with
  | nil => decide
  | cons text rest ih =>
      cases rest with
      | nil => simp
      | cons next rest =>
          rw [List.map_cons, List.map_cons, List.intercalate_cons_cons, List.flatMap_cons, ← ih]
          have joined (before after : List Char) :
              before ++ ", ".toList ++ after = before ++ ',' :: ' ' :: after := by simp
          rw [joined, commaParts_append_comma, commaParts_cons_blank (by decide)]
          rfl

theorem listItems_bracketed (texts : List String) :
    listItems (bracketed texts) = texts.flatMap (commaParts ·.toList) := by
  have characters : (bracketed texts).toList =
      '[' :: ((", ".intercalate texts).toList ++ [']']) := by
    simp [bracketed]
  have last : (bracketed texts).toList.getLast? = some ']' := by
    rw [characters, ← List.cons_append, List.getLast?_concat]
  have trimmed : Text.IsTrimmed Text.isBlank (bracketed texts).toList := by
    refine ⟨fun isFirst => ?_, fun isLast => ?_⟩
    · rw [characters] at isFirst
      cases isFirst
      decide
    · rw [last] at isLast
      cases isLast
      decide
  rw [listItems, trimmed.trimBy_eq, characters, withoutBrackets, ← commaParts_intercalate]
  simp

/-! ## Values -/

/-- Blanks around a text do not change its value. -/
theorem resolveText_trim [Host] (constants : Constants) (text : String) :
    constants.resolveText (Text.trim text) = constants.resolveText text := by
  rw [resolveText, resolveText, Text.trim_trim]

theorem mapM_resolve_text [Host] (constants : Constants) (texts : List String) :
    (texts.map Value.text).mapM constants.resolve = texts.mapM constants.resolveText := by
  have same : constants.resolve ∘ Value.text = constants.resolveText :=
    funext constants.resolve_text
  rw [List.mapM_map, same]

theorem mapM_resolveText_trim [Host] (constants : Constants) (texts : List String) :
    (texts.map Text.trim).mapM constants.resolveText = texts.mapM constants.resolveText := by
  have same : constants.resolveText ∘ Text.trim = constants.resolveText := by
    funext text
    rw [Function.comp_apply, resolveText_trim]
  rw [List.mapM_map, same]

/-- There are as many values as there are texts. -/
theorem length_of_mapM {texts : List String} {compute : String → Except Fault Float}
    {values : List Float} (computed : texts.mapM compute = .ok values) :
    values.length = texts.length :=
  (mapM_eq_ok_iff.mp computed).length_eq.symm

section Items

variable {texts : List String} (items : ∀ text ∈ texts, IsItem text)
include items

/-- Items without commas are the items of their text. -/
theorem flatMap_commaParts (absent : ∀ text ∈ texts, ',' ∉ text.toList) :
    texts.flatMap (commaParts ·.toList) = texts.map Text.trim := by
  induction texts with
  | nil => rfl
  | cons text rest ih =>
      rw [List.forall_mem_cons] at items absent
      rw [List.flatMap_cons, List.map_cons, items.1.commaParts_eq absent.1, ih items.2 absent.2]
      rfl

/-- Items have at least as many parts as there are items, and more if one has a comma. -/
theorem length_le_flatMap_commaParts :
    texts.length ≤ (texts.flatMap (commaParts ·.toList)).length ∧
      ((∃ text ∈ texts, ',' ∈ text.toList) →
        texts.length < (texts.flatMap (commaParts ·.toList)).length) := by
  induction texts with
  | nil => simp
  | cons text rest ih =>
      rw [List.forall_mem_cons] at items
      obtain ⟨atLeast, more⟩ := ih items.2
      rw [List.flatMap_cons, List.length_append, List.length_cons, List.exists_mem_cons_iff]
      by_cases comma : ',' ∈ text.toList
      · have several := items.1.two_le_length comma
        omega
      · have single : (commaParts text.toList).length = 1 := by
          rw [items.1.commaParts_eq comma, List.length_singleton]
        refine ⟨by omega, ?_⟩
        rintro (here | later)
        · exact absurd here comma
        · have := more later
          omega

end Items

/-- **A coefficient list in text form** is cut at every comma. The values of a list are those of its
items, the values of its text those of the parts between commas, so the two agree if no item has a
comma; and only then, if the items of the list have values. -/
theorem resolveList_bracketed [Host] (constants : Constants) (texts : List String) :
    constants.resolveList (.list (texts.map .text)) = texts.mapM constants.resolveText ∧
      constants.resolveList (.text (bracketed texts)) =
        (texts.flatMap (commaParts ·.toList)).mapM constants.resolveText ∧
      ((∀ text ∈ texts, IsItem text) →
        ((∀ text ∈ texts, ',' ∉ text.toList) →
          constants.resolveList (.text (bracketed texts)) =
            constants.resolveList (.list (texts.map .text))) ∧
        ∀ values, constants.resolveList (.list (texts.map .text)) = .ok values →
          (constants.resolveList (.text (bracketed texts)) = .ok values ↔
            ∀ text ∈ texts, ',' ∉ text.toList)) := by
  have asList : constants.resolveList (.list (texts.map .text)) =
      texts.mapM constants.resolveText := mapM_resolve_text constants texts
  have asText : constants.resolveList (.text (bracketed texts)) =
      (texts.flatMap (commaParts ·.toList)).mapM constants.resolveText := by
    rw [resolveList_text, listItems_bracketed]
  refine ⟨asList, asText, fun items => ?_⟩
  rw [asText, asList]
  have agree (absent : ∀ text ∈ texts, ',' ∉ text.toList) :
      (texts.flatMap (commaParts ·.toList)).mapM constants.resolveText =
        texts.mapM constants.resolveText := by
    rw [flatMap_commaParts items absent, mapM_resolveText_trim]
  refine ⟨agree, fun values listed => ⟨fun cut text member comma => ?_, fun absent => ?_⟩⟩
  · have longer := (length_le_flatMap_commaParts items).2 ⟨text, member, comma⟩
    rw [← length_of_mapM cut, ← length_of_mapM listed] at longer
    exact Nat.lt_irrefl _ longer
  · rw [agree absent, listed]

open Host.Usual

theorem resolveList_bracketed_polynomial :
    (∀ text ∈ ["1", "2*k", "(k + 1)"], IsItem text) ∧
      (∀ text ∈ ["1", "2*k", "(k + 1)"], ',' ∉ text.toList) ∧
      bracketed ["1", "2*k", "(k + 1)"] = "[1, 2*k, (k + 1)]" ∧
      resolveList [("k", 2.0)] (.list (["1", "2*k", "(k + 1)"].map .text)) =
        .ok [1.0, 4.0, 3.0] ∧
      resolveList [("k", 2.0)] (.text "[1, 2*k, (k + 1)]") = .ok [1.0, 4.0, 3.0] := by
  have items : ∀ text ∈ ["1", "2*k", "(k + 1)"], IsItem text := by decide
  have absent : ∀ text ∈ ["1", "2*k", "(k + 1)"], ',' ∉ text.toList := by decide
  have written : bracketed ["1", "2*k", "(k + 1)"] = "[1, 2*k, (k + 1)]" := by decide
  have values : ["1", "2*k", "(k + 1)"].mapM (resolveText [("k", 2.0)]) = .ok [1.0, 4.0, 3.0] := by
    decide +kernel
  obtain ⟨asList, -, agrees⟩ := resolveList_bracketed [("k", 2.0)] ["1", "2*k", "(k + 1)"]
  rw [values] at asList
  have agree := ((agrees items).2 _ asList).mpr absent
  rw [written] at agree
  exact ⟨items, absent, written, asList, agree⟩

/-- The greater of two numbers is one item of a list, but two of its text. -/
theorem not_resolveList_bracketed_max :
    resolveList standard (.list (["max(1, 2)", "3"].map .text)) = .ok [2.0, 3.0] ∧
      bracketed ["max(1, 2)", "3"] = "[max(1, 2), 3]" ∧
      resolveList standard (.text "[max(1, 2), 3]") = .ok [0.0, 0.0, 3.0] := by
  refine ⟨?_, by decide, by decide +kernel⟩
  have listed : ["max(1, 2)", "3"].mapM standard.resolveText = .ok [2.0, 3.0] := by
    decide +kernel
  rw [← listed]
  exact mapM_resolve_text standard _

end SignalFlow.Constants
