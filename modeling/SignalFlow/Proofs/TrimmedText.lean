import SignalFlow.Text.Blank
import Mathlib.Data.List.DropRight

/-! # Trimmed text

Trimming takes what a test accepts from both ends of a text (`Text.exists_append_trimBy`) and leaves
a text neither end of which the test accepts (`Text.isTrimmed_trimBy`). Such a text is its own
trimmed form, so trimming again changes nothing.
-/

namespace SignalFlow.Text

variable {test : Char → Bool}

/-- A test accepts neither the first nor the last character of a text. -/
structure IsTrimmed (test : Char → Bool) (text : List Char) : Prop where
  head {c : Char} : c ∈ text.head? → test c = false
  last {c : Char} : c ∈ text.getLast? → test c = false

theorem IsTrimmed.of_forall {text : List Char} (refused : ∀ c ∈ text, test c = false) :
    IsTrimmed test text where
  head member := refused _ (List.mem_of_mem_head? member)
  last member := refused _ (List.mem_of_mem_getLast? member)

theorem IsTrimmed.trimBy_eq {text : List Char} (trimmed : IsTrimmed test text) :
    trimBy test text = text := by
  have front : text.dropWhile test = text := by
    cases text with
    | nil => rfl
    | cons c rest => exact List.dropWhile_cons_of_neg (by simp [trimmed.head rfl])
  have back : text.rdropWhile test = text := by
    rw [List.rdropWhile_eq_self_iff]
    intro nonempty
    simp [trimmed.last (List.getLast?_eq_some_getLast nonempty)]
  change (text.dropWhile test).rdropWhile test = text
  rw [front, back]

/-- What trimming takes away is accepted by the test. -/
theorem exists_append_trimBy (test : Char → Bool) (text : List Char) :
    ∃ front back, text = front ++ trimBy test text ++ back ∧ (∀ c ∈ front, test c = true) ∧
      ∀ c ∈ back, test c = true := by
  refine ⟨text.takeWhile test, (text.dropWhile test).rtakeWhile test, ?_, fun c member =>
    List.mem_takeWhile_imp member, fun c member => List.mem_rtakeWhile_imp member⟩
  change text = text.takeWhile test ++ (text.dropWhile test).rdropWhile test ++ _
  rw [List.append_assoc, List.rdropWhile_append_rtakeWhile, List.takeWhile_append_dropWhile]

theorem isTrimmed_trimBy (test : Char → Bool) (text : List Char) :
    IsTrimmed test (trimBy test text) := by
  change IsTrimmed test ((text.dropWhile test).rdropWhile test)
  refine ⟨fun {c} first => ?_, fun {c} last => ?_⟩
  · -- What is left of the text starts as it did before its end was dropped.
    obtain ⟨rest, same⟩ := List.rdropWhile_prefix test (l := text.dropWhile test)
    have head : (text.dropWhile test).head? = some c := by
      rw [← same, List.head?_append, Option.mem_def.mp first, Option.some_or]
    have refused := List.head?_dropWhile_not test text
    rwa [head] at refused
  · have nonempty : (text.dropWhile test).rdropWhile test ≠ [] := List.ne_nil_of_mem
      (List.mem_of_mem_getLast? last)
    have refused := List.rdropWhile_last_not test _ nonempty
    rw [List.getLast?_eq_some_getLast nonempty] at last
    simpa [Option.some.inj last] using refused

theorem trimBy_trimBy (test : Char → Bool) (text : List Char) :
    trimBy test (trimBy test text) = trimBy test text :=
  (isTrimmed_trimBy test text).trimBy_eq

theorem trimBy_cons_of_pos {c : Char} (accepted : test c = true) (text : List Char) :
    trimBy test (c :: text) = trimBy test text := by
  rw [trimBy, List.dropWhile_cons_of_pos accepted, trimBy]

theorem trimBy_eq_nil_iff {text : List Char} :
    trimBy test text = [] ↔ ∀ c ∈ text, test c = true := by
  constructor
  · intro empty
    obtain ⟨front, back, same, accepted, others⟩ := exists_append_trimBy test text
    rw [empty, List.append_nil] at same
    rw [same]
    exact List.forall_mem_append.mpr ⟨accepted, others⟩
  · intro accepted
    rw [trimBy, List.dropWhile_eq_nil_iff.mpr accepted]
    rfl

/-- A text without blanks is trimmed. -/
theorem trim_eq_self {text : String} (solid : ∀ c ∈ text.toList, isBlank c = false) :
    trim text = text := by
  rw [trim, (IsTrimmed.of_forall solid).trimBy_eq, String.ofList_toList]

theorem trim_trim (text : String) : trim (trim text) = trim text := by
  rw [trim, trim, String.toList_ofList, trimBy_trimBy]

end SignalFlow.Text
