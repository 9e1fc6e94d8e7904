/-! # Line ends

Lines of a text file may end with a line feed, a carriage return or both; read as text
(`unifyBreaks`), every one of these is a line feed.
-/

namespace SignalFlow.Text

/-- With a line feed at the end of each line. -/
def unifyBreakList : List Char → List Char
  | '\r' :: '\n' :: rest => '\n' :: unifyBreakList rest
  | '\r' :: rest => '\n' :: unifyBreakList rest
  | c :: rest => c :: unifyBreakList rest
  | [] => []

/-- Line ends are unified already where there is no carriage return. -/
theorem unifyBreakList_of_not_mem {text : List Char} (unbroken : '\r' ∉ text) :
    unifyBreakList text = text := by
  induction text with
  | nil => rfl
  | cons c rest ih =>
      rw [List.mem_cons, not_or] at unbroken
      rw [unifyBreakList, ih unbroken.2]
      · rintro _ rfl _
        exact unbroken.1 rfl
      · rintro rfl
        exact unbroken.1 rfl

/-- With a line feed at the end of each line. -/
def unifyBreaks (text : String) : String := String.ofList (unifyBreakList text.toList)

end SignalFlow.Text
