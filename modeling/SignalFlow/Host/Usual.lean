import SignalFlow.Json.Writer
import SignalFlow.Validation.Poles
import SignalFlow.Yaml.Reader

/-! # A usual host

`Host.Usual.host` is a host to run programs on. Its limits are those of a machine and a reader of
common size. What packages do is stood in for by what the library has itself: of YAML the part that
it reads, JSON where YAML is written, and of the roots of a polynomial only those beyond the
boundary of stability, each in the same place.
-/

namespace SignalFlow.Host.Usual

/-- Whether a character is a sign that may stand before an operand. -/
def isSign (c : Char) : Bool := ['+', '-', '~'].contains c

/-- The length of the longest run of signs in a text, where one of a length goes on at its start;
blanks do not end a run. -/
def longestRun (length : Nat) : List Char → Nat
  | [] => length
  | c :: rest =>
      if isSign c then longestRun (length + 1) rest
      else if c == ' ' then longestRun length rest
      else Nat.max length (longestRun 0 rest)

/-- How a reader breaks off at a text: every sign before an operand is one more level. -/
def signBreakdown? (text : String) : Option Breakdown :=
  let levels := longestRun 0 text.toList
  if 6000 ≤ levels then some .outOfMemory
  else if 3000 ≤ levels then some .tooDeep
  else none

theorem longestRun_of_not_isSign {text : List Char} (plain : ∀ c ∈ text, isSign c = false) :
    longestRun 0 text = 0 := by
  induction text with
  | nil => rfl
  | cons c rest ih =>
      obtain ⟨first, others⟩ := List.forall_mem_cons.mp plain
      rw [longestRun, first, if_neg Bool.false_ne_true, ih others]
      split <;> rfl

theorem signBreakdown?_eq_none {text : String} (plain : ∀ c ∈ text.toList, isSign c = false) :
    signBreakdown? text = none := by
  rw [signBreakdown?, longestRun_of_not_isSign plain]
  rfl

theorem isSign_of_isAlpha {c : Char} (letter : c.isAlpha = true) : isSign c = false := by
  refine Bool.eq_false_iff.mpr fun sign => ?_
  rw [isSign, List.contains_iff_mem] at sign
  simp only [List.mem_cons, List.not_mem_nil, or_false] at sign
  obtain rfl | rfl | rfl := sign <;> exact absurd letter (by decide)

/-- A host of the usual size. -/
scoped instance host : Host where
  textDepth := 980
  jsonDepth := 980
  jsonTextDepth := 980
  breakdown? := signBreakdown?
  fileBreakdown? := signBreakdown?
  breakdown?_letters name letters := by
    have plain (c : Char) (member : c ∈ name.toList) : isSign c = false := by
      have letter := List.all_eq_true.mp letters c member
      exact isSign_of_isAlpha (Bool.and_eq_true_iff.mp letter).2
    refine ⟨signBreakdown?_eq_none plain, signBreakdown?_eq_none fun c member => ?_⟩
    simp only [String.toList_append, List.mem_append] at member
    obtain (opening | inside) | closing := member
    · rw [List.mem_singleton.mp opening]
      rfl
    · exact plain c inside
    · rw [List.mem_singleton.mp closing]
      rfl
  wholeBits := 0x100000000
  arrayLength := 0x400000000
  arrayLength_pos := by decide
  arrayLength_lt := by decide
  readYaml text := (Yaml.parse? text).elim (.error .malformed) .ok
  writeYaml value := .ok (Json.indented 4 value)
  poles _ denominator := .ok (List.replicate (Poles.unstable denominator) (1.0, 0.0))
  roots polynomial := .ok (List.replicate (Poles.outsideCircle polynomial) (2.0, 0.0))

/-- A file without a long run of signs is read. -/
theorem fileBreakdown?_ofList {text : List Char} (short : longestRun 0 text < 3000) :
    Host.fileBreakdown? (String.ofList text) = none := by
  change signBreakdown? _ = none
  rw [signBreakdown?, String.toList_ofList, if_neg (by omega), if_neg (by omega)]

end SignalFlow.Host.Usual
