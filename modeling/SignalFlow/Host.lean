import SignalFlow.Fault
import SignalFlow.Value

/-! # Hosts

A program runs on a machine and uses packages, and both have their say in what it does: in how deep
values may be nested and how large numbers and arrays may become, in how YAML is read and written,
and in where the roots of polynomials are found. All of this belongs to the `Host`, over which the
library is written. What is said of a program is said of it on every host.

A limit of nesting leaves out the levels of the calls that are under way when it begins to count.
-/

namespace SignalFlow

/-- How the reader of expressions can break off. -/
inductive Breakdown where
  | tooDeep
  | outOfMemory
deriving DecidableEq

/-- The fault that a breakdown is where nothing catches it. -/
def Breakdown.fault : Breakdown → Fault
  | .tooDeep => .tooDeep
  | .outOfMemory => .outOfMemory

/-- What a program finds around it. -/
class Host where
  /-- How many levels of values a list or mapping may have inside it for a text to be made of it. -/
  textDepth : Nat
  /-- How many lists and mappings may be open where JSON is read. -/
  jsonDepth : Nat
  /-- How many levels of values a list or mapping may have inside it for JSON to be made of it. -/
  jsonTextDepth : Nat
  /-- How the reader of expressions breaks off at the text of an expression, if it does. -/
  breakdown? : String → Option Breakdown
  /-- How it breaks off at the text of a file. -/
  fileBreakdown? : String → Option Breakdown
  /-- A name is no reason to break off, nor are the parentheses around it. -/
  breakdown?_letters (name : String) :
    (name.toList.all fun c => c.toNat < 128 && c.isAlpha) = true →
      breakdown? name = none ∧ breakdown? ("(" ++ name ++ ")") = none
  /-- The most binary digits that a whole number may have besides its first one. -/
  wholeBits : Nat
  /-- The length of the longest array of numbers. -/
  arrayLength : Nat
  /-- An array may have one number. -/
  arrayLength_pos : 0 < arrayLength
  /-- Lengths are written in a word. -/
  arrayLength_lt : arrayLength < 0x8000000000000000
  /-- The value of a text in YAML. A text that is refused is malformed, or has a part that is
  undefined; another fault breaks the reading off. -/
  readYaml : String → Except Fault Value
  /-- A text in YAML with a value. -/
  writeYaml : Value → Except Fault String
  /-- The poles of a transfer function with a numerator and a denominator, as their real and
  imaginary parts. -/
  poles : List Float → List Float → Except Fault (List (Float × Float))
  /-- The roots of a polynomial. -/
  roots : List Float → Except Fault (List (Float × Float))

end SignalFlow
