import SignalFlow.Code.Language

/-! # Faults

Why a computation breaks off (`Fault`). The simulation core is meant to give a number for every
input; a fault is what remains where it cannot.
-/

namespace SignalFlow

/-- Why a computation breaks off. -/
inductive Fault where
  /-- A number too large for the form it is needed in. -/
  | tooLarge
  /-- A function at a point where it is not defined. -/
  | undefined
  /-- A value of the wrong kind. -/
  | wrongKind
  /-- A place beyond the end of a list. -/
  | outOfRange
  /-- A name that nothing has. -/
  | missingName
  /-- A model where there is none. -/
  | missingModel
  /-- More than there is memory for. -/
  | outOfMemory
  /-- More levels of nesting than there is room for. -/
  | tooDeep
  /-- A text that is not well-formed. -/
  | malformed
  | duplicateBlock (id : String)
  /-- A limit of less than one pass. -/
  | noPasses
  | columnLength (name : String) (values times : Nat)
  | unknownLanguage (name : String)
deriving DecidableEq, Inhabited

/-- The languages that code can be generated for, as messages list them. -/
def languageNames : List String := Language.all.map Language.name

/-- The words of a fault, if it has any. -/
def Fault.message? : Fault → Option String
  | .duplicateBlock id => some ("Duplicate block id '" ++ id ++ "'")
  | .noPasses => some "max_iterations must be at least 1"
  | .columnLength name values times =>
      some s!"column '{name}' has {values} values for {times} times"
  | .unknownLanguage name =>
      some (s!"Unknown export language '{name}', expected one of ['" ++
        "', '".intercalate languageNames ++ "']")
  | _ => none

end SignalFlow
