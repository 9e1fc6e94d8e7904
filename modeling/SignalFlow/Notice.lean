import SignalFlow.Fault
import SignalFlow.Value

/-! # Notices

What the library tells its user besides its results (`Notice`), with the words for it, and
computations that leave notices (`Noted`). A computation that breaks off keeps the notices it has
left so far.
-/

namespace SignalFlow

/-- What the user is told besides the result. -/
inductive Notice where
  | unorderedTimes
  | improper (numeratorDegree denominatorDegree : Nat)
  | zeroDiscreteDenominator
  | zeroDenominator (denominator : List Float)
  | unknownCondition (text : String)
  | unsettled (passes : Nat) (time : Float)
  | dangling (source target : String)
  | negativePort (source target : String) (port : Int)
  | secondDriver (port : Int) (target kept : String)
  | unsupportedType (id typeName : String)
  | exportedAsZero (id typeName : String)
  | renamed (id fresh : String)
  | skippedLine (line : Nat) (path : String)
  | workspaceMissing (path : String)
  | workspaceMalformed
  | configMissing (path : String)
  | configUnreadable
  | configNotObject (path : String)
  | configNotWritten
  | notSection (path key : String)

/-- How serious a notice is. -/
inductive Level where
  | warning | error
deriving DecidableEq

/-- The name of a level. -/
def Level.name : Level → String
  | .warning => "WARNING"
  | .error => "ERROR"

/-- The text of a whole number. -/
def wholeText (n : Int) : String := (Value.int n).quoted

namespace Notice

/-- How serious a notice is. -/
def level : Notice → Level
  | .workspaceMissing _ | .workspaceMalformed | .configUnreadable | .configNotObject _
  | .configNotWritten | .notSection .. => .error
  | _ => .warning

/-- The words of a notice. -/
def words : Notice → String
  | .unorderedTimes => "Input times are not ascending; rows out of order are never selected"
  | .improper num den =>
      s!"Improper transfer function (num degree {num} > den degree {den}); " ++
        s!"keeping the {den + 1} lowest-order numerator terms"
  | .zeroDiscreteDenominator =>
      "Discrete transfer function has an all-zero denominator; using [1]"
  | .zeroDenominator den =>
      s!"Transfer function {(Value.list (den.map Value.float)).quoted} " ++
        "has an all-zero denominator; output is 0"
  | .unknownCondition text => s!"Unknown switch condition '{text}', using 'ge'"
  | .unsettled passes time =>
      s!"Algebraic loop did not settle within {passes} passes at t=" ++
        s!"{Decimal.fixed 6 time}; using last values"
  | .dangling source target => s!"Dropping dangling connection {source} -> {target}"
  | .negativePort source target port =>
      s!"Dropping connection {source} -> {target} to negative port {wholeText port}"
  | .secondDriver port target kept =>
      s!"Port {wholeText port} of '{target}' has more than one driver; keeping '{kept}'"
  | .unsupportedType id typeName =>
      s!"Block '{id}' has unsupported type '{typeName}'; it outputs 0.0"
  | .exportedAsZero id typeName => s!"Block '{id}' ({typeName}) is exported as a constant 0.0"
  | .renamed id fresh => s!"Duplicate block id '{id}' renamed to '{fresh}'"
  | .skippedLine line path => s!"Skipping non-assignment on line {line} of {path}"
  | .workspaceMissing path => s!"Workspace file not found: {path}"
  | .workspaceMalformed => "Error loading workspace file"
  | .configMissing path => s!"Configuration file {path} not found, using defaults"
  | .configUnreadable => "Error loading configuration"
  | .configNotObject path => s!"Configuration file {path} must hold a JSON object"
  | .configNotWritten => "Error saving configuration"
  | .notSection path key => s!"Error setting config key {path}: '{key}' is not a section"

/-- A notice with its level. -/
def message (notice : Notice) : String :=
  notice.level.name ++ " " ++ notice.words

end Notice

/-- A computation that leaves notices and may break off. -/
abbrev Noted (ε : Type) := ExceptT ε (StateM (List Notice))

/-- Leaves a notice. -/
def note {ε : Type} (notice : Notice) : Noted ε Unit :=
  modify (· ++ [notice])

/-- A computation without notices. -/
def Noted.ofExcept {ε α : Type} (result : Except ε α) : Noted ε α :=
  liftExcept result

end SignalFlow
