import SignalFlow.Diagram.Basic

/-! # Findings

What the validation of a diagram reports (`Finding`): a cause with the blocks and connections it
concerns, a severity, the words for it and, for most causes, a suggestion.
-/

namespace SignalFlow

/-- How serious a finding is. -/
inductive Severity where
  | error | warning | info
deriving DecidableEq

namespace Severity

/-- The name of a severity. -/
def name : Severity → String
  | .error => "error"
  | .warning => "warning"
  | .info => "info"

/-- The name of a severity in front of a message. -/
def tag (severity : Severity) : String := String.ofList (severity.name.toList.map Char.toUpper)

end Severity

/-- The end of a connection. -/
inductive End where
  | source | destination
deriving DecidableEq

/-- The name of an end. -/
def End.name : End → String
  | .source => "source"
  | .destination => "destination"

/-- What is found in a diagram. Ports are counted from zero. -/
inductive Finding where
  | unknownBlock (connection : Connection String) (place : End) (id : String)
  | negativePort (connection : Connection String)
  | sharedPort (block : String) (port : Nat) (connections : List (Connection String))
      (used : String)
  | unsupported (block type : String)
  | unconnected (block : String) (port : Nat) (reads : Float)
  | zeroDenominator (block : String)
  | unstablePoles (block : String) (count : Nat)
  | unstableDiscretePoles (block : String) (count : Nat)
  | algebraicLoop (blocks : List String)
  | externalInput (block label : String)

namespace Finding

/-- How serious a finding is. -/
def severity : Finding → Severity
  | .sharedPort .. => .error
  | .unknownBlock .. | .negativePort .. | .unsupported .. | .zeroDenominator ..
  | .algebraicLoop .. => .warning
  | .unconnected .. | .unstablePoles .. | .unstableDiscretePoles .. | .externalInput .. => .info

/-- A connection in words. -/
def arrow (connection : Connection String) : String :=
  connection.source ++ " -> " ++ connection.target

/-- A finding in words. -/
def message : Finding → String
  | .unknownBlock connection place id =>
      s!"Connection {arrow connection} references non-existent {place.name} block '{id}'"
  | .negativePort connection =>
      s!"Connection {arrow connection} targets negative input port " ++
        (Value.int connection.targetPort).quoted
  | .sharedPort block port connections used =>
      s!"Block '{block}' input port {port + 1} has {connections.length} connections; " ++
        s!"only the one from '{used}' is used"
  | .unsupported block type => s!"Block '{block}' has unsupported type '{type}' and outputs 0.0"
  | .unconnected block port reads =>
      s!"Block '{block}' input port {port + 1} is not connected and reads {Decimal.shortest reads}"
  | .zeroDenominator block =>
      s!"Transfer function '{block}' has an all-zero denominator and outputs 0.0"
  | .unstablePoles block count =>
      s!"Transfer function '{block}' has {count} pole(s) in the right half plane"
  | .unstableDiscretePoles block count =>
      s!"Discrete transfer function '{block}' has {count} pole(s) outside the unit circle"
  | .algebraicLoop blocks =>
      "Algebraic loop through " ++ ", ".intercalate blocks ++
        " has no delay or label bus and reads 0.0"
  | .externalInput block label =>
      s!"Label source '{block}' has no matching sink; '{label}' is an external input"

/-- What the user may do about a finding. -/
def suggestion : Finding → Option String
  | .unknownBlock .. => some "Delete this connection; it is ignored during simulation"
  | .negativePort _ =>
      some "Use port indices starting at 0; this connection is ignored during simulation"
  | .sharedPort _ port _ _ => some s!"Remove all but one connection to input port {port + 1}"
  | .unsupported .. => some "Replace it with a supported block type"
  | .zeroDenominator _ => some "Give the denominator at least one non-zero coefficient"
  | .algebraicLoop _ =>
      some "Break the loop with a memory block or route it through a label bus"
  | _ => none

/-- The blocks that a finding concerns. -/
def blocks : Finding → List String
  | .unknownBlock .. | .negativePort _ => []
  | .sharedPort block .. | .unsupported block _ | .unconnected block .. | .zeroDenominator block
  | .unstablePoles block _ | .unstableDiscretePoles block _ | .externalInput block _ => [block]
  | .algebraicLoop blocks => blocks

/-- The connections that a finding concerns. -/
def connections : Finding → List (Connection String)
  | .unknownBlock connection .. | .negativePort connection => [connection]
  | .sharedPort _ _ connections _ => connections
  | _ => []

/-- A finding with its severity. -/
def text (finding : Finding) : String := s!"[{finding.severity.tag}] {finding.message}"

end Finding

end SignalFlow
