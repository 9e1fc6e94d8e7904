import SignalFlow.Compiled.Compile
import SignalFlow.Validation.Cycles
import SignalFlow.Validation.Finding

/-! # Validating diagrams

`Diagram.findings` reports what a run of a diagram passes over in silence: connections that are
dropped, ports with several drivers or none, types that are not supported, transfer functions that
are unstable or cannot be realized, loops without delay, and inputs of the whole diagram. A finding
never keeps a diagram from running.
-/

namespace SignalFlow.Validation

variable {α : Type}

/-- Connections that are dropped. -/
def invalidConnections (diagram : Diagram String) : List Finding :=
  diagram.connections.flatMap fun connection =>
    (if diagram.ids.contains connection.source then []
      else [.unknownBlock connection .source connection.source]) ++
    (if diagram.ids.contains connection.target then []
      else [.unknownBlock connection .destination connection.target]) ++
    (if connection.targetPort < 0 then [.negativePort connection] else [])

/-- Connections that are kept. -/
def validConnections (diagram : Diagram String) : List (Connection String) :=
  diagram.connections.filter fun connection =>
    diagram.ids.contains connection.source && diagram.ids.contains connection.target &&
      0 ≤ connection.targetPort

/-- The connections to a port of a block. -/
def connectionsTo (connections : List (Connection String)) (target : String) (port : Int) :
    List (Connection String) :=
  connections.filter fun connection => connection.target == target && connection.targetPort == port

/-- Ports with several drivers, in the order of their first connections. -/
def sharedPorts (diagram : Diagram String) : List Finding :=
  let valid := validConnections diagram
  ((valid.map fun connection => (connection.target, connection.targetPort)).eraseDups).filterMap
    fun (target, port) =>
      let sharing := connectionsTo valid target port
      if 1 < sharing.length then
        sharing.getLast?.map fun last => .sharedPort target port.toNat sharing last.source
      else none

/-- Types that are not supported. -/
def unsupportedBlocks (diagram : Diagram String) : List Finding :=
  (diagram.blocks.filter (·.kind == .unsupported)).map fun block => .unsupported block.id block.type

/-- Input ports without a connection. -/
def unconnectedPorts (diagram : Diagram String) : List Finding :=
  diagram.blocks.flatMap fun block =>
    if block.kind.requiresInputs then
      ((List.range block.kind.inputs.length).filter fun (port : Nat) =>
        (connectionsTo diagram.connections block.id port).isEmpty).map fun port =>
          .unconnected block.id port (Payload.fallback block.kind)
    else []

/-- How far beyond the boundary of stability a pole must lie to count. -/
def poleTolerance : Float := 1e-9

/-- The number of poles in the right half plane. -/
def unstablePoles (poles : List (Float × Float)) : Nat :=
  poles.countP fun pole => poleTolerance < pole.1

/-- The number of poles outside the unit circle. -/
def outerPoles (poles : List (Float × Float)) : Nat :=
  poles.countP fun pole => 1.0 + poleTolerance < Binary64.norm [pole.1, pole.2]

/-- What is found about a continuous transfer function. -/
def transferFunction [Host] (constants : Constants) (block : Block String) :
    Except Fault (List Finding) := do
  let num ← constants.resolveList (block.kind.parameter block.params "num")
  let den ← constants.resolveList (block.kind.parameter block.params "den")
  if Polynomial.isZero den then return [.zeroDenominator block.id]
  let den := Polynomial.normalize den
  if den.length < 2 then return []
  let count := unstablePoles (← Host.poles (Polynomial.normalize num) den)
  return if count == 0 then [] else [.unstablePoles block.id count]

/-- What is found about a discrete transfer function. -/
def discreteTransferFunction [Host] (constants : Constants) (block : Block String) :
    Except Fault (List Finding) := do
  let den ← constants.resolveList (block.kind.parameter block.params "den")
  if Polynomial.isZero den then return []
  let den := Polynomial.normalize den
  if den.length < 2 then return []
  let count := outerPoles (← Host.roots den)
  return if count == 0 then [] else [.unstableDiscretePoles block.id count]

/-- What a check finds about the blocks of a kind. -/
def blocksOf (diagram : Diagram String) (kind : Kind)
    (check : Block String → Except Fault (List Finding)) : Except Fault (List Finding) := do
  return ((← (diagram.blocks.filter (·.kind == kind)).mapM check)).flatten

/-- Loops without delay. -/
def algebraicLoops (compiled : Compiled α) : List Finding :=
  (Cycles.loops compiled).map fun members =>
    .algebraicLoop (members.filterMap fun handle => compiled.nodes[handle]?.map (·.id))

/-- Inputs of the whole diagram. -/
def externalInputs (compiled : Compiled α) : List Finding :=
  (compiled.nodes.toList.filter (·.external)).map fun node =>
    .externalInput node.id (node.label.getD "")

/-- What is found in a diagram whose compiled form is known. -/
def findingsOf [Host] (diagram : Diagram String) (compiled : Compiled α) :
    Except Fault (List Finding) := do
  let continuous ← blocksOf diagram .tf (transferFunction compiled.constants)
  let discrete ← blocksOf diagram .dtf (discreteTransferFunction compiled.constants)
  return invalidConnections diagram ++ sharedPorts diagram ++ unsupportedBlocks diagram ++
    unconnectedPorts diagram ++ continuous ++ discrete ++ algebraicLoops compiled ++
    externalInputs compiled

/-- Compiles a diagram and tells what is found in it. -/
def findings [Host] (diagram : Diagram String) : Noted Fault (List Finding) := do
  let compiled : Compiled Float ←
    Compiled.ofDiagram diagram Compiled.standardDt Compiled.standardRuntime
  .ofExcept (findingsOf diagram compiled)

/-- Whether there is an error among some findings. -/
def hasErrors (findings : List Finding) : Bool := findings.any (·.severity == .error)

/-- Whether there is a warning among some findings. -/
def hasWarnings (findings : List Finding) : Bool := findings.any (·.severity == .warning)

/-- The number of findings of a severity. -/
def count (findings : List Finding) (severity : Severity) : Nat :=
  (findings.filter (·.severity == severity)).length

end SignalFlow.Validation
