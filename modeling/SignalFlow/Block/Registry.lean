import SignalFlow.Block.Schema

/-! # The registry of block implementations

Every kind has exactly one implementation. `Registry.build` checks that of a list of kinds;
`Registry.standard` is the list in the order in which the implementations are found.
-/

namespace SignalFlow

/-- The name under which a kind's implementation is registered. -/
def Kind.implementation (kind : Kind) : String :=
  match kind with
  | .mult => "ProductBlock"
  | .saturation => "SaturationBlock"
  | .derivative => "DerivativeBlock"
  | .lpf => "LowPassFilterBlock"
  | .hpf => "HighPassFilterBlock"
  | .tf => "TransferFunctionBlock"
  | .zoh => "ZeroOrderHoldBlock"
  | .foh => "FirstOrderHoldBlock"
  | .dtf => "DiscreteTransferFunctionBlock"
  | .rate => "RateLimiterBlock"
  | kind => kind.title ++ "Block"

/-- Why a list of kinds is no registry. -/
inductive RegistryError where
  | missing (kinds : List Kind)
  | repeated (kind : Kind)

/-- The words of an error. -/
def RegistryError.message : RegistryError → String
  | .missing kinds => "No block implementation for kind(s): " ++
      ", ".intercalate (kinds.map Kind.typeName)
  | .repeated kind => s!"Block kind '{kind.typeName}' is implemented by both " ++
      s!"{kind.implementation} and {kind.implementation}"

namespace Registry

/-- The kinds in the order in which their implementations are found. -/
def standard : List Kind :=
  [.backlash, .chirp, .constant, .ddelay, .derivative, .dstateSpace, .dtf, .fileSink, .foh,
   .labelSource, .gain, .labelSink, .hpf, .impulse, .integrator, .lpf, .noise, .pid, .mult, .ramp,
   .rate, .saturation, .scope, .sine, .stateSpace, .step, .sum, .switch, .tf, .delay, .unsupported,
   .zoh]

/-- The first kind of a list that stands in it before. -/
def firstRepeated? : List Kind → List Kind → Option Kind
  | _, [] => none
  | seen, kind :: rest =>
      if seen.contains kind then some kind else firstRepeated? (kind :: seen) rest

/-- The registry of some kinds, which has each kind once. -/
def build (kinds : List Kind) : Except RegistryError (List Kind) :=
  match firstRepeated? [] kinds with
  | some kind => .error (.repeated kind)
  | none =>
      match Kind.all.filter (!kinds.contains ·) with
      | [] => .ok kinds
      | missing => .error (.missing missing)

end Registry

end SignalFlow
