/-! # Kinds of blocks

The closed set of block kinds (`Kind`), their names in diagrams, and the phase of a tick in which a
block's output is produced (`Phase`). A type name that no kind has stands for the kind
`unsupported`.
-/

namespace SignalFlow

/-- What a block does. -/
inductive Kind where
  | constant | step | ramp | impulse | sine | chirp | noise
  | gain | sum | mult | saturation | switch
  | integrator | derivative | delay | rate | backlash | lpf | hpf | pid | tf | stateSpace
  | ddelay | zoh | foh | dtf | dstateSpace
  | labelSource | labelSink | scope | fileSink | unsupported
deriving DecidableEq, Inhabited

/-- When a block's output is produced within a tick: sources and memories first, from the time and
from held state; algebraic blocks next, together; sinks last. -/
inductive Phase where
  | source | memory | algebraic | sink
deriving DecidableEq, Inhabited

/-- The name of a phase. -/
def Phase.name : Phase → String
  | .source => "SOURCE"
  | .memory => "MEMORY"
  | .algebraic => "ALGEBRAIC"
  | .sink => "SINK"

namespace Kind

/-- All kinds. -/
def all : List Kind :=
  [.constant, .step, .ramp, .impulse, .sine, .chirp, .noise,
   .gain, .sum, .mult, .saturation, .switch,
   .integrator, .derivative, .delay, .rate, .backlash, .lpf, .hpf, .pid, .tf, .stateSpace,
   .ddelay, .zoh, .foh, .dtf, .dstateSpace,
   .labelSource, .labelSink, .scope, .fileSink, .unsupported]

/-- The name of a kind in diagrams. -/
def typeName : Kind → String
  | .constant => "constant"
  | .step => "step"
  | .ramp => "ramp"
  | .impulse => "impulse"
  | .sine => "sine"
  | .chirp => "chirp"
  | .noise => "noise"
  | .gain => "gain"
  | .sum => "sum"
  | .mult => "mult"
  | .saturation => "saturation"
  | .switch => "switch"
  | .integrator => "integrator"
  | .derivative => "derivative"
  | .delay => "delay"
  | .rate => "rate"
  | .backlash => "backlash"
  | .lpf => "lpf"
  | .hpf => "hpf"
  | .pid => "pid"
  | .tf => "tf"
  | .stateSpace => "stateSpace"
  | .ddelay => "ddelay"
  | .zoh => "zoh"
  | .foh => "foh"
  | .dtf => "dtf"
  | .dstateSpace => "dstateSpace"
  | .labelSource => "labelSource"
  | .labelSink => "labelSink"
  | .scope => "scope"
  | .fileSink => "fileSink"
  | .unsupported => "unsupported"

/-- The kind of a type name. -/
def ofType (name : String) : Kind :=
  (all.find? (·.typeName == name)).getD .unsupported

/-- The phase of a kind, which a transfer function refines by its model. -/
def phase : Kind → Phase
  | .constant | .step | .ramp | .impulse | .sine | .chirp | .noise | .unsupported => .source
  | .gain | .sum | .mult | .saturation | .switch | .labelSource => .algebraic
  | .labelSink | .scope | .fileSink => .sink
  | _ => .memory

/-- The names of a kind's input ports, in order. -/
def inputs : Kind → List String
  | .constant | .step | .ramp | .impulse | .sine | .chirp | .noise | .labelSource
  | .unsupported => []
  | .sum | .mult => ["in1", "in2", "in3"]
  | .switch => ["true", "ctrl", "false"]
  | _ => ["in"]

/-- The names of a kind's output ports. -/
def outputs : Kind → List String
  | .scope | .fileSink => []
  | _ => ["out"]

/-- Whether a kind starts the algebraic loop settled at zero. -/
def seedsLoop (kind : Kind) : Bool := kind == .labelSource

/-- Whether a kind's input is recorded in the result of a run. -/
def isTraced (kind : Kind) : Bool := kind == .scope || kind == .fileSink

end Kind

end SignalFlow
