import SignalFlow.Block.Kind
import SignalFlow.Linear.StateSpace
import SignalFlow.Linear.Recurrence
import SignalFlow.Text.Blank

/-! # Resolved parameters and persistent state

A block of a diagram carries the values of its parameters, with what follows from them
(`Payload`), and from tick to tick its persistent state (`Memory`). Both have one constructor for
each kind that needs one.
-/

namespace SignalFlow

/-- The comparison by which a switch chooses. -/
inductive Condition where
  | ge | gt | ne
deriving DecidableEq, Inhabited

namespace Condition

/-- The name of a condition. -/
def name : Condition → String
  | .ge => "ge"
  | .gt => "gt"
  | .ne => "ne"

/-- The condition of a name, in any case and with blanks around it. -/
def ofName? (text : String) : Option Condition :=
  let word := String.ofList ((Text.trimBy Text.isBlank text.toList).map Char.toLower)
  [Condition.ge, .gt, .ne].find? (·.name == word)

/-- Whether a control value satisfies a condition. -/
def holds {α : Type} [Scalar α] (condition : Condition) (control threshold : α) : Bool :=
  match condition with
  | .ge => threshold ≤ control
  | .gt => threshold < control
  | .ne => control != threshold

end Condition

/-- The resolved parameters of a block. -/
inductive Payload (α : Type) where
  | constant (value : α)
  | step (stepTime : α)
  | ramp (slope start : α)
  | impulse (time amp : α)
  | sine (amp freq phase : α)
  /-- A sweep; `rate` is the change of the frequency with time. -/
  | chirp (amp f0 f1 t1 rate : α)
  | noise (amp : α) (seed : UInt32)
  | gain (gain : α)
  /-- A signed sum; a port beyond the list counts positive. -/
  | sum (signs : List α)
  | mult
  | saturation (lower upper : α)
  | switch (threshold : α) (condition : Condition)
  | integrator (initial : α)
  | derivative
  /-- A delay by a number of ticks. -/
  | delay (delay : α) (steps : Nat)
  | rate (rise fall : α)
  | backlash (width : α)
  /-- A filter; `wc` is the angular frequency of its cutoff. -/
  | lpf (cutoff wc : α)
  | hpf (cutoff wc : α)
  | pid (kp ki kd : α)
  /-- A continuous transfer function; one without a model cannot be realized. -/
  | tf (num den : List α) (model : Option (StateSpace α))
  | stateSpace (a b c d : α)
  /-- A delay by a number of sample periods. -/
  | ddelay (steps : Nat) (ts : α)
  | zoh (ts : α)
  | foh (ts : α)
  | dtf (num den : List α) (ts : α) (model : Recurrence α)
  | dstateSpace (a b c d ts : α)
  | labelSource (name : String)
  | labelSink (name : String)
  | scope (labels : String)
  | fileSink (filename : String)
  | unsupported

/-- What a block keeps from tick to tick. A clocked block keeps the time of its next sample. -/
inductive Memory (α : Type) where
  | empty
  | noise (rng : UInt32)
  | integrator (x : α)
  | derivative (prev out : α)
  /-- A line of slots, read at `idx` and written behind it. -/
  | delay (buffer : Array α) (idx : Nat)
  | rate (y : α)
  | backlash (y : α)
  | lpf (x : α)
  | hpf (x out : α)
  | pid (integral prev out : α)
  | tf (x : List α)
  | stateSpace (x out : α)
  /-- The samples under way, oldest first. -/
  | ddelay (buffer : List α) (last next : α)
  | zoh (held next : α)
  | foh (prev last lastTime slope next : α)
  /-- Past inputs and outputs, newest first. -/
  | dtf (inputs outputs : List α) (last next : α)
  | dstateSpace (x out next : α)
deriving Inhabited

/-- The kind of a block by its parameters. -/
def Payload.kind {α : Type} : Payload α → Kind
  | .constant .. => .constant
  | .step .. => .step
  | .ramp .. => .ramp
  | .impulse .. => .impulse
  | .sine .. => .sine
  | .chirp .. => .chirp
  | .noise .. => .noise
  | .gain .. => .gain
  | .sum .. => .sum
  | .mult => .mult
  | .saturation .. => .saturation
  | .switch .. => .switch
  | .integrator .. => .integrator
  | .derivative => .derivative
  | .delay .. => .delay
  | .rate .. => .rate
  | .backlash .. => .backlash
  | .lpf .. => .lpf
  | .hpf .. => .hpf
  | .pid .. => .pid
  | .tf .. => .tf
  | .stateSpace .. => .stateSpace
  | .ddelay .. => .ddelay
  | .zoh .. => .zoh
  | .foh .. => .foh
  | .dtf .. => .dtf
  | .dstateSpace .. => .dstateSpace
  | .labelSource .. => .labelSource
  | .labelSink .. => .labelSink
  | .scope .. => .scope
  | .fileSink .. => .fileSink
  | .unsupported => .unsupported

/-! ## Named values -/

/-- A value of a block as it is shown. -/
inductive Shown (α : Type) where
  | number (value : α)
  | count (value : Nat)
  | text (value : String)
  | numbers (values : List α)
  | model (value : Option (StateSpace α))
  | recurrence (value : Recurrence α)

/-- The resolved parameters by name. -/
def Payload.entries {α : Type} : Payload α → List (String × Shown α)
  | .constant value => [("value", .number value)]
  | .step stepTime => [("stepTime", .number stepTime)]
  | .ramp slope start => [("slope", .number slope), ("start", .number start)]
  | .impulse time amp => [("time", .number time), ("amp", .number amp)]
  | .sine amp freq phase => [("amp", .number amp), ("freq", .number freq), ("phase", .number phase)]
  | .chirp amp f0 f1 t1 slope => [("amp", .number amp), ("f0", .number f0), ("f1", .number f1),
      ("t1", .number t1), ("k", .number slope)]
  | .noise amp seed => [("amp", .number amp), ("seed", .count seed.toNat)]
  | .gain factor => [("gain", .number factor)]
  | .sum signs => [("signs", .numbers signs)]
  | .mult | .derivative | .unsupported => []
  | .saturation lower upper => [("min", .number lower), ("max", .number upper)]
  | .switch threshold condition =>
      [("threshold", .number threshold), ("condition", .text condition.name)]
  | .integrator initial => [("initial", .number initial)]
  | .delay time steps => [("delay", .number time), ("steps", .count steps)]
  | .rate rise fall => [("rise", .number rise), ("fall", .number fall)]
  | .backlash width => [("width", .number width)]
  | .lpf cutoff wc | .hpf cutoff wc => [("cutoff", .number cutoff), ("wc", .number wc)]
  | .pid kp ki kd => [("kp", .number kp), ("ki", .number ki), ("kd", .number kd)]
  | .tf num den model => [("num", .numbers num), ("den", .numbers den), ("model", .model model)]
  | .stateSpace a b c d => [("A", .number a), ("B", .number b), ("C", .number c), ("D", .number d)]
  | .ddelay steps ts => [("steps", .count steps), ("ts", .number ts)]
  | .zoh ts | .foh ts => [("ts", .number ts)]
  | .dtf num den ts model => [("num", .numbers num), ("den", .numbers den), ("ts", .number ts),
      ("model", .recurrence model)]
  | .dstateSpace a b c d ts => [("A", .number a), ("B", .number b), ("C", .number c),
      ("D", .number d), ("ts", .number ts)]
  | .labelSource name | .labelSink name => [("name", .text name)]
  | .scope labels => [("labels", .text labels)]
  | .fileSink filename => [("filename", .text filename)]

/-- The persistent state by name. -/
def Memory.entries {α : Type} : Memory α → List (String × Shown α)
  | .empty => []
  | .noise rng => [("rng", .count rng.toNat)]
  | .integrator x | .lpf x => [("x", .number x)]
  | .derivative prev out => [("prev", .number prev), ("out", .number out)]
  | .delay buffer idx => [("buffer", .numbers buffer.toList), ("idx", .count idx)]
  | .rate y | .backlash y => [("y", .number y)]
  | .hpf x out | .stateSpace x out => [("x", .number x), ("out", .number out)]
  | .pid integral prev out =>
      [("integral", .number integral), ("prev", .number prev), ("out", .number out)]
  | .tf x => [("x", .numbers x)]
  | .ddelay buffer last next =>
      [("buffer", .numbers buffer), ("last", .number last), ("next", .number next)]
  | .zoh held next => [("held", .number held), ("next", .number next)]
  | .foh prev last lastTime slope next => [("prev", .number prev), ("last", .number last),
      ("last_time", .number lastTime), ("slope", .number slope), ("next", .number next)]
  | .dtf inputs outputs last next => [("x_hist", .numbers inputs), ("y_hist", .numbers outputs),
      ("last", .number last), ("next", .number next)]
  | .dstateSpace x out next => [("x", .number x), ("out", .number out), ("next", .number next)]

end SignalFlow
