import SignalFlow.Block.Payload
import SignalFlow.Host

/-! # What blocks do

A block is a machine that a run steps through ticks: from its payload it has a first state
(`Payload.start`), an output at each tick (`Payload.output`) and a next state once all outputs are
known (`Payload.update`). Its payload also decides the phase of its output (`Payload.phase`).

Only the noise generator advances when its output is read; every other block leaves its state to the
update.
-/

namespace SignalFlow

/-- The values at the input ports that have one, in ascending order of the ports. -/
abbrev Inputs (α : Type) := List (Int × α)

namespace Inputs

variable {α : Type}

/-- Inputs from pairs in any order. -/
def ofPairs (pairs : List (Int × α)) : Inputs α :=
  pairs.mergeSort fun a b => a.1 ≤ b.1

/-- The value at a port, zero if there is none. -/
def value [Scalar α] (inputs : Inputs α) (port : Int) : α :=
  ((inputs.find? (·.1 == port)).map (·.2)).getD 0.0

end Inputs

/-! ## The noise generator -/

/-- The next state of the generator. -/
def nextNoise (state : UInt32) : UInt32 := 1664525 * state + 1013904223

/-- The largest state of the generator. -/
def largestNoise {α : Type} [Scalar α] : α := 4294967295.0

/-! ## Clocks -/

/-- How far ahead of its time a clock may fire. -/
def clockTolerance {α : Type} [Scalar α] : α := 1e-6

/-- Whether a clock fires that is set to the time `next`. -/
def clockFires {α : Type} [Scalar α] (time next : α) : Bool := next ≤ time + clockTolerance

/-- The step by which differences are divided, kept away from zero. -/
def divisor {α : Type} [Scalar α] (dt : α) : α := Scalar.max dt 1e-6

/-! ## Buffers -/

/-- The length from which on a buffer has no length that a machine can write. -/
def largestLength : Nat := 0x8000000000000000

/-- A length that a buffer can have. -/
def bufferLength [Host] (length : Nat) : Except Fault Nat :=
  if largestLength ≤ length then .error .tooLarge
  else if Host.arrayLength < length then .error .outOfMemory
  else .ok length

/-- A buffer of zeros. -/
def emptyBuffer [Host] {α : Type} [Scalar α] (length : Nat) : Except Fault (List α) :=
  return List.replicate (← bufferLength length) 0.0

namespace Payload

variable {α : Type} [Scalar α]

/-- The phase of a block. A transfer function whose input reaches its output at once is algebraic,
and one without a model is a source of zeros. -/
def phase : Payload α → Phase
  | .tf _ _ none => .source
  | .tf _ _ (some model) =>
      if model.order == 0 || model.hasFeedthrough then .algebraic else .memory
  | payload => payload.kind.phase

/-- The factor of a port of a sum. -/
def sign (signs : List α) (port : Int) : α :=
  match port with
  | .ofNat place => signs.getD place 1.0
  | .negSucc _ => 1.0

/-- What an input port without a driver reads. -/
def fallback (kind : Kind) : α := if kind == .mult then 1.0 else 0.0

/-- The state of a block before the first tick. -/
def start [Host] : Payload α → Except Fault (Memory α)
  | .noise _ seed => .ok (.noise seed)
  | .integrator initial => .ok (.integrator initial)
  | .derivative => .ok (.derivative 0.0 0.0)
  | .delay _ steps => return .delay (← emptyBuffer (steps + 1)).toArray 0
  | .rate .. => .ok (.rate 0.0)
  | .backlash _ => .ok (.backlash 0.0)
  | .lpf .. => .ok (.lpf 0.0)
  | .hpf .. => .ok (.hpf 0.0 0.0)
  | .pid .. => .ok (.pid 0.0 0.0 0.0)
  | .tf _ _ (some model) => .ok (.tf model.rest)
  | .stateSpace .. => .ok (.stateSpace 0.0 0.0)
  | .ddelay steps _ => return .ddelay (← emptyBuffer steps) 0.0 0.0
  | .zoh _ => .ok (.zoh 0.0 0.0)
  | .foh _ => .ok (.foh 0.0 0.0 0.0 0.0 0.0)
  | .dtf _ _ _ model =>
      .ok (.dtf (Vector.zero model.num.length) (Vector.zero (model.den.length - 1)) 0.0 0.0)
  | .dstateSpace .. => .ok (.dstateSpace 0.0 0.0 0.0)
  | _ => .ok .empty

/-- The output of a block at a time, and its state after that. -/
def output (payload : Payload α) (time dt : α) (inputs : Inputs α) (memory : Memory α) :
    Except Fault (α × Memory α) :=
  match payload, memory with
  | .constant value, _ => .ok (value, memory)
  | .step stepTime, _ => .ok (if stepTime ≤ time then 1.0 else 0.0, memory)
  | .ramp slope start, _ =>
      .ok (if time < start then 0.0 else (time - start) * slope, memory)
  | .impulse instant amp, _ =>
      .ok (if Scalar.abs (time - instant) ≤ dt / 2.0 then amp / Scalar.max dt 1e-6 else 0.0, memory)
  | .sine amp freq shift, _ =>
      return (amp * (← Scalar.sin (2.0 * Scalar.pi * freq * time + shift)), memory)
  | .chirp amp f0 _ _ slope, _ =>
      return (amp * (← Scalar.sin (2.0 * Scalar.pi * (f0 * time + 0.5 * slope * time * time))),
        memory)
  | .noise amp _, .noise rng =>
      let next := nextNoise rng
      .ok (amp * (Scalar.ofCount next.toNat / largestNoise * 2.0 - 1.0), .noise next)
  | .gain factor, _ => .ok (Inputs.value inputs 0 * factor, memory)
  | .sum signs, _ =>
      .ok (inputs.foldl (fun total (port, value) => total + value * sign signs port) 0.0, memory)
  | .mult, _ => .ok (inputs.foldl (fun product (_, value) => product * value) 1.0, memory)
  | .saturation lower upper, _ => .ok (Scalar.clip (Inputs.value inputs 0) lower upper, memory)
  | .switch threshold condition, _ =>
      .ok (if condition.holds (Inputs.value inputs 1) threshold then Inputs.value inputs 0
        else Inputs.value inputs 2, memory)
  | .integrator _, .integrator x => .ok (x, memory)
  | .derivative, .derivative _ out => .ok (out, memory)
  | .delay .., .delay buffer idx => .ok (buffer.getD idx 0.0, memory)
  | .rate .., .rate y => .ok (y, memory)
  | .backlash _, .backlash y => .ok (y, memory)
  | .lpf .., .lpf x => .ok (x, memory)
  | .hpf .., .hpf _ out => .ok (out, memory)
  | .pid .., .pid _ _ out => .ok (out, memory)
  | .tf _ _ (some model), .tf x => .ok (model.output x (Inputs.value inputs 0), memory)
  | .stateSpace .., .stateSpace _ out => .ok (out, memory)
  | .ddelay .., .ddelay _ last _ => .ok (last, memory)
  | .zoh _, .zoh held _ => .ok (held, memory)
  | .foh _, .foh _ last lastTime slope _ => .ok (last + slope * (time - lastTime), memory)
  | .dtf .., .dtf _ _ last _ => .ok (last, memory)
  | .dstateSpace .., .dstateSpace _ out _ => .ok (out, memory)
  | .labelSource _, _ | .labelSink _, _ | .scope _, _ | .fileSink _, _ =>
      .ok (Inputs.value inputs 0, memory)
  | _, _ => .ok (0.0, memory)

/-- The state of a play of a width after reading an input: dragged along at the edge of the band. -/
def drag (width y u : α) : α :=
  let half := width / 2.0
  let y := if y + half < u then u - half else y
  if u < y - half then u + half else y

/-- A list of fixed length with a new first item. -/
def shiftIn (value : α) (items : List α) : List α := (value :: items).dropLast

/-- The state of a block after a tick, from the inputs of that tick. -/
def update (payload : Payload α) (time dt : α) (inputs : Inputs α) (memory : Memory α) :
    Memory α :=
  let u := Inputs.value inputs 0
  match payload, memory with
  | .integrator _, .integrator x => .integrator (x + u * dt)
  | .derivative, .derivative prev _ => .derivative u ((u - prev) / divisor dt)
  | .delay _ steps, .delay buffer idx =>
      .delay (buffer.setIfInBounds ((idx + steps) % buffer.size) u) ((idx + 1) % buffer.size)
  | .rate rise fall, .rate y => .rate (Scalar.clip u (y - fall * dt) (y + rise * dt))
  | .backlash width, .backlash y => .backlash (drag width y u)
  | .lpf _ wc, .lpf x => .lpf (x + dt * wc * (u - x))
  | .hpf _ wc, .hpf x _ =>
      let x := x + dt * wc * (u - x)
      .hpf x (u - x)
  | .pid kp ki kd, .pid integral prev _ =>
      let integral := integral + u * dt
      .pid integral u (kp * u + ki * integral + kd * ((u - prev) / divisor dt))
  | .tf _ _ (some model), .tf x => .tf (model.advance x u dt)
  | .stateSpace a b c d, .stateSpace x _ =>
      let x := x + dt * (a * x + b * u)
      .stateSpace x (c * x + d * u)
  | .ddelay _ ts, .ddelay buffer _ next =>
      if clockFires time next then
        let buffer := buffer.tail ++ [u]
        .ddelay buffer (buffer.headD 0.0) (next + ts)
      else memory
  | .zoh ts, .zoh _ next => if clockFires time next then .zoh u (next + ts) else memory
  | .foh ts, .foh _ last _ _ next =>
      if clockFires time next then .foh last u time ((u - last) / ts) (next + ts) else memory
  | .dtf _ _ ts model, .dtf past outputs _ next =>
      if clockFires time next then
        let past := shiftIn u past
        let y := model.evaluate past outputs
        .dtf past (shiftIn y outputs) y (next + ts)
      else memory
  | .dstateSpace a b c d ts, .dstateSpace x _ next =>
      if clockFires time next then
        let x := a * x + b * u
        .dstateSpace x (c * x + d * u) (next + ts)
      else memory
  | _, _ => memory

/-- Whether the output of a block depends on the step. -/
def outputUsesStep : Payload α → Bool
  | .impulse .. => true
  | _ => false

/-- Whether the update of a block depends on the step. -/
def updateUsesStep : Payload α → Bool
  | .integrator _ | .derivative | .rate .. | .lpf .. | .hpf .. | .pid .. | .stateSpace .. => true
  | .tf _ _ (some model) => model.order != 0
  | _ => false

end Payload

end SignalFlow
