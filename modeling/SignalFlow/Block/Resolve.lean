import SignalFlow.Block.Payload
import SignalFlow.Block.Schema
import SignalFlow.Constants

/-! # Resolving the parameters of a block

`Payload.resolve` turns the parameters of a block, as a diagram gives them, into its payload: every
number is resolved over the constants, limits are kept, and what follows from the parameters is
computed once.
-/

namespace SignalFlow

/-- A setting as it was given, and the number it stands for, if any. -/
structure Setting (α : Type) where
  given : Value
  number : Except Fault α

namespace Setting

variable {α : Type} [Scalar α]

/-- A setting that is a number. -/
def ofFloat (x : Float) : Setting α := ⟨.float x, .ok (Scalar.ofFloat x)⟩

/-- A setting that may be any value. -/
def ofValue (value : Value) : Setting α :=
  ⟨value, match value with
    | .bool b => .ok (if b then 1.0 else 0.0)
    | .int n =>
        match Binary64.ofInt? n with
        | some x => .ok (Scalar.ofFloat x)
        | none => .error .tooLarge
    | .float x => .ok (Scalar.ofFloat x)
    | _ => .error .wrongKind⟩

end Setting

namespace Payload

variable {α : Type} [Scalar α]

/-- The shortest sample period. -/
def minimalPeriod : α := 0.001

/-- The period of a clocked block: the one given, or the step of the diagram in place of zero, but
not below the shortest one. -/
def samplePeriod (given : α) (step : Setting α) : Except Fault α :=
  if given == 0.0 then return Scalar.max minimalPeriod (← step.number)
  else .ok (Scalar.max minimalPeriod given)

/-- A delay in whole ticks, at least one. -/
def delaySteps (delay : α) (step : Setting α) : Except Fault Nat := do
  let dt ← step.number
  if dt ≤ 0.0 then return 1
  return Nat.max 1 (← Scalar.round (delay / dt)).toNat

/-- The initial state of a generator: a whole number modulo `2 ^ 32`. -/
def seedOf (n : Int) : UInt32 := UInt32.ofNat (n % 4294967296).toNat

/-- The signs that a text of plus and minus signs writes. -/
def signsText? (text : String) : Option (List Float) :=
  let signs := Text.trimBy Text.isBlank text.toList
  if !signs.isEmpty && signs.all (fun c => c == '+' || c == '-') then
    some (signs.map fun c => if c == '+' then 1.0 else -1.0)
  else none

/-- The signs of a sum. -/
def signs [Host] (constants : Constants) (given : Value) : Except Fault (List Float) :=
  match given with
  | .text text =>
      match signsText? text with
      | some signs => .ok signs
      | none => constants.resolveList given
  | _ => constants.resolveList given

/-- The text of a parameter. -/
def textOf [Host] (value : Value) : Except Fault String :=
  match value with
  | .null => .ok ""
  | value => value.toText

/-- The model of a transfer function, if there is memory for its square matrix. -/
def modelOf [Host] (num den : List α) : Except Fault (Option (StateSpace α)) :=
  if Host.arrayLength < StateSpace.matrixSize den then .error .outOfMemory
  else .ok (StateSpace.realize? num den)

/-- The payload of a block of a kind with the parameters given. -/
def resolve [Host] (kind : Kind) (given : List (String × Value)) (constants : Constants)
    (step : Setting α) : Noted Fault (Payload α) := do
  let raw (name : String) : Value := kind.parameter given name
  let float (name : String) : Noted Fault Float := .ofExcept (constants.resolve (raw name))
  let number (name : String) : Noted Fault α := return Scalar.ofFloat (← float name)
  let floats (name : String) : Noted Fault (List Float) :=
    .ofExcept (constants.resolveList (raw name))
  let text (name : String) : Noted Fault String := .ofExcept (textOf (raw name))
  match kind with
  | .constant => return .constant (← number "value")
  | .step => return .step (← number "stepTime")
  | .ramp => return .ramp (← number "slope") (← number "start")
  | .impulse => return .impulse (← number "time") (← number "amp")
  | .sine => return .sine (← number "amp") (← number "freq") (← number "phase")
  | .chirp =>
      let amp ← number "amp"
      let f0 ← number "f0"
      let f1 ← number "f1"
      let t1 := Scalar.max 0.001 (Scalar.orElse (← number "t1") 1.0)
      return .chirp amp f0 f1 t1 ((f1 - f0) / t1)
  | .noise =>
      let amp ← number "amp"
      let seed : α ← number "seed"
      return .noise amp (seedOf (← .ofExcept (Scalar.round seed)))
  | .gain => return .gain (← number "gain")
  | .sum =>
      let factors ← .ofExcept (signs constants (raw "signs"))
      return .sum (factors.map fun s => Scalar.orElse (Scalar.ofFloat s) 1.0)
  | .mult => return .mult
  | .saturation => return .saturation (← number "min") (← number "max")
  | .switch =>
      let threshold ← number "threshold"
      let text ← text "condition"
      match Condition.ofName? text with
      | some condition => return .switch threshold condition
      | none =>
          note (.unknownCondition text)
          return .switch threshold .ge
  | .integrator => return .integrator (← number "initial")
  | .derivative => return .derivative
  | .delay =>
      let time ← number "delay"
      return .delay time (← .ofExcept (delaySteps time step))
  | .rate =>
      return .rate (Scalar.max 0.0 (← number "rise")) (Scalar.max 0.0 (← number "fall"))
  | .backlash => return .backlash (Scalar.max 0.0 (← number "width"))
  | .lpf =>
      let cutoff := Scalar.max 0.0 (← number "cutoff")
      return .lpf cutoff (2.0 * Scalar.pi * cutoff)
  | .hpf =>
      let cutoff := Scalar.max 0.0 (← number "cutoff")
      return .hpf cutoff (2.0 * Scalar.pi * cutoff)
  | .pid => return .pid (← number "kp") (← number "ki") (← number "kd")
  | .tf =>
      let num ← floats "num"
      let den ← floats "den"
      if let some notice := StateSpace.realizationNotice? num den then note notice
      if Polynomial.isZero den then note (.zeroDenominator den)
      let num : List α := num.map Scalar.ofFloat
      let den : List α := den.map Scalar.ofFloat
      return .tf num den (← .ofExcept (modelOf num den))
  | .stateSpace => return .stateSpace (← number "A") (← number "B") (← number "C") (← number "D")
  | .ddelay =>
      let steps : α ← number "steps"
      let ts ← number "ts"
      let count ← .ofExcept (Scalar.round (Scalar.orElse steps 1.0))
      return .ddelay (Nat.max 1 count.toNat) (Scalar.max minimalPeriod (Scalar.orElse ts 0.1))
  | .zoh => return .zoh (← .ofExcept (samplePeriod (← number "ts") step))
  | .foh => return .foh (← .ofExcept (samplePeriod (← number "ts") step))
  | .dtf =>
      let num ← floats "num"
      let den ← floats "den"
      let ts ← number "ts"
      if Polynomial.isZero den then note .zeroDiscreteDenominator
      let num : List α := num.map Scalar.ofFloat
      let den : List α := den.map Scalar.ofFloat
      return .dtf num den (← .ofExcept (samplePeriod ts step)) (Recurrence.realize num den)
  | .dstateSpace =>
      let a ← number "A"
      let b ← number "B"
      let c ← number "C"
      let d ← number "D"
      return .dstateSpace a b c d (← .ofExcept (samplePeriod (← number "ts") step))
  | .labelSource => return .labelSource (← text "name")
  | .labelSink => return .labelSink (← text "name")
  | .scope => return .scope (← text "labels")
  | .fileSink => return .fileSink (← text "filename")
  | .unsupported => return .unsupported

end Payload

end SignalFlow
