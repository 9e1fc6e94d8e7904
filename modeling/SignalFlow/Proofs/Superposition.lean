import SignalFlow.Host.Usual
import SignalFlow.Proofs.Persistence
import Mathlib.Tactic.NormNum
import Mathlib.Tactic.Ring

/-! # Superposition

A gain, the filters, holds and delays and the models of linear systems answer linearly: driven by
`a u + b v` from a state of rest they give, in every tick, `a` times their answer to `u` plus `b`
times their answer to `v` (`Payload.drivenOutput_superposed`). The three runs are related state by
state (`Superposed`): what a block remembers of its signal is combined like the signal, and where it
stands in time (the slot of a line, the next firing of a clock) is the same in all of them, since no
clock looks at the data.

The law is one of exact arithmetic, so the blocks compute with rational numbers here.
-/

namespace SignalFlow

/-! ## Combinations of lists -/

/-- `a` times one list plus `b` times another, item by item. -/
def combine (a b : Rat) (x y : List Rat) : List Rat :=
  List.zipWith (fun p q => a * p + b * q) x y

variable {a b : Rat} {x y : List Rat}

theorem zero_rat : (0.0 : Rat) = 0 := by norm_num

theorem length_combine (same : x.length = y.length) : (combine a b x y).length = x.length := by
  simp [combine, same]

theorem combine_replicate (size : Nat) :
    combine a b (List.replicate size 0.0) (List.replicate size 0.0) =
      List.replicate size (0.0 : Rat) := by
  simp [combine, zero_rat]

theorem combine_add (x' y' : List Rat) :
    combine a b (Vector.add x x') (Vector.add y y') =
      Vector.add (combine a b x y) (combine a b x' y') := by
  apply List.ext_getElem
  · simp [combine, Vector.add]
    omega
  · intro place inside otherInside
    simp only [combine, Vector.add, List.getElem_zipWith]
    ring

theorem combine_scale (factor : Rat) (x y : List Rat) :
    combine a b (Vector.scale factor x) (Vector.scale factor y) =
      Vector.scale factor (combine a b x y) := by
  apply List.ext_getElem
  · simp [combine, Vector.scale]
  · intro place inside otherInside
    simp only [combine, Vector.scale, List.getElem_zipWith, List.getElem_map]
    ring

theorem sum_mul_combine (factors : List Rat) (same : x.length = y.length) :
    (List.zipWith (· * ·) factors (combine a b x y)).sum =
      a * (List.zipWith (· * ·) factors x).sum + b * (List.zipWith (· * ·) factors y).sum := by
  induction factors generalizing x y with
  | nil => simp
  | cons factor factors ih =>
      cases x with
      | nil =>
          obtain rfl := List.length_eq_zero_iff.mp same.symm
          simp [combine]
      | cons p x =>
          obtain ⟨q, y, rfl⟩ := List.exists_cons_of_length_eq_add_one same.symm
          have rest : x.length = y.length := by simpa using same
          have tail := ih rest
          simp only [combine, List.zipWith_cons_cons, List.sum_cons] at tail ⊢
          rw [tail]
          ring

theorem dot_eq_sum (factors x : List Rat) :
    Vector.dot factors x = (List.zipWith (· * ·) factors x).sum := by
  rw [Vector.dot, zero_rat, List.sum_eq_foldl]

theorem dot_combine (factors : List Rat) (same : x.length = y.length) :
    Vector.dot factors (combine a b x y) = a * Vector.dot factors x + b * Vector.dot factors y := by
  rw [dot_eq_sum, dot_eq_sum, dot_eq_sum, sum_mul_combine factors same]

/-- The history of a combination is the combination of the histories. -/
theorem shiftIn_combine (p q : Rat) (same : x.length = y.length) :
    Payload.shiftIn (a * p + b * q) (combine a b x y) =
      combine a b (Payload.shiftIn p x) (Payload.shiftIn q y) := by
  have cons : (a * p + b * q) :: combine a b x y = combine a b (p :: x) (q :: y) := rfl
  rw [Payload.shiftIn, cons, List.dropLast_eq_take, length_combine (by simp [same]), combine,
    List.take_zipWith]
  simp [combine, Payload.shiftIn, List.dropLast_eq_take, same]

theorem tail_append_combine (p q : Rat) (same : x.length = y.length) :
    (combine a b x y).tail ++ [a * p + b * q] = combine a b (x.tail ++ [p]) (y.tail ++ [q]) := by
  have single : [a * p + b * q] = combine a b [p] [q] := rfl
  rw [single, combine, combine, combine, List.tail_zipWith, List.zipWith_append]
  simp [same]

theorem length_shiftIn_eq {p q : Rat} (same : x.length = y.length) :
    (Payload.shiftIn p x).length = (Payload.shiftIn q y).length := by
  rw [length_shiftIn, length_shiftIn, same]

theorem length_tail_append (p q : Rat) (same : x.length = y.length) :
    (x.tail ++ [p]).length = (y.tail ++ [q]).length := by
  simp [same]

theorem headD_combine (same : x.length = y.length) :
    (combine a b x y).headD 0.0 = a * x.headD 0.0 + b * y.headD 0.0 := by
  cases x with
  | nil =>
      obtain rfl := List.length_eq_zero_iff.mp same.symm
      simp [combine, zero_rat]
  | cons p x =>
      obtain ⟨q, y, rfl⟩ := List.exists_cons_of_length_eq_add_one same.symm
      rfl

/-! ## Linear models -/

namespace StateSpace

variable (model : StateSpace Rat)

theorem derivative_combine (u v : Rat) (same : x.length = y.length) :
    model.derivative (combine a b x y) (a * u + b * v) =
      combine a b (model.derivative x u) (model.derivative y v) := by
  have rows : model.a.map (Vector.dot · (combine a b x y)) =
      combine a b (model.a.map (Vector.dot · x)) (model.a.map (Vector.dot · y)) := by
    simp only [dot_combine _ same]
    simp [combine]
  have column : model.b.map (· * (a * u + b * v)) =
      combine a b (model.b.map (· * u)) (model.b.map (· * v)) := by
    simp [combine]
    intro c _
    ring
  rw [derivative, rows, column, derivative, derivative, combine_add]

theorem output_combine (u v : Rat) (same : x.length = y.length) :
    model.output (combine a b x y) (a * u + b * v) =
      a * model.output x u + b * model.output y v := by
  unfold output
  split
  · ring
  · rw [dot_combine _ same]
    ring

theorem length_advance_eq (u v h : Rat) (same : x.length = y.length) :
    (model.advance x u h).length = (model.advance y v h).length := by
  unfold advance
  split
  · exact same
  · simp [derivative, same]

theorem advance_combine (u v h : Rat) (same : x.length = y.length) :
    model.advance (combine a b x y) (a * u + b * v) h =
      combine a b (model.advance x u h) (model.advance y v h) := by
  unfold advance
  split
  · rfl
  · have lengths (factor : Rat) (z z' : List Rat) :
        (Vector.add x (Vector.scale factor (model.derivative z u))).length =
          (Vector.add y (Vector.scale factor (model.derivative z' v))).length := by
      simp [derivative, same]
    simp only [model.derivative_combine u v same, model.derivative_combine u v (lengths _ _ _),
      ← combine_scale, ← combine_add]

end StateSpace

theorem Recurrence.evaluate_eq (model : Recurrence Rat) (inputs outputs : List Rat) :
    model.evaluate inputs outputs =
      Vector.dot model.num inputs - Vector.dot model.den.tail outputs := by
  have subtract (start : Rat) (terms : List Rat) :
      terms.foldl (· - ·) start = start - terms.sum := by
    induction terms generalizing start with
    | nil => simp
    | cons term terms ih =>
        rw [List.foldl_cons, ih, List.sum_cons]
        ring
  rw [evaluate, dot_eq_sum model.den.tail, ← subtract]
  rfl

theorem Recurrence.evaluate_combine (model : Recurrence Rat) {outputs outputs' : List Rat}
    (same : x.length = y.length) (same_outputs : outputs.length = outputs'.length) :
    model.evaluate (combine a b x y) (combine a b outputs outputs') =
      a * model.evaluate x outputs + b * model.evaluate y outputs' := by
  simp only [evaluate_eq, dot_combine _ same, dot_combine _ same_outputs]
  ring

/-! ## Three runs of a block -/

/-- What a block remembers of a combination is the combination of what it remembers of each signal,
at the same place in time. -/
inductive Superposed (a b : Rat) : Payload Rat → Memory Rat → Memory Rat → Memory Rat → Prop
  | gain {factor : Rat} : Superposed a b (.gain factor) .empty .empty .empty
  | integrator {initial x y z : Rat} (mixed : z = a * x + b * y) :
      Superposed a b (.integrator initial) (.integrator x) (.integrator y) (.integrator z)
  | derivative {prev prev₁ prev₂ out out₁ out₂ : Rat} (mixed_prev : prev = a * prev₁ + b * prev₂)
      (mixed : out = a * out₁ + b * out₂) :
      Superposed a b .derivative (.derivative prev₁ out₁) (.derivative prev₂ out₂)
        (.derivative prev out)
  | delay {time : Rat} {steps idx : Nat} {line line₁ line₂ : Array Rat}
      (size₁ : line₁.size = line.size) (size₂ : line₂.size = line.size)
      (mixed : ∀ slot, line.getD slot 0.0 = a * line₁.getD slot 0.0 + b * line₂.getD slot 0.0) :
      Superposed a b (.delay time steps) (.delay line₁ idx) (.delay line₂ idx) (.delay line idx)
  | lpf {cutoff wc x x₁ x₂ : Rat} (mixed : x = a * x₁ + b * x₂) :
      Superposed a b (.lpf cutoff wc) (.lpf x₁) (.lpf x₂) (.lpf x)
  | hpf {cutoff wc x x₁ x₂ out out₁ out₂ : Rat} (mixed_state : x = a * x₁ + b * x₂)
      (mixed : out = a * out₁ + b * out₂) :
      Superposed a b (.hpf cutoff wc) (.hpf x₁ out₁) (.hpf x₂ out₂) (.hpf x out)
  | pid {kp ki kd sum sum₁ sum₂ prev prev₁ prev₂ out out₁ out₂ : Rat}
      (mixed_sum : sum = a * sum₁ + b * sum₂) (mixed_prev : prev = a * prev₁ + b * prev₂)
      (mixed : out = a * out₁ + b * out₂) :
      Superposed a b (.pid kp ki kd) (.pid sum₁ prev₁ out₁) (.pid sum₂ prev₂ out₂)
        (.pid sum prev out)
  | silent {num den : List Rat} : Superposed a b (.tf num den none) .empty .empty .empty
  | tf {num den x x₁ x₂ : List Rat} {model : StateSpace Rat} (same : x₁.length = x₂.length)
      (mixed : x = combine a b x₁ x₂) :
      Superposed a b (.tf num den (some model)) (.tf x₁) (.tf x₂) (.tf x)
  | stateSpace {ca cb cc cd x x₁ x₂ out out₁ out₂ : Rat} (mixed_state : x = a * x₁ + b * x₂)
      (mixed : out = a * out₁ + b * out₂) :
      Superposed a b (.stateSpace ca cb cc cd) (.stateSpace x₁ out₁) (.stateSpace x₂ out₂)
        (.stateSpace x out)
  | ddelay {steps : Nat} {ts last last₁ last₂ next : Rat} {samples samples₁ samples₂ : List Rat}
      (same : samples₁.length = samples₂.length)
      (mixed_samples : samples = combine a b samples₁ samples₂)
      (mixed : last = a * last₁ + b * last₂) :
      Superposed a b (.ddelay steps ts) (.ddelay samples₁ last₁ next) (.ddelay samples₂ last₂ next)
        (.ddelay samples last next)
  | zoh {ts held held₁ held₂ next : Rat} (mixed : held = a * held₁ + b * held₂) :
      Superposed a b (.zoh ts) (.zoh held₁ next) (.zoh held₂ next) (.zoh held next)
  | foh {ts prev prev₁ prev₂ last last₁ last₂ slope slope₁ slope₂ lastTime next : Rat}
      (mixed : last = a * last₁ + b * last₂) (mixed_slope : slope = a * slope₁ + b * slope₂) :
      Superposed a b (.foh ts) (.foh prev₁ last₁ lastTime slope₁ next)
        (.foh prev₂ last₂ lastTime slope₂ next) (.foh prev last lastTime slope next)
  | dtf {num den : List Rat} {ts last last₁ last₂ next : Rat} {model : Recurrence Rat}
      {inputs inputs₁ inputs₂ outputs outputs₁ outputs₂ : List Rat}
      (same_inputs : inputs₁.length = inputs₂.length)
      (same_outputs : outputs₁.length = outputs₂.length)
      (mixed_inputs : inputs = combine a b inputs₁ inputs₂)
      (mixed_outputs : outputs = combine a b outputs₁ outputs₂)
      (mixed : last = a * last₁ + b * last₂) :
      Superposed a b (.dtf num den ts model) (.dtf inputs₁ outputs₁ last₁ next)
        (.dtf inputs₂ outputs₂ last₂ next) (.dtf inputs outputs last next)
  | dstateSpace {ca cb cc cd ts x x₁ x₂ out out₁ out₂ next : Rat}
      (mixed_state : x = a * x₁ + b * x₂) (mixed : out = a * out₁ + b * out₂) :
      Superposed a b (.dstateSpace ca cb cc cd ts) (.dstateSpace x₁ out₁ next)
        (.dstateSpace x₂ out₂ next) (.dstateSpace x out next)

/-- Whether a clock fires does not depend on the data, so it fires in all three runs or in none. -/
theorem Superposed.clocked {payload : Payload Rat}
    {fired₁ fired₂ fired held₁ held₂ held : Memory Rat} (fires : Bool)
    (yes : Superposed a b payload fired₁ fired₂ fired)
    (no : Superposed a b payload held₁ held₂ held) :
    Superposed a b payload (if fires then fired₁ else held₁) (if fires then fired₂ else held₂)
      (if fires then fired else held) := by
  cases fires
  · exact no
  · exact yes

@[simp] theorem Inputs.value_single (u : Rat) : Inputs.value [(0, u)] 0 = u := rfl

namespace Payload

/-- The kinds of blocks that answer linearly. -/
def linearKinds : List Kind :=
  [.gain, .integrator, .derivative, .delay, .ddelay, .zoh, .foh, .lpf, .hpf, .pid, .tf, .dtf,
    .stateSpace, .dstateSpace]

/-- The block is of a linear kind and starts from rest. -/
structure IsLinear (payload : Payload Rat) : Prop where
  kind : payload.kind ∈ linearKinds
  rest {initial : Rat} : payload = .integrator initial → initial = 0

variable {payload : Payload Rat} {memory first second combined : Memory Rat}

/-- A state of rest is any combination of itself. -/
theorem superposed_start [Host] (linear : payload.IsLinear) (started : payload.start = .ok memory) :
    Superposed a b payload memory memory memory := by
  have zero : (0.0 : Rat) = a * 0.0 + b * 0.0 := by simp [zero_rat]
  have zeros (size : Nat) : (Vector.zero size : List Rat) =
      combine a b (Vector.zero size) (Vector.zero size) := (combine_replicate size).symm
  cases payload with
  | gain factor => cases started; exact .gain
  | integrator initial =>
      cases started
      exact .integrator (by simp [linear.rest rfl])
  | derivative => cases started; exact .derivative zero zero
  | delay time steps =>
      obtain ⟨buffer, made, started⟩ := bind_eq_ok_iff.mp started
      cases started
      rw [eq_replicate_of_emptyBuffer made]
      refine .delay rfl rfl fun slot => ?_
      have silent : (List.replicate (steps + 1) (0.0 : Rat)).toArray.getD slot 0.0 = 0.0 := by
        rw [List.toArray_replicate, Array.getD_eq_getD_getElem?, Array.getElem?_replicate]
        split <;> rfl
      rw [silent]
      exact zero
  | lpf => cases started; exact .lpf zero
  | hpf => cases started; exact .hpf zero zero
  | pid => cases started; exact .pid zero zero zero
  | tf num den model =>
      cases model with
      | none => cases started; exact .silent
      | some model => cases started; exact .tf rfl (zeros _)
  | stateSpace => cases started; exact .stateSpace zero zero
  | ddelay steps ts =>
      obtain ⟨buffer, made, started⟩ := bind_eq_ok_iff.mp started
      cases started
      rw [eq_replicate_of_emptyBuffer made]
      exact .ddelay rfl (zeros _) zero
  | zoh => cases started; exact .zoh zero
  | foh => cases started; exact .foh zero zero
  | dtf => cases started; exact .dtf rfl rfl (zeros _) (zeros _) zero
  | dstateSpace => cases started; exact .dstateSpace zero zero
  | _ => exact absurd linear.kind (by simp [kind, linearKinds])

theorem output_superposed (related : Superposed a b payload first second combined)
    (time dt u v : Rat) :
    ∃ y y', payload.output time dt [(0, u)] first = .ok (y, first) ∧
      payload.output time dt [(0, v)] second = .ok (y', second) ∧
      payload.output time dt [(0, a * u + b * v)] combined = .ok (a * y + b * y', combined) := by
  have yields {memory : Memory Rat} {value other : Rat} (same : value = other) :
      (.ok (value, memory) : Except Fault (Rat × Memory Rat)) = .ok (other, memory) := by
    rw [same]
  cases related with
  | gain =>
      refine ⟨_, _, rfl, rfl, yields ?_⟩
      simp only [Inputs.value_single]
      ring
  | silent => exact ⟨_, _, rfl, rfl, yields (by simp [zero_rat])⟩
  | @delay _ _ idx _ _ _ _ _ mixed => exact ⟨_, _, rfl, rfl, yields (mixed idx)⟩
  | @tf _ _ _ x₁ x₂ model same mixed =>
      subst mixed
      exact ⟨_, _, rfl, rfl, yields (model.output_combine u v same)⟩
  | foh mixed mixed_slope =>
      refine ⟨_, _, rfl, rfl, yields ?_⟩
      rw [mixed, mixed_slope]
      ring
  | integrator mixed => exact ⟨_, _, rfl, rfl, yields mixed⟩
  | derivative _ mixed => exact ⟨_, _, rfl, rfl, yields mixed⟩
  | lpf mixed => exact ⟨_, _, rfl, rfl, yields mixed⟩
  | hpf _ mixed => exact ⟨_, _, rfl, rfl, yields mixed⟩
  | pid _ _ mixed => exact ⟨_, _, rfl, rfl, yields mixed⟩
  | stateSpace _ mixed => exact ⟨_, _, rfl, rfl, yields mixed⟩
  | ddelay _ _ mixed => exact ⟨_, _, rfl, rfl, yields mixed⟩
  | zoh mixed => exact ⟨_, _, rfl, rfl, yields mixed⟩
  | dtf _ _ _ _ mixed => exact ⟨_, _, rfl, rfl, yields mixed⟩
  | dstateSpace _ mixed => exact ⟨_, _, rfl, rfl, yields mixed⟩

theorem update_superposed (related : Superposed a b payload first second combined)
    (time dt u v : Rat) :
    Superposed a b payload (payload.update time dt [(0, u)] first)
      (payload.update time dt [(0, v)] second)
      (payload.update time dt [(0, a * u + b * v)] combined) := by
  cases related with
  | gain => exact .gain
  | silent => exact .silent
  | integrator mixed =>
      refine .integrator ?_
      simp only [Inputs.value_single, mixed]
      ring
  | derivative mixed_prev mixed =>
      refine .derivative rfl ?_
      simp only [Inputs.value_single, mixed_prev]
      ring
  | @delay _ steps idx line line₁ line₂ size₁ size₂ mixed =>
      unfold update
      simp only [Inputs.value_single, size₁, size₂]
      refine .delay (by simp [size₁]) (by simp [size₂]) fun slot => ?_
      have written (line : Array Rat) (value : Rat) (target : Nat) :
          (line.setIfInBounds target value).getD slot 0.0 =
            if target = slot ∧ target < line.size then value else line.getD slot 0.0 := by
        rw [Array.getD_eq_getD_getElem?, Array.getD_eq_getD_getElem?, Array.getElem?_setIfInBounds]
        by_cases here : target = slot
        · by_cases inside : slot < line.size
          · simp [here, inside]
          · simp [here, inside]
        · simp [here]
      simp only [written, size₁, size₂]
      split
      · rfl
      · exact mixed slot
  | lpf mixed =>
      refine .lpf ?_
      simp only [Inputs.value_single, mixed]
      ring
  | hpf mixed_state mixed =>
      refine .hpf ?_ ?_ <;>
      · simp only [Inputs.value_single, mixed_state]
        ring
  | pid mixed_sum mixed_prev mixed =>
      refine .pid ?_ rfl ?_ <;>
      · simp only [Inputs.value_single, mixed_sum, mixed_prev]
        ring
  | tf same mixed =>
      subst mixed
      exact .tf (StateSpace.length_advance_eq _ u v dt same)
        (StateSpace.advance_combine _ u v dt same)
  | stateSpace mixed_state mixed =>
      refine .stateSpace ?_ ?_ <;>
      · simp only [Inputs.value_single, mixed_state]
        ring
  | ddelay same mixed_samples mixed =>
      refine .clocked _ ?_ (.ddelay same mixed_samples mixed)
      subst mixed_samples
      simp only [Inputs.value_single, tail_append_combine u v same]
      have lengths := length_tail_append u v same
      exact .ddelay lengths rfl (headD_combine lengths)
  | zoh mixed => exact .clocked _ (.zoh rfl) (.zoh mixed)
  | foh mixed mixed_slope =>
      refine .clocked _ (.foh rfl ?_) (.foh mixed mixed_slope)
      simp only [Inputs.value_single, mixed]
      ring
  | @dtf _ _ _ _ _ _ _ model _ _ _ _ _ _ same_inputs same_outputs mixed_inputs mixed_outputs
      mixed =>
      refine .clocked _ ?_ (.dtf same_inputs same_outputs mixed_inputs mixed_outputs mixed)
      subst mixed_inputs mixed_outputs
      simp only [Inputs.value_single, shiftIn_combine u v same_inputs]
      have same_inputs : (shiftIn u _).length = (shiftIn v _).length :=
        length_shiftIn_eq same_inputs
      rw [model.evaluate_combine same_inputs same_outputs, shiftIn_combine _ _ same_outputs]
      exact .dtf same_inputs (length_shiftIn_eq same_outputs) rfl rfl rfl
  | dstateSpace mixed_state mixed =>
      refine .clocked _ (.dstateSpace ?_ ?_) (.dstateSpace mixed_state mixed) <;>
      · simp only [Inputs.value_single, mixed_state]
        ring

/-! ## Driving a block -/

section Driving

variable {α : Type} [Scalar α]

/-- The time of a tick. -/
def tickTime (origin dt : α) : Nat → α
  | 0 => origin
  | tick + 1 => tickTime origin dt tick + dt

/-- The state of a block before a tick, driven alone by a signal at port 0: in every tick its output
is read, and then it is updated. -/
def drive [Host] (payload : Payload α) (origin dt : α) (signal : Nat → α) : Nat → Except Fault
    (Memory α)
  | 0 => payload.start
  | tick + 1 => do
      let memory ← drive payload origin dt signal tick
      let time := tickTime origin dt tick
      let (_, memory) ← payload.output time dt [(0, signal tick)] memory
      return payload.update time dt [(0, signal tick)] memory

/-- The output of a block in a tick, driven alone by a signal at port 0. -/
def drivenOutput [Host] (payload : Payload α) (origin dt : α) (signal : Nat → α) (tick : Nat) :
    Except Fault α := do
  let memory ← payload.drive origin dt signal tick
  let (value, _) ← payload.output (tickTime origin dt tick) dt [(0, signal tick)] memory
  return value

variable {payload : Payload α} {origin dt value : α} {signal : Nat → α} {tick : Nat}
  {memory next : Memory α}

theorem drive_succ [Host] (driven : payload.drive origin dt signal tick = .ok memory)
    (read : payload.output (tickTime origin dt tick) dt [(0, signal tick)] memory =
      .ok (value, next)) :
    payload.drive origin dt signal (tick + 1) =
      .ok (payload.update (tickTime origin dt tick) dt [(0, signal tick)] next) := by
  simp [drive, driven, read, bind, Except.bind, pure, Except.pure]

theorem drivenOutput_eq [Host] (driven : payload.drive origin dt signal tick = .ok memory)
    (read : payload.output (tickTime origin dt tick) dt [(0, signal tick)] memory =
      .ok (value, next)) :
    payload.drivenOutput origin dt signal tick = .ok value := by
  simp [drivenOutput, driven, read, bind, Except.bind, pure, Except.pure]

end Driving

theorem drive_superposed [Host] (linear : payload.IsLinear) (started : payload.start = .ok memory)
    (origin dt a b : Rat) (u v : Nat → Rat) (tick : Nat) :
    ∃ first second combined, payload.drive origin dt u tick = .ok first ∧
      payload.drive origin dt v tick = .ok second ∧
      payload.drive origin dt (fun n => a * u n + b * v n) tick = .ok combined ∧
      Superposed a b payload first second combined := by
  induction tick with
  | zero =>
      exact ⟨memory, memory, memory, started, started, started, superposed_start linear started⟩
  | succ tick ih =>
      obtain ⟨first, second, combined, driven₁, driven₂, driven₃, related⟩ := ih
      obtain ⟨_, _, read₁, read₂, read₃⟩ :=
        output_superposed related (tickTime origin dt tick) dt (u tick) (v tick)
      exact ⟨_, _, _, drive_succ driven₁ read₁, drive_succ driven₂ read₂, drive_succ driven₃ read₃,
        update_superposed related (tickTime origin dt tick) dt (u tick) (v tick)⟩

/-- **Superposition.** In every tick a linear block that is driven with a combination of two signals
puts out the combination of what it puts out for each of them, provided that its buffer fits into
the memory. -/
theorem drivenOutput_superposed [Host] (linear : payload.IsLinear)
    (room : payload.bufferSize ≤ Host.arrayLength) (origin dt a b : Rat) (u v : Nat → Rat)
    (tick : Nat) :
    ∃ y y', payload.drivenOutput origin dt u tick = .ok y ∧
      payload.drivenOutput origin dt v tick = .ok y' ∧
      payload.drivenOutput origin dt (fun n => a * u n + b * v n) tick = .ok (a * y + b * y') := by
  obtain ⟨memory, started⟩ := (exists_start_eq_ok_iff payload).mpr room
  obtain ⟨first, second, combined, driven₁, driven₂, driven₃, related⟩ :=
    drive_superposed linear started origin dt a b u v tick
  obtain ⟨y, y', read₁, read₂, read₃⟩ :=
    output_superposed related (tickTime origin dt tick) dt (u tick) (v tick)
  exact ⟨y, y', drivenOutput_eq driven₁ read₁, drivenOutput_eq driven₂ read₂,
    drivenOutput_eq driven₃ read₃⟩

open Host.Usual

/-- A lag, driven by an impulse and by a constant. -/
theorem drivenOutput_superposed_lag :
    let lag : Payload Rat := tf [1] [1, 2] (StateSpace.realize? [1] [1, 2])
    let impulse : Nat → Rat := fun n => if n = 0 then 1 else 0
    let constant : Nat → Rat := fun _ => 1
    lag.IsLinear ∧ lag.bufferSize ≤ Host.arrayLength ∧
      (lag.drivenOutput 0 1 impulse 2).toOption = some (1/9) ∧
      ∃ y y', lag.drivenOutput 0 1 impulse 2 = .ok y ∧
        lag.drivenOutput 0 1 constant 2 = .ok y' ∧
        lag.drivenOutput 0 1 (fun n => 5 * impulse n + 3 * constant n) 2 =
          .ok (5 * y + 3 * y') := by
  intro lag impulse constant
  have linear : lag.IsLinear := ⟨by simp [lag, kind, linearKinds], by simp [lag]⟩
  have room : lag.bufferSize ≤ Host.arrayLength := Nat.zero_le _
  exact ⟨linear, room, by decide +kernel,
    drivenOutput_superposed linear room 0 1 5 3 impulse constant 2⟩

end Payload

end SignalFlow
