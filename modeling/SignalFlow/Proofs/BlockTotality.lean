import SignalFlow.Host.Usual
import SignalFlow.Proofs.Doubles.Finite
import SignalFlow.Proofs.ParameterValues
import SignalFlow.Proofs.Persistence

/-! # Blocks on their own

A block on its own is resolved, started and run through some ticks (`Payload.trial`). Whatever its
kind and its parameters, as long as these resolve, only three things can keep it from that: a delay
that is no finite number of steps, a buffer or a matrix that does not fit into memory, and the sine
of an infinite angle (`Payload.exists_trial_eq_ok_iff`).
-/

namespace SignalFlow

namespace Payload

section Running

variable {α : Type} [Scalar α]

/-- Runs a machine with outputs and updates through some ticks, each with its time and inputs. -/
def ticksWith (output : α → Inputs α → Memory α → Except Fault (α × Memory α))
    (update : α → Inputs α → Memory α → Except Fault (Memory α)) :
    List (α × Inputs α) → Memory α → Except Fault (List α × Memory α)
  | [], memory => .ok ([], memory)
  | (time, inputs) :: rest, memory => do
      let (y, memory) ← output time inputs memory
      let memory ← update time inputs memory
      let (ys, last) ← ticksWith output update rest memory
      return (y :: ys, last)

/-- Runs a block through some ticks. -/
def ticksFrom (payload : Payload α) (dt : α) :
    List (α × Inputs α) → Memory α → Except Fault (List α × Memory α) :=
  ticksWith (payload.output · dt) fun time inputs memory =>
    .ok (payload.update time dt inputs memory)

/-- Runs a block through some ticks, breaking off at a position that is not there. -/
def boundedTicksFrom (payload : Payload α) (dt : α) :
    List (α × Inputs α) → Memory α → Except Fault (List α × Memory α) :=
  ticksWith (payload.boundedOutput · dt) (payload.boundedUpdate · dt)

/-- No position that a block looks at is missing, from a state that fits on. -/
theorem boundedTicksFrom_eq {payload : Payload α} (sound : payload.IsSound) (dt : α)
    (ticks : List (α × Inputs α)) {memory : Memory α} (fits : memory.Fits payload) :
    payload.boundedTicksFrom dt ticks memory = payload.ticksFrom dt ticks memory := by
  induction ticks generalizing memory with
  | nil => rfl
  | cons tick rest ih =>
      obtain ⟨time, inputs⟩ := tick
      unfold boundedTicksFrom ticksFrom ticksWith
      rw [boundedOutput_eq fits]
      cases yields : payload.output time dt inputs memory with
      | error fault => rfl
      | ok pair =>
          have kept := fits_output fits yields
          have updated := fits_update sound kept time dt inputs
          simp only [bind, Except.bind, boundedUpdate_eq sound kept]
          have same := ih updated
          unfold boundedTicksFrom ticksFrom at same
          rw [same]

end Running

/-- What a block takes the sine of at a time, if it takes one. -/
def angle? : Payload Float → Float → Option Float
  | .sine _ freq shift, time => some (2.0 * Scalar.pi * freq * time + shift)
  | .chirp _ f0 _ _ slope, time =>
      some (2.0 * Scalar.pi * (f0 * time + 0.5 * slope * time * time))
  | _, _ => none

/-- The output of a block is there unless it takes the sine of an infinite angle. -/
theorem exists_output_eq_ok_iff (payload : Payload Float) (time dt : Float) (inputs : Inputs Float)
    (memory : Memory Float) :
    (∃ result, payload.output time dt inputs memory = .ok result) ↔
      ∀ angle ∈ payload.angle? time, angle.isInf = false := by
  cases payload with
  | sine | chirp =>
      refine exists_bind_pure_eq_ok_iff.trans ((Scalar.exists_sin_eq_ok_iff _).trans ?_)
      simp [angle?]
  | tf num den model =>
      refine iff_of_true ?_ (by simp [angle?])
      cases model <;> cases memory <;> exact ⟨_, rfl⟩
  | _ =>
      refine iff_of_true ?_ (by simp [angle?])
      cases memory <;> exact ⟨_, rfl⟩

/-- **A run of a block gets through all its ticks unless an angle becomes infinite.** -/
theorem exists_ticksFrom_eq_ok_iff (payload : Payload Float) (dt : Float)
    (ticks : List (Float × Inputs Float)) (memory : Memory Float) :
    (∃ result, payload.ticksFrom dt ticks memory = .ok result) ↔
      ∀ tick ∈ ticks, ∀ angle ∈ payload.angle? tick.1, angle.isInf = false := by
  induction ticks generalizing memory with
  | nil => exact iff_of_true ⟨_, rfl⟩ (by simp)
  | cons tick rest ih =>
      obtain ⟨time, inputs⟩ := tick
      rw [List.forall_mem_cons, ← exists_output_eq_ok_iff payload time dt inputs memory]
      unfold ticksFrom ticksWith
      rw [exists_bind_eq_ok_iff, ← exists_and_right]
      refine exists_congr fun result => and_congr_right fun _ => ?_
      exact exists_bind_pure_eq_ok_iff.trans (ih _)

/-! ## Resolving -/

/-- A value resolves as a parameter of a type: to a number, to numbers, or to a text. -/
def Resolves [Host] (constants : Constants) (type : ParameterType) (value : Value) : Prop :=
  match type with
  | .float | .int => ∃ x, constants.resolve value = .ok x
  | .list => ∃ xs, constants.resolveList value = .ok xs
  | .string => ∃ text, textOf value = .ok text

/-- Each parameter of a block resolves: a number to a number, a list to numbers, a text to one that
can be written. -/
def IsResolvable [Host] (constants : Constants) (kind : Kind) (given : List (String × Value)) :
    Prop :=
  ∀ parameter ∈ kind.parameters,
    Resolves constants parameter.type (kind.parameter given parameter.name)

/-- A part completes, in whatever state it is started. -/
def Succeeds {β : Type} (part : Noted Fault β) : Prop := ∃ result, Gives part (.ok result)

section Succeeds

variable {β γ : Type}

theorem succeeds_pure (value : β) : Succeeds (pure value) := ⟨value, gives_pure value⟩

theorem succeeds_note (notice : Notice) : Succeeds (note notice) := ⟨(), gives_note notice⟩

theorem succeeds_ofExcept {value : Except Fault β} (present : ∃ result, value = .ok result) :
    Succeeds (Noted.ofExcept value) := by
  obtain ⟨result, rfl⟩ := present
  exact ⟨result, gives_ofExcept _⟩

theorem succeeds_bind {part : Noted Fault γ} {next : γ → Noted Fault β} (first : Succeeds part)
    (rest : ∀ middle, Gives part (.ok middle) → Succeeds (next middle)) :
    Succeeds (part >>= next) := by
  obtain ⟨middle, gives⟩ := first
  obtain ⟨result, last⟩ := rest middle gives
  exact ⟨result, gives_bind_of_ok gives last⟩

end Succeeds

section Resolving

variable [Host] {constants : Constants} {kind : Kind} {given : List (String × Value)} {dt : Float}

theorem IsResolvable.resolves (resolvable : IsResolvable constants kind given) {name : String}
    {types : List ParameterType} (listed : (kind.parameters.any fun parameter =>
      parameter.name == name && types.contains parameter.type) = true) :
    ∃ type ∈ types, Resolves constants type (kind.parameter given name) := by
  obtain ⟨parameter, member, same⟩ := List.any_eq_true.mp listed
  rw [Bool.and_eq_true, beq_iff_eq, List.contains_iff_mem] at same
  obtain ⟨rfl, typed⟩ := same
  exact ⟨parameter.type, typed, resolvable parameter member⟩

theorem succeeds_number (resolvable : IsResolvable constants kind given) (name : String)
    (listed : (kind.parameters.any fun parameter =>
      parameter.name == name && [.float, .int].contains parameter.type) = true) :
    Succeeds (do
      return Scalar.ofFloat (← Noted.ofExcept (constants.resolve (kind.parameter given name))) :
        Noted Fault Float) := by
  obtain ⟨type, typed, resolves⟩ := resolvable.resolves listed
  refine succeeds_bind (succeeds_ofExcept ?_) fun _ _ => succeeds_pure _
  rcases List.mem_pair.mp typed with rfl | rfl <;> exact resolves

theorem succeeds_floats (resolvable : IsResolvable constants kind given) (name : String)
    (listed : (kind.parameters.any fun parameter =>
      parameter.name == name && [.list].contains parameter.type) = true) :
    Succeeds (Noted.ofExcept (constants.resolveList (kind.parameter given name))) := by
  obtain ⟨type, typed, resolves⟩ := resolvable.resolves listed
  obtain rfl := List.mem_singleton.mp typed
  exact succeeds_ofExcept resolves

theorem succeeds_text (resolvable : IsResolvable constants kind given) (name : String)
    (listed : (kind.parameters.any fun parameter =>
      parameter.name == name && [.string].contains parameter.type) = true) :
    Succeeds (Noted.ofExcept (textOf (kind.parameter given name))) := by
  obtain ⟨type, typed, resolves⟩ := resolvable.resolves listed
  obtain rfl := List.mem_singleton.mp typed
  exact succeeds_ofExcept resolves

omit [Host] in
theorem exists_samplePeriod_eq_ok (ts : Float) :
    ∃ period, samplePeriod ts (.ofFloat dt) = .ok period := by
  unfold samplePeriod
  split <;> exact ⟨_, rfl⟩

/-- A number that a parameter resolves to is finite. -/
theorem ensures_isFinite_number (constants : Constants) (value : Value) :
    Ensures (fun x : Float => x.isFinite = true) (do
      return Scalar.ofFloat (← Noted.ofExcept (constants.resolve value)) : Noted Fault Float) := by
  intro before x after completes
  simp only [Noted.ofExcept, completes_bind, completes_liftExcept, completes_pure] at completes
  obtain ⟨y, _, ⟨resolved, -⟩, rfl, -⟩ := completes
  exact (Constants.failsIff_resolve constants value).of_eq_ok resolved

theorem isFinite_of_gives {value : Value} {x : Float}
    (gives : Gives (do return Scalar.ofFloat (← Noted.ofExcept (constants.resolve value)) :
      Noted Fault Float) (.ok x)) : x.isFinite = true := by
  obtain ⟨after, completes⟩ := exists_completes_iff.mpr (gives [])
  exact ensures_isFinite_number constants value [] x after completes

omit [Host] in
theorem succeeds_round {x : Float} (finite : x.isFinite = true) :
    Succeeds (Noted.ofExcept (Scalar.round x)) :=
  succeeds_ofExcept ((Scalar.exists_round_eq_ok_iff x).mpr finite)

theorem exists_signs_eq_ok {value : Value}
    (resolves : ∃ xs, constants.resolveList value = .ok xs) :
    ∃ xs, signs constants value = .ok xs := by
  unfold signs
  split
  · split
    · exact ⟨_, rfl⟩
    · exact resolves
  · exact resolves

theorem exists_modelOf_eq_ok_iff {num den : List Float} :
    (∃ model, modelOf num den = .ok model) ↔ StateSpace.matrixSize den ≤ Host.arrayLength := by
  unfold modelOf
  split
  · next exceeds => simpa using exceeds
  · next fits => simpa using fits

/-- Any block but a transport delay and a transfer function gets its payload if its parameters
resolve. -/
theorem succeeds_resolve (resolvable : IsResolvable constants kind given)
    (noDelay : kind ≠ .delay) (noTransfer : kind ≠ .tf) :
    Succeeds (Payload.resolve kind given constants (.ofFloat dt) :
      Noted Fault (Payload Float)) := by
  have number := succeeds_number resolvable
  have floats := succeeds_floats resolvable
  have text := succeeds_text resolvable
  have pure {β : Type} (value : β) : Succeeds (pure value) := succeeds_pure value
  have period (ts : Float) : Succeeds (Noted.ofExcept (samplePeriod ts (.ofFloat dt))) :=
    succeeds_ofExcept (exists_samplePeriod_eq_ok ts)
  unfold resolve
  cases kind with
  | mult | derivative | unsupported => exact pure _
  | labelSource | labelSink | scope | fileSink =>
      exact succeeds_bind (text _ rfl) fun _ _ => pure _
  | constant | step | gain | integrator | backlash | lpf | hpf =>
      exact succeeds_bind (number _ rfl) fun _ _ => pure _
  | ramp | impulse | saturation | rate =>
      exact succeeds_bind (number _ rfl) fun _ _ => succeeds_bind (number _ rfl) fun _ _ => pure _
  | sine | pid =>
      exact succeeds_bind (number _ rfl) fun _ _ => succeeds_bind (number _ rfl) fun _ _ =>
        succeeds_bind (number _ rfl) fun _ _ => pure _
  | chirp | stateSpace =>
      exact succeeds_bind (number _ rfl) fun _ _ => succeeds_bind (number _ rfl) fun _ _ =>
        succeeds_bind (number _ rfl) fun _ _ => succeeds_bind (number _ rfl) fun _ _ => pure _
  | sum =>
      have signs := exists_signs_eq_ok (resolvable _ List.mem_cons_self)
      exact succeeds_bind (succeeds_ofExcept signs) fun _ _ => pure _
  | noise =>
      exact succeeds_bind (number _ rfl) fun _ _ => succeeds_bind (number _ rfl) fun seed gives =>
        succeeds_bind (succeeds_round (isFinite_of_gives gives)) fun _ _ => pure _
  | ddelay =>
      refine succeeds_bind (number _ rfl) fun steps gives => succeeds_bind (number _ rfl) fun _ _ =>
        succeeds_bind (succeeds_round ?_) fun _ _ => pure _
      exact Scalar.isFinite_orElse (isFinite_of_gives gives) (by decide)
  | zoh | foh =>
      exact succeeds_bind (number _ rfl) fun ts _ => succeeds_bind (period ts) fun _ _ => pure _
  | dstateSpace =>
      exact succeeds_bind (number _ rfl) fun _ _ => succeeds_bind (number _ rfl) fun _ _ =>
        succeeds_bind (number _ rfl) fun _ _ => succeeds_bind (number _ rfl) fun _ _ =>
          succeeds_bind (number _ rfl) fun ts _ => succeeds_bind (period ts) fun _ _ => pure _
  | switch =>
      refine succeeds_bind (number _ rfl) fun threshold _ =>
        succeeds_bind (text _ rfl) fun _ _ => ?_
      split
      · exact pure _
      · exact succeeds_bind (succeeds_note _) fun _ _ => pure _
  | dtf =>
      refine succeeds_bind (floats _ rfl) fun num _ => succeeds_bind (floats _ rfl) fun den _ =>
        succeeds_bind (number _ rfl) fun ts _ => ?_
      split
      · exact succeeds_bind (succeeds_note _) fun _ _ => succeeds_bind (period ts) fun _ _ => pure _
      · exact succeeds_bind (period ts) fun _ _ => pure _
  | delay => exact absurd rfl noDelay
  | tf => exact absurd rfl noTransfer

/-- A transfer function gets its payload if there is memory for its matrix. -/
theorem succeeds_resolve_tf_iff (resolvable : IsResolvable constants .tf given) :
    Succeeds (Payload.resolve .tf given constants (.ofFloat dt) : Noted Fault (Payload Float)) ↔
      ∀ den, constants.resolveList (Kind.tf.parameter given "den") = .ok den →
        StateSpace.matrixSize den ≤ Host.arrayLength := by
  have same (xs : List Float) : xs.map Scalar.ofFloat = xs := List.map_id xs
  constructor
  · rintro ⟨payload, gives⟩ den resolves
    have roomy : Ensures (fun _ => StateSpace.matrixSize den ≤ Host.arrayLength)
        (Payload.resolve .tf given constants (.ofFloat dt) : Noted Fault (Payload Float)) := by
      refine ensures_resolve_tf fun num other found => ensures_bind_of
        (fun before model after completes => ?_) fun _ fits => ensures_pure fits
      cases resolves.symm.trans found
      rw [same] at completes
      exact exists_modelOf_eq_ok_iff.mp ⟨model, (completes_liftExcept.mp completes).1⟩
    obtain ⟨after, completes⟩ := exists_completes_iff.mpr (gives [])
    exact roomy [] payload after completes
  · intro fits
    have floats := succeeds_floats resolvable
    unfold resolve
    refine succeeds_bind (floats _ rfl) fun num _ =>
      succeeds_bind (floats _ rfl) fun den given => ?_
    have resolves : constants.resolveList (Kind.tf.parameter _ "den") = .ok den :=
      (gives_ofExcept _ []).symm.trans (given [])
    have modelled : Succeeds (do
        return tf num den (← Noted.ofExcept (modelOf num den)) : Noted Fault (Payload Float)) :=
      succeeds_bind (succeeds_ofExcept (exists_modelOf_eq_ok_iff.mpr (fits den resolves)))
        fun _ _ => succeeds_pure _
    simp only [same]
    cases StateSpace.realizationNotice? num den with
    | none =>
        dsimp only
        split
        · exact succeeds_bind (succeeds_note _) fun _ _ => modelled
        · exact modelled
    | some notice =>
        refine succeeds_bind (succeeds_note notice) fun _ _ => ?_
        split
        · exact succeeds_bind (succeeds_note _) fun _ _ => modelled
        · exact modelled

omit [Host] in
/-- A transport delay takes a number of ticks if it is a finite number of steps. -/
theorem exists_delaySteps_eq_ok_iff (positive : 0.0 < dt) (delay : Float) :
    (∃ steps, delaySteps delay (.ofFloat dt) = .ok steps) ↔ (delay / dt).isFinite = true := by
  have same : delaySteps delay (.ofFloat dt) =
      Scalar.round (delay / dt) >>= fun steps => .ok (Nat.max 1 steps.toNat) := by
    change (if dt ≤ 0.0 then Except.ok 1 else _) = _
    rw [if_neg (Binary64.not_le_zero_of_pos positive)]
    rfl
  rw [same]
  exact exists_bind_pure_eq_ok_iff.trans (Scalar.exists_round_eq_ok_iff _)

/-- A transport delay gets its payload if its delay is a finite number of steps. -/
theorem succeeds_resolve_delay_iff (resolvable : IsResolvable constants .delay given)
    (positive : 0.0 < dt) :
    Succeeds (Payload.resolve .delay given constants (.ofFloat dt) : Noted Fault (Payload Float)) ↔
      ∀ delay, constants.resolve (Kind.delay.parameter given "delay") = .ok delay →
        (delay / dt).isFinite = true := by
  constructor
  · rintro ⟨payload, gives⟩ delay resolves
    obtain ⟨after, completes⟩ := exists_completes_iff.mpr (gives [])
    simp only [resolve, Noted.ofExcept, completes_bind, completes_liftExcept, completes_pure]
      at completes
    obtain ⟨time, _, ⟨_, _, ⟨found, -⟩, rfl, -⟩, steps, _, ⟨counted, -⟩, -⟩ := completes
    cases resolves.symm.trans found
    exact (exists_delaySteps_eq_ok_iff positive _).mp ⟨steps, counted⟩
  · intro steps
    obtain ⟨time, resolves⟩ : ∃ time,
        constants.resolve (Kind.delay.parameter given "delay") = .ok time :=
      resolvable _ List.mem_cons_self
    have number : Gives (do
        return Scalar.ofFloat (← Noted.ofExcept
          (constants.resolve (Kind.delay.parameter given "delay"))) : Noted Fault Float)
        (.ok time) :=
      gives_bind_of_ok (by rw [resolves]; exact gives_ofExcept _) (gives_pure time)
    have counts := (exists_delaySteps_eq_ok_iff positive time).mpr (steps time resolves)
    obtain ⟨payload, gives⟩ := succeeds_bind (succeeds_ofExcept counts) fun steps _ =>
      succeeds_pure (delay time steps)
    exact ⟨payload, gives_bind_of_ok number gives⟩

end Resolving

/-! ## Divisions -/

/-- What a block divides by, apart from fixed numbers. -/
def divisors (dt : Float) : Payload Float → List Float
  | .impulse .. | .derivative | .pid .. => [divisor dt]
  | .chirp _ _ _ t1 _ => [t1]
  | .delay .. => [dt]
  | .tf _ den _ | .dtf _ den _ _ => [(Recurrence.denominator den).headD 1.0]
  | .foh ts => [ts]
  | _ => []

/-- A coefficient that equals zero counts as zero. -/
theorem isNegligible_of_eq_zero {x : Float} (same : (x == 0.0) = true) :
    Polynomial.isNegligible x = true := by
  have notNegative : ¬ x < 0.0 := by
    obtain ⟨sign, isZero⟩ := Binary64.exists_unpack_of_eq_zero same
    rw [Binary64.lt_iff, isZero, Binary64.unpack_zero]
    exact nofun
  have positive : (0.0 : Float) < Polynomial.tolerance := by decide
  unfold Polynomial.isNegligible Scalar.abs
  rw [if_neg notNegative, decide_eq_true_iff]
  exact Binary64.lt_of_eq_zero positive same

/-- The leading coefficient of a denominator is not zero. -/
theorem leading_ne_zero (den : List Float) :
    ((Recurrence.denominator den).headD 1.0 == 0.0) = false := by
  have one : ((1.0 : Float) == 0.0) = false := by decide
  unfold Recurrence.denominator
  split
  · exact one
  · next nonzero =>
      unfold Polynomial.normalize
      cases trimmed : Polynomial.trim (Polynomial.clean den) with
      | nil => exact absurd ((Polynomial.trim_clean_eq_nil_iff den).mp trimmed) nonzero
      | cons leading rest =>
          have kept := List.head?_dropWhile_not Polynomial.isNegligible (Polynomial.clean den)
          rw [show (Polynomial.clean den).dropWhile Polynomial.isNegligible = leading :: rest
            from trimmed] at kept
          refine Bool.eq_false_iff.mpr fun same => ?_
          have negligible : Polynomial.isNegligible leading = true := isNegligible_of_eq_zero same
          simp [negligible] at kept

/-- **A block of a diagram with a positive step divides by zero nowhere.** -/
theorem divisor_ne_zero [Host] {constants : Constants} {dt : Float} {block : Block String}
    {payload : Payload Float} (positive : 0.0 < dt)
    (resolves : resolved constants (.ofFloat dt) block = .ok payload) :
    ∀ divided ∈ payload.divisors dt, (divided == 0.0) = false := by
  have step : (divisor dt == 0.0) = false := Scalar.max_ne_zero positive
  have kind := kind_of_resolved resolves
  obtain ⟨after, completes⟩ := exists_completes_iff.mpr resolves
  cases payload with
  | impulse | derivative | pid => simpa [divisors] using step
  | delay => simpa [divisors] using Binary64.ne_zero_of_pos positive
  | tf | dtf => simpa [divisors] using leading_ne_zero _
  | chirp amp f0 f1 t1 slope =>
      rw [← show Kind.chirp = block.kind from kind] at completes
      simp only [resolve, Noted.ofExcept, completes_bind, completes_liftExcept, completes_pure]
        at completes
      obtain ⟨_, _, -, _, _, -, _, _, -, t1, _, -, same, -⟩ := completes
      cases same
      simpa [divisors] using Scalar.max_ne_zero (by decide)
  | foh ts =>
      rw [← show Kind.foh = block.kind from kind] at completes
      simp only [resolve, Noted.ofExcept, completes_bind, completes_liftExcept, completes_pure]
        at completes
      obtain ⟨given, _, -, period, _, ⟨sampled, -⟩, same, -⟩ := completes
      cases same
      unfold samplePeriod at sampled
      split at sampled <;> cases sampled <;>
        simpa [divisors, minimalPeriod] using Scalar.max_ne_zero (by decide)
  | _ => simp [divisors]

/-! ## Trials -/

/-- What a block does on its own: its payload, its first state, its outputs in some ticks and the
state that it is left in. -/
def trial [Host] (constants : Constants) (dt : Float) (block : Block String)
    (ticks : List (Float × Inputs Float)) :
    Except Fault (Payload Float × Memory Float × List Float × Memory Float) := do
  let payload ← resolved constants (.ofFloat dt) block
  let memory ← payload.start
  let (outputs, last) ← payload.ticksFrom dt ticks memory
  return (payload, memory, outputs, last)

/-- Nothing in a block exceeds what it computes with: the number of steps of a transport delay, the
memory for the matrix of a transfer function and for a buffer, and the angles of a sine. -/
structure IsTame [Host] (constants : Constants) (dt : Float) (block : Block String)
    (times : List Float) : Prop where
  steps : block.kind = .delay → ∀ delay,
    constants.resolve (block.kind.parameter block.params "delay") = .ok delay →
      (delay / dt).isFinite = true
  matrix : block.kind = .tf → ∀ den,
    constants.resolveList (block.kind.parameter block.params "den") = .ok den →
      StateSpace.matrixSize den ≤ Host.arrayLength
  buffer {payload : Payload Float} : resolved constants (.ofFloat dt) block = .ok payload →
    payload.bufferSize ≤ Host.arrayLength
  angle {payload : Payload Float} : resolved constants (.ofFloat dt) block = .ok payload →
    ∀ time ∈ times, ∀ angle ∈ payload.angle? time, angle.isInf = false

section Trial

variable [Host] {constants : Constants} {dt : Float} {block : Block String}
  (resolvable : IsResolvable constants block.kind block.params) (positive : 0.0 < dt)
include resolvable positive

/-- A block gets its payload unless it is a delay of too many steps, or a transfer function whose
matrix does not fit into memory. -/
theorem exists_resolved_eq_ok_iff :
    (∃ payload : Payload Float, resolved constants (.ofFloat dt) block = .ok payload) ↔
      (block.kind = .delay → ∀ delay,
        constants.resolve (block.kind.parameter block.params "delay") = .ok delay →
          (delay / dt).isFinite = true) ∧
      (block.kind = .tf → ∀ den,
        constants.resolveList (block.kind.parameter block.params "den") = .ok den →
          StateSpace.matrixSize den ≤ Host.arrayLength) := by
  have succeeds : (∃ payload : Payload Float,
      resolved constants (.ofFloat dt) block = .ok payload) ↔
      Succeeds (Payload.resolve block.kind block.params constants (.ofFloat dt) :
        Noted Fault (Payload Float)) := by
    have gives := (isOblivious_resolve block.kind block.params constants
      (.ofFloat dt : Setting Float)).gives []
    exact ⟨fun ⟨payload, same⟩ => ⟨payload, same ▸ gives⟩,
      fun ⟨payload, gives⟩ => ⟨payload, gives []⟩⟩
  rw [succeeds]
  by_cases isDelay : block.kind = .delay
  · rw [isDelay] at resolvable ⊢
    rw [succeeds_resolve_delay_iff resolvable positive]
    exact ⟨fun steps => ⟨fun _ => steps, nofun⟩, fun fits => fits.1 rfl⟩
  by_cases isTransfer : block.kind = .tf
  · rw [isTransfer] at resolvable ⊢
    rw [succeeds_resolve_tf_iff resolvable]
    exact ⟨fun matrix => ⟨nofun, fun _ => matrix⟩, fun fits => fits.2 rfl⟩
  · exact iff_of_true (succeeds_resolve resolvable isDelay isTransfer)
      ⟨fun same => absurd same isDelay, fun same => absurd same isTransfer⟩

/-- **A block whose parameters resolve gets through every trial exactly if it is tame**, and in none
does it divide by zero or look at a position that is not there. If it has a model, its matrix fits
into memory. -/
theorem exists_trial_eq_ok_iff (ticks : List (Float × Inputs Float)) :
    ((∃ result, trial constants dt block ticks = .ok result) ↔
      IsTame constants dt block (ticks.map (·.1))) ∧
    ∀ payload, resolved constants (.ofFloat dt) block = .ok payload →
      (∀ divided ∈ payload.divisors dt, (divided == 0.0) = false) ∧
        (∀ num den model, payload = .tf num den (some model) →
          model.order * model.order ≤ Host.arrayLength) ∧
        ∀ memory, payload.start = .ok memory →
          payload.boundedTicksFrom dt ticks memory = payload.ticksFrom dt ticks memory := by
  refine ⟨?_, fun payload resolves => ⟨divisor_ne_zero positive resolves, ?_,
    fun memory started => ?_⟩⟩
  · have ran : (∃ result, trial constants dt block ticks = .ok result) ↔
        ∃ payload, resolved constants (.ofFloat dt) block = .ok payload ∧
          payload.bufferSize ≤ Host.arrayLength ∧
            ∀ tick ∈ ticks, ∀ angle ∈ payload.angle? tick.1, angle.isInf = false := by
      unfold trial
      rw [exists_bind_eq_ok_iff]
      refine exists_congr fun payload => and_congr_right fun _ => ?_
      rw [exists_bind_eq_ok_iff, ← exists_start_eq_ok_iff, ← exists_and_right]
      refine exists_congr fun memory => and_congr_right fun _ => ?_
      rw [← exists_ticksFrom_eq_ok_iff payload dt ticks memory]
      exact exists_bind_pure_eq_ok_iff
    rw [ran]
    constructor
    · rintro ⟨payload, resolves, buffer, angles⟩
      have fits := (exists_resolved_eq_ok_iff resolvable positive).mp ⟨payload, resolves⟩
      refine ⟨fits.1, fits.2, ?_, ?_⟩
      · intro other same
        cases resolves.symm.trans same
        exact buffer
      · intro other same
        cases resolves.symm.trans same
        simpa using angles
    · intro tame
      obtain ⟨payload, resolves⟩ :=
        (exists_resolved_eq_ok_iff resolvable positive).mpr ⟨tame.steps, tame.matrix⟩
      refine ⟨payload, resolves, tame.buffer resolves, fun tick member => ?_⟩
      exact tame.angle resolves _ (List.mem_map_of_mem member)
  · rintro num den model rfl
    exact matrix_le_of_resolved resolves
  · have sound := isSound_of_resolved resolves
    exact boundedTicksFrom_eq sound dt ticks (fits_start sound started)

end Trial

/-- A sine so fast that its angle is infinite after a second. -/
def fastSine : Block String := ⟨"fast", "sine", [("amp", .int 0), ("freq", .float 1e308)]⟩

open Host.Usual

theorem isResolvable_fastSine : IsResolvable .standard fastSine.kind fastSine.params := by
  intro parameter member
  change parameter ∈ Kind.sine.parameters at member
  rw [Kind.parameters, List.mem_cons, List.mem_cons, List.mem_singleton] at member
  obtain rfl | rfl | rfl := member <;> exact ⟨_, rfl⟩

theorem fastSine_breaks_off :
    ¬ ∃ result, trial .standard 1.0 fastSine [(1.0, [])] = .ok result := by
  have breaks : (trial .standard 1.0 fastSine [(1.0, [])]).toOption.isSome = false := by
    decide +kernel
  rintro ⟨result, ran⟩
  rw [ran] at breaks
  cases breaks

/-- The fast sine is tame at time zero, and no more after a second. -/
theorem isTame_fastSine :
    IsResolvable .standard fastSine.kind fastSine.params ∧ (0.0 : Float) < 1.0 ∧
      IsTame .standard 1.0 fastSine [0.0] ∧ ¬ IsTame .standard 1.0 fastSine [1.0] := by
  have positive : (0.0 : Float) < 1.0 := by decide
  have trials (ticks : List (Float × Inputs Float)) :=
    (exists_trial_eq_ok_iff isResolvable_fastSine positive ticks).1
  have starts : (trial .standard 1.0 fastSine [(0.0, [])]).toOption.any (fun _ => true) = true := by
    decide +kernel
  obtain ⟨result, ran, -⟩ := exists_of_toOption_any starts
  exact ⟨isResolvable_fastSine, positive, (trials [(0.0, [])]).mp ⟨result, ran⟩,
    fun tame => fastSine_breaks_off ((trials [(1.0, [])]).mpr tame)⟩

/-- A block with finite parameters and a finite step may break off in a tick. -/
theorem trial_fastSine : IsResolvable .standard fastSine.kind fastSine.params ∧
    (0.0 : Float) < 1.0 ∧ (1.0 : Float).isFinite = true ∧
      ¬ ∃ result, trial .standard 1.0 fastSine [(1.0, [])] = .ok result :=
  ⟨isResolvable_fastSine, by decide, by decide, fastSine_breaks_off⟩

end Payload

end SignalFlow
