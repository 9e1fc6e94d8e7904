import SignalFlow.Host.Usual
import SignalFlow.Proofs.Resolved
import SignalFlow.Proofs.RunState

/-! # Persistent states keep their sizes

A block reads its persistent state by position: slots of a line, samples under way, past inputs and
outputs. That these are there is an invariant of each kind of block (`Memory.Fits`): a block starts
with a state that fits its parameters, and neither its output nor its update leaves the sizes that
they demand. In a run this holds of all blocks at once (`Compiled.Reachable.fits_memory`), so the
positions that the blocks look at are always there (`Payload.StaysInRange`).
-/

namespace SignalFlow

variable {α : Type} [Scalar α]

/-- Whether a block has no persistent state. -/
def Payload.isStateless : Payload α → Bool
  | .constant _ | .step _ | .ramp .. | .impulse .. | .sine .. | .chirp .. | .gain _ | .sum _ | .mult
  | .saturation .. | .switch .. | .tf _ _ none | .labelSource _ | .labelSink _ | .scope _
  | .fileSink _ | .unsupported => true
  | _ => false

/-- The persistent state of a block has the sizes that its parameters demand. -/
inductive Memory.Fits : Memory α → Payload α → Prop
  | empty {payload : Payload α} (stateless : payload.isStateless = true) : Fits .empty payload
  | noise {amp : α} {seed rng : UInt32} (range : rng.toNat < 4294967296) :
      Fits (.noise rng) (.noise amp seed)
  | integrator {initial x : α} : Fits (.integrator x) (.integrator initial)
  | derivative {prev out : α} : Fits (.derivative prev out) .derivative
  | delay {time : α} {steps idx : Nat} {buffer : Array α} (size : buffer.size = steps + 1)
      (inside : idx ≤ steps) : Fits (.delay buffer idx) (.delay time steps)
  | rate {rise fall y : α} : Fits (.rate y) (.rate rise fall)
  | backlash {width y : α} : Fits (.backlash y) (.backlash width)
  | lpf {cutoff wc x : α} : Fits (.lpf x) (.lpf cutoff wc)
  | hpf {cutoff wc x out : α} : Fits (.hpf x out) (.hpf cutoff wc)
  | pid {kp ki kd integral prev out : α} : Fits (.pid integral prev out) (.pid kp ki kd)
  | tf {num den x : List α} {model : StateSpace α} (length : x.length = model.order) :
      Fits (.tf x) (.tf num den (some model))
  | stateSpace {a b c d x out : α} : Fits (.stateSpace x out) (.stateSpace a b c d)
  | ddelay {steps : Nat} {ts last next : α} {buffer : List α} (length : buffer.length = steps) :
      Fits (.ddelay buffer last next) (.ddelay steps ts)
  | zoh {ts held next : α} : Fits (.zoh held next) (.zoh ts)
  | foh {ts prev last lastTime slope next : α} :
      Fits (.foh prev last lastTime slope next) (.foh ts)
  | dtf {num den inputs outputs : List α} {ts last next : α} {model : Recurrence α}
      (inputs_length : inputs.length = model.num.length)
      (outputs_length : outputs.length + 1 = model.den.length) :
      Fits (.dtf inputs outputs last next) (.dtf num den ts model)
  | dstateSpace {a b c d ts x out next : α} :
      Fits (.dstateSpace x out next) (.dstateSpace a b c d ts)

/-- The generator computes modulo `2 ^ 32`. -/
theorem toNat_nextNoise (state : UInt32) :
    (nextNoise state).toNat = (1664525 * state.toNat + 1013904223) % 4294967296 := by
  simp [nextNoise]

theorem eq_replicate_of_emptyBuffer [Host] {length : Nat} {buffer : List α}
    (made : emptyBuffer length = .ok buffer) : buffer = List.replicate length 0.0 := by
  obtain ⟨allowed, bounded, made⟩ := bind_eq_ok_iff.mp made
  cases made
  unfold bufferLength at bounded
  split at bounded
  · cases bounded
  · split at bounded
    · cases bounded
    · cases bounded
      rfl

theorem exists_emptyBuffer_eq_ok_iff [Host] (length : Nat) :
    (∃ buffer : List α, emptyBuffer length = .ok buffer) ↔ length ≤ Host.arrayLength := by
  have order : Host.arrayLength < largestLength := Host.arrayLength_lt
  unfold emptyBuffer bufferLength
  by_cases huge : largestLength ≤ length
  · simp [huge, bind, Except.bind]
    omega
  · by_cases large : Host.arrayLength < length
    · simp [huge, large, bind, Except.bind]
    · simp [huge, large, bind, Except.bind, pure, Except.pure]
      omega

omit [Scalar α] in
theorem length_shiftIn (value : α) (items : List α) :
    (Payload.shiftIn value items).length = items.length := by
  simp [Payload.shiftIn]

namespace Payload

variable {payload : Payload α} {memory : Memory α}

theorem start_eq_empty_iff [Host] (payload : Payload α) :
    payload.start = .ok .empty ↔ payload.isStateless = true := by
  cases payload with
  | delay time steps | ddelay steps ts =>
      refine iff_of_false (fun started => ?_) Bool.false_ne_true
      obtain ⟨buffer, -, started⟩ := bind_eq_ok_iff.mp started
      cases started
  | tf num den model => cases model <;> simp [start, isStateless]
  | _ => simp [start, isStateless]

/-- A block starts with a state that fits. -/
theorem fits_start [Host] (sound : payload.IsSound) (started : payload.start = .ok memory) :
    memory.Fits payload := by
  cases payload with
  | delay time steps =>
      obtain ⟨buffer, made, started⟩ := bind_eq_ok_iff.mp started
      cases started
      rw [eq_replicate_of_emptyBuffer made]
      exact .delay (by simp) (Nat.zero_le _)
  | ddelay steps ts =>
      obtain ⟨buffer, made, started⟩ := bind_eq_ok_iff.mp started
      cases started
      rw [eq_replicate_of_emptyBuffer made]
      exact .ddelay List.length_replicate
  | tf num den model =>
      cases model with
      | none =>
          cases started
          exact .empty ((start_eq_empty_iff _).mp rfl)
      | some model =>
          cases started
          exact .tf (Vector.length_zero _)
  | dtf num den ts model =>
      cases started
      refine .dtf (Vector.length_zero _) ?_
      rw [Vector.length_zero]
      exact Nat.sub_add_cancel sound.2
  | noise amp seed =>
      cases started
      exact .noise seed.toNat_lt
  | constant | step | ramp | impulse | sine | chirp | gain | sum | mult | saturation | switch
  | labelSource | labelSink | scope | fileSink | unsupported =>
      cases started
      exact .empty ((start_eq_empty_iff _).mp rfl)
  | _ =>
      cases started
      constructor

/-- The length of the buffer that a block keeps its signal in. -/
def bufferSize : Payload α → Nat
  | .delay _ steps => steps + 1
  | .ddelay steps _ => steps
  | _ => 0

/-- A block starts exactly if its buffer fits into memory. -/
theorem exists_start_eq_ok_iff [Host] (payload : Payload α) :
    (∃ memory, payload.start = .ok memory) ↔ payload.bufferSize ≤ Host.arrayLength := by
  cases payload with
  | delay time steps =>
      exact exists_bind_pure_eq_ok_iff.trans (exists_emptyBuffer_eq_ok_iff _)
  | ddelay steps ts =>
      exact exists_bind_pure_eq_ok_iff.trans (exists_emptyBuffer_eq_ok_iff _)
  | tf num den model => cases model <;> exact iff_of_true ⟨_, rfl⟩ (Nat.zero_le _)
  | _ => exact iff_of_true ⟨_, rfl⟩ (Nat.zero_le _)

/-- Only the noise generator advances when its output is read. -/
theorem memory_of_output {time dt value : α} {inputs : Inputs α} {next : Memory α}
    (other : payload.kind ≠ .noise)
    (yields : payload.output time dt inputs memory = .ok (value, next)) : next = memory := by
  cases payload with
  | noise amp seed => exact absurd rfl other
  | sine | chirp =>
      obtain ⟨_, -, yields⟩ := bind_eq_ok_iff.mp yields
      cases yields
      rfl
  | tf num den model =>
      cases model <;> cases memory <;> cases yields <;> rfl
  | _ => cases memory <;> cases yields <;> rfl

/-- Reading the output leaves a state that fits. -/
theorem fits_output {time dt value : α} {inputs : Inputs α} {next : Memory α}
    (fits : memory.Fits payload)
    (yields : payload.output time dt inputs memory = .ok (value, next)) : next.Fits payload := by
  by_cases isNoise : payload.kind = .noise
  · cases fits with
    | noise =>
        cases yields
        refine .noise ?_
        rw [toNat_nextNoise]
        exact Nat.mod_lt _ (by decide)
    | empty stateless => cases payload <;> cases isNoise; cases stateless
    | _ => cases isNoise
  · rw [memory_of_output isNoise yields]
    exact fits

/-- A block without a state has none to update. -/
theorem update_empty (time dt : α) (inputs : Inputs α) :
    payload.update time dt inputs .empty = .empty := by
  cases payload with
  | tf num den model => cases model <;> rfl
  | _ => rfl

/-- The update leaves a state that fits. -/
theorem fits_update (sound : payload.IsSound) (fits : memory.Fits payload) (time dt : α)
    (inputs : Inputs α) : (payload.update time dt inputs memory).Fits payload := by
  cases fits with
  | empty stateless =>
      rw [update_empty]
      exact .empty stateless
  | noise range => exact .noise range
  | @delay _ steps idx buffer size inside =>
      refine .delay ?_ ?_
      · rw [Array.size_setIfInBounds, size]
      · rw [size]
        exact Nat.le_of_lt_succ (Nat.mod_lt _ (Nat.succ_pos steps))
  | tf length => exact .tf (StateSpace.HasShape.length_advance sound length _ _)
  | ddelay length =>
      unfold update
      dsimp only
      split
      · refine .ddelay ?_
        rw [List.length_append, List.length_tail, length, List.length_singleton]
        exact Nat.sub_add_cancel sound
      · exact .ddelay length
  | dtf inputs_length outputs_length =>
      unfold update
      dsimp only
      split
      · refine .dtf ?_ ?_
        · rw [length_shiftIn, inputs_length]
        · rw [length_shiftIn, outputs_length]
      · exact .dtf inputs_length outputs_length
  | zoh | foh | dstateSpace =>
      unfold update
      dsimp only
      split <;> constructor
  | _ => constructor

/-! ## Positions in range -/

/-- What is at a position that has to be there. -/
def present {β : Type} (item : Option β) : Except Fault β :=
  match item with
  | some item => .ok item
  | none => .error .outOfRange

theorem present_some_bind {β γ : Type} (item : β) (next : β → Except Fault γ) :
    (present (some item) >>= next) = next item := rfl

/-- The slot of a line that a count of slots leads to, going round. -/
def slot? (size count : Nat) : Option Nat := if size = 0 then none else some (count % size)

/-- A line with a value in a slot. -/
def write? (buffer : Array α) (slot : Nat) (value : α) : Option (Array α) :=
  if slot < buffer.size then some (buffer.setIfInBounds slot value) else none

/-- A list without its last item. -/
def dropLast? (items : List α) : Option (List α) :=
  if items.isEmpty then none else some items.dropLast

theorem slot?_of_pos {size : Nat} (positive : 0 < size) (count : Nat) :
    slot? size count = some (count % size) :=
  if_neg (Nat.ne_of_gt positive)

omit [Scalar α] in
theorem write?_of_lt {buffer : Array α} {slot : Nat} (inside : slot < buffer.size) (value : α) :
    write? buffer slot value = some (buffer.setIfInBounds slot value) :=
  if_pos inside

/-- The output of a block that breaks off at a position that is not there. -/
def boundedOutput (payload : Payload α) (time dt : α) (inputs : Inputs α) (memory : Memory α) :
    Except Fault (α × Memory α) :=
  match payload, memory with
  | .delay .., .delay buffer idx => return (← present buffer[idx]?, memory)
  | payload, memory => payload.output time dt inputs memory

/-- The update of a block that breaks off at a position that is not there. -/
def boundedUpdate (payload : Payload α) (time dt : α) (inputs : Inputs α) (memory : Memory α) :
    Except Fault (Memory α) :=
  let u := Inputs.value inputs 0
  match payload, memory with
  | .delay _ steps, .delay buffer idx => do
      let target ← present (slot? buffer.size (idx + steps))
      let written ← present (write? buffer target u)
      return .delay written (← present (slot? buffer.size (idx + 1)))
  | .ddelay _ ts, .ddelay buffer _ next =>
      if clockFires time next then do
        let rest ← present buffer.tail?
        return .ddelay (rest ++ [u]) (← present (rest ++ [u]).head?) (next + ts)
      else .ok memory
  | .dtf _ _ ts model, .dtf past outputs _ next =>
      if clockFires time next then do
        let past ← present (dropLast? (u :: past))
        let y := model.evaluate past outputs
        let outputs ← if outputs.isEmpty then .ok outputs else present (dropLast? (y :: outputs))
        return .dtf past outputs y (next + ts)
      else .ok memory
  | payload, memory => .ok (payload.update time dt inputs memory)

theorem boundedOutput_eq (fits : memory.Fits payload) (time dt : α) (inputs : Inputs α) :
    payload.boundedOutput time dt inputs memory = payload.output time dt inputs memory := by
  cases fits with
  | empty => cases payload <;> rfl
  | @delay _ steps idx buffer size inside =>
      have found : idx < buffer.size := by omega
      unfold boundedOutput output
      simp [found, present]
  | _ => rfl

theorem boundedUpdate_eq (sound : payload.IsSound) (fits : memory.Fits payload) (time dt : α)
    (inputs : Inputs α) :
    payload.boundedUpdate time dt inputs memory = .ok (payload.update time dt inputs memory) := by
  cases fits with
  | empty => cases payload <;> rfl
  | @delay _ steps idx buffer size inside =>
      have positive : 0 < buffer.size := by omega
      have target : (idx + steps) % buffer.size < buffer.size := Nat.mod_lt _ positive
      unfold boundedUpdate
      simp only [slot?_of_pos positive, present_some_bind, write?_of_lt target]
      rfl
  | @ddelay steps ts last next buffer length =>
      obtain ⟨oldest, rest, rfl⟩ := List.exists_cons_of_length_pos (length ▸ sound)
      unfold boundedUpdate update
      dsimp only
      split
      · cases rest <;> rfl
      · rfl
  | @dtf _ _ inputs outputs =>
      unfold boundedUpdate update
      dsimp only
      split
      · cases outputs <;> rfl
      · rfl
  | _ => rfl

/-- Whatever fitting state a block has, the positions that it looks at are there, and it leaves a
state that fits. -/
structure StaysInRange (payload : Payload α) : Prop where
  boundedOutput_eq {memory : Memory α} (time dt : α) (inputs : Inputs α) : memory.Fits payload →
    payload.boundedOutput time dt inputs memory = payload.output time dt inputs memory
  fits_output {memory next : Memory α} {time dt value : α} {inputs : Inputs α} :
    memory.Fits payload → payload.output time dt inputs memory = .ok (value, next) →
      next.Fits payload
  boundedUpdate_eq {memory : Memory α} (time dt : α) (inputs : Inputs α) : memory.Fits payload →
    payload.boundedUpdate time dt inputs memory = .ok (payload.update time dt inputs memory)
  fits_update {memory : Memory α} (time dt : α) (inputs : Inputs α) : memory.Fits payload →
    (payload.update time dt inputs memory).Fits payload

theorem staysInRange (sound : payload.IsSound) : payload.StaysInRange where
  boundedOutput_eq time dt inputs fits := boundedOutput_eq fits time dt inputs
  fits_output fits yields := fits_output fits yields
  boundedUpdate_eq time dt inputs fits := boundedUpdate_eq sound fits time dt inputs
  fits_update time dt inputs fits := fits_update sound fits time dt inputs

end Payload

/-! ## Runs -/

/-- The persistent state of each block fits its parameters. -/
def RunState.Persists (state : RunState α) (compiled : Compiled α) : Prop :=
  ∀ (handle : Nat) (node : Node α), compiled.nodes[handle]? = some node →
    (state.memory handle).Fits node.payload

namespace Compiled

variable {compiled : Compiled α}

theorem persists_remember (wellFormed : compiled.WellFormed) {state : RunState α} {node : Node α}
    {next : Memory α} (fits : state.Fits compiled) (persists : state.Persists compiled)
    (member : node ∈ compiled.nodes) (nextFits : next.Fits node.payload) :
    (state.remember node.handle next).Persists compiled := by
  have own := wellFormed.getElem?_handle member
  intro handle other found
  by_cases same : handle = node.handle
  · subst same
    obtain rfl : node = other := Option.some.inj (own.symm.trans found)
    rw [RunState.memory_remember_self _ (fits.memories ▸ (Array.getElem?_eq_some_iff.mp own).1)]
    exact nextFits
  · rw [RunState.memory_remember_of_ne _ same]
    exact persists handle other found

/-- Nothing in a tick leaves a persistent state that does not fit. -/
theorem isInvariant_persists (wellFormed : compiled.WellFormed)
    (sound : ∀ node ∈ compiled.nodes, node.payload.IsSound) :
    compiled.IsInvariant fun state => state.Fits compiled ∧ state.Persists compiled where
  clear := fun ⟨fits, persists⟩ => ⟨fits.clear, persists⟩
  settle handle value := fun ⟨fits, persists⟩ => ⟨fits.settle handle value, persists⟩
  output := by
    rintro state node time dt value inputs next ⟨fits, persists⟩ member yields
    have memoryFits := persists node.handle node (wellFormed.getElem?_handle member)
    exact ⟨fits.remember _ _, persists_remember wellFormed fits persists member
      (Payload.fits_output memoryFits yields)⟩
  update := by
    rintro state node time dt inputs ⟨fits, persists⟩ member
    have memoryFits := persists node.handle node (wellFormed.getElem?_handle member)
    exact ⟨fits.remember _ _, persists_remember wellFormed fits persists member
      (Payload.fits_update (sound node member) memoryFits time dt inputs)⟩
  advance := fun _ _ ⟨fits, persists⟩ => ⟨⟨fits.outputs, fits.settled, fits.memories⟩, persists⟩

section Compiling

variable [Host] {diagram : Diagram String} {defaultDt defaultRuntime : Setting α}
  {before after : List Notice}
  (compiles : Completes (ofDiagram diagram defaultDt defaultRuntime) before compiled after)
  {state : RunState α}
include compiles

theorem Reachable.persists (reachable : compiled.Reachable state) : state.Persists compiled := by
  have wellFormed := wellFormed_of_completes compiles
  have sound (node : Node α) (member : node ∈ compiled.nodes) : node.payload.IsSound :=
    isSound_payload compiles (wellFormed.getElem?_handle member)
  refine ((isInvariant_persists wellFormed sound).holds_of_reachable ?_ reachable).2
  intro start created
  refine ⟨RunState.fits_of_create created, fun handle node found => ?_⟩
  obtain ⟨started, -⟩ := RunState.create_eq_ok_iff.mp created
  exact Payload.fits_start (isSound_payload compiles found)
    ((RunState.forall₂_start_iff.mp started).2 handle node found)

/-- **In every state of a run the persistent state of each block has the sizes that its parameters
demand**, and these have room for it, so no block ever looks at a position that is not there. -/
theorem Reachable.keeps_sizes (reachable : compiled.Reachable state) :
    compiled.nodes.size = diagram.blocks.length ∧ state.Fits compiled ∧
      ∀ (handle : Nat) (node : Node α), compiled.nodes[handle]? = some node →
        node.payload.IsSound ∧ (state.memory handle).Fits node.payload ∧
          node.payload.StaysInRange := by
  refine ⟨size_nodes compiles, reachable.fits, fun handle node found => ?_⟩
  have sound := isSound_payload compiles found
  exact ⟨sound, reachable.persists compiles handle node found, Payload.staysInRange sound⟩

end Compiling

/-- Every kind of block that looks at positions of its persistent state, and a generator. The
diagram gives one of them a length of zero. -/
def buffersDiagram : Diagram String where
  blocks := [⟨"n", "noise", []⟩, ⟨"line", "delay", [("delay", .float 0.03)]⟩,
    ⟨"samples", "ddelay", [("steps", .int 0)]⟩, ⟨"filter", "dtf", []⟩, ⟨"lag", "tf", []⟩]
  connections := [⟨"n", "line", 0, 0⟩, ⟨"line", "samples", 0, 0⟩, ⟨"samples", "filter", 0, 0⟩,
    ⟨"filter", "lag", 0, 0⟩]
  vars := []
  runtime := .null
  dt := .null
  nextId := 1

open Host.Usual

theorem keeps_sizes_buffersDiagram :
    ∃ (compiled : Compiled Rat) (after : List Notice) (state : RunState Rat),
      Completes (ofDiagram buffersDiagram standardDt standardRuntime) [] compiled after ∧
      compiled.Reachable state ∧ state.tick = 2 ∧
      compiled.nodes.size = buffersDiagram.blocks.length ∧ state.Fits compiled ∧
      ∀ (handle : Nat) (node : Node Rat), compiled.nodes[handle]? = some node →
        node.payload.IsSound ∧ (state.memory handle).Fits node.payload ∧
          node.payload.StaysInRange := by
  have runs : (outcome (ofDiagram buffersDiagram (standardDt : Setting Rat) standardRuntime)
      []).1.toOption.any (fun compiled => (RunState.create compiled).toOption.any fun start =>
        (outcome (compiled.step 50 []) (outcome (compiled.step 50 []) start).2).2.tick == 2) =
      true := by
    decide +kernel
  obtain ⟨compiled, after, compiles, runs⟩ := exists_completes_of_any runs
  obtain ⟨start, created, ticks⟩ := exists_of_toOption_any runs
  have reachable := ((Reachable.start created).tick 50 []).tick 50 []
  exact ⟨compiled, after, _, compiles, reachable, beq_iff_eq.mp ticks,
    Reachable.keeps_sizes compiles reachable⟩

end Compiled

end SignalFlow
