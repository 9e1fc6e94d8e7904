import SignalFlow.Compiled.Compile
import SignalFlow.Proofs.Completion

/-! # What compiling gives

The parameters of a block resolve to the same payload whatever notices were left before
(`Payload.resolved`). Compiling a diagram succeeds exactly if its variables, its settings and the
parameters of all of its blocks resolve (`Compiled.IsResolved`), and then the diagram is assembled
from the payloads (`Compiled.assemble`).
-/

namespace SignalFlow

variable {α : Type} [Scalar α]

/-! ## Resolving the parameters of blocks -/

namespace Payload

/-- The payload of a block does not depend on the notices left before. -/
theorem isOblivious_resolve [Host] (kind : Kind) (given : List (String × Value))
    (constants : Constants)
    (step : Setting α) : IsOblivious (Payload.resolve kind given constants step) := by
  have number (name : String) : IsOblivious (do
      return Scalar.ofFloat (← Noted.ofExcept (constants.resolve (kind.parameter given name))) :
        Noted Fault α) :=
    isOblivious_bind (isOblivious_ofExcept _) fun _ => isOblivious_pure _
  have derived {β : Type} (value : Except Fault β) (payload : β → Payload α) :
      IsOblivious (do return payload (← Noted.ofExcept value)) :=
    isOblivious_bind (isOblivious_ofExcept value) fun _ => isOblivious_pure _
  unfold resolve
  cases kind with
  | mult | derivative | unsupported => exact isOblivious_pure _
  | labelSource | labelSink | scope | fileSink => exact derived _ _
  | constant | step | gain | integrator | backlash | lpf | hpf =>
      exact isOblivious_bind (number _) fun _ => isOblivious_pure _
  | ramp | impulse | saturation | rate =>
      exact isOblivious_bind (number _) fun _ => isOblivious_bind (number _) fun _ =>
        isOblivious_pure _
  | sine | pid =>
      exact isOblivious_bind (number _) fun _ => isOblivious_bind (number _) fun _ =>
        isOblivious_bind (number _) fun _ => isOblivious_pure _
  | chirp | stateSpace =>
      exact isOblivious_bind (number _) fun _ => isOblivious_bind (number _) fun _ =>
        isOblivious_bind (number _) fun _ => isOblivious_bind (number _) fun _ => isOblivious_pure _
  | sum => exact derived _ _
  | delay | zoh | foh => exact isOblivious_bind (number _) fun _ => derived _ _
  | noise | ddelay =>
      exact isOblivious_bind (number _) fun _ => isOblivious_bind (number _) fun _ => derived _ _
  | dstateSpace =>
      exact isOblivious_bind (number _) fun _ => isOblivious_bind (number _) fun _ =>
        isOblivious_bind (number _) fun _ => isOblivious_bind (number _) fun _ =>
          isOblivious_bind (number _) fun _ => derived _ _
  | switch =>
      refine isOblivious_bind (number _) fun threshold =>
        isOblivious_bind (isOblivious_ofExcept _) fun text => ?_
      split
      · exact isOblivious_pure _
      · exact isOblivious_bind (isOblivious_note _) fun _ => isOblivious_pure _
  | tf =>
      refine isOblivious_bind (isOblivious_ofExcept _) fun num =>
        isOblivious_bind (isOblivious_ofExcept _) fun den => ?_
      cases StateSpace.realizationNotice? num den with
      | none =>
          dsimp only
          split
          · exact isOblivious_bind (isOblivious_note _) fun _ => derived _ _
          · exact derived _ _
      | some notice =>
          refine isOblivious_bind (isOblivious_note notice) fun _ => ?_
          split
          · exact isOblivious_bind (isOblivious_note _) fun _ => derived _ _
          · exact derived _ _
  | dtf =>
      refine isOblivious_bind (isOblivious_ofExcept _) fun num =>
        isOblivious_bind (isOblivious_ofExcept _) fun den =>
          isOblivious_bind (number _) fun ts => ?_
      split
      · exact isOblivious_bind (isOblivious_note _) fun _ => derived _ _
      · exact derived _ _

/-- The payload that the parameters of a block resolve to. -/
def resolved [Host] (constants : Constants) (step : Setting α) (block : Block String) :
    Except Fault (Payload α) :=
  (outcome (Payload.resolve block.kind block.params constants step) []).1

/-- Parameters of a kind resolve to a payload of that kind. -/
theorem ensures_kind_resolve [Host] (kind : Kind) (given : List (String × Value))
    (constants : Constants)
    (step : Setting α) :
    Ensures (fun payload : Payload α => payload.kind = kind)
      (Payload.resolve kind given constants step) := by
  unfold resolve
  cases kind with
  | mult | derivative | unsupported => exact ensures_pure rfl
  | constant | step | gain | integrator | backlash | lpf | hpf | sum | labelSource | labelSink
  | scope | fileSink => exact ensures_bind fun _ => ensures_pure rfl
  | ramp | impulse | saturation | rate | delay | zoh | foh =>
      exact ensures_bind fun _ => ensures_bind fun _ => ensures_pure rfl
  | sine | pid | noise | ddelay =>
      exact ensures_bind fun _ => ensures_bind fun _ => ensures_bind fun _ => ensures_pure rfl
  | chirp | stateSpace =>
      exact ensures_bind fun _ => ensures_bind fun _ => ensures_bind fun _ => ensures_bind fun _ =>
        ensures_pure rfl
  | dstateSpace =>
      exact ensures_bind fun _ => ensures_bind fun _ => ensures_bind fun _ => ensures_bind fun _ =>
        ensures_bind fun _ => ensures_bind fun _ => ensures_pure rfl
  | switch =>
      refine ensures_bind fun threshold => ensures_bind fun text => ?_
      split
      · exact ensures_pure rfl
      · exact ensures_bind fun _ => ensures_pure rfl
  | tf =>
      refine ensures_bind fun num => ensures_bind fun den => ?_
      cases StateSpace.realizationNotice? num den with
      | none =>
          dsimp only
          split
          · exact ensures_bind fun _ => ensures_bind fun _ => ensures_pure rfl
          · exact ensures_bind fun _ => ensures_pure rfl
      | some notice =>
          refine ensures_bind fun _ => ?_
          split
          · exact ensures_bind fun _ => ensures_bind fun _ => ensures_pure rfl
          · exact ensures_bind fun _ => ensures_pure rfl
  | dtf =>
      refine ensures_bind fun num => ensures_bind fun den => ensures_bind fun ts => ?_
      split
      · exact ensures_bind fun _ => ensures_bind fun _ => ensures_pure rfl
      · exact ensures_bind fun _ => ensures_pure rfl

variable {constants : Constants} {step : Setting α} {block : Block String} {payload : Payload α}

theorem kind_of_resolved [Host] (resolves : resolved constants step block = .ok payload) :
    payload.kind = block.kind := by
  obtain ⟨after, completes⟩ := exists_completes_iff.mpr resolves
  exact ensures_kind_resolve _ _ _ _ _ _ _ completes

/-- The payload alone decides the phase only of transfer functions. -/
theorem phase_of_kind_ne_tf (notTransfer : payload.kind ≠ .tf) :
    payload.phase = payload.kind.phase := by
  cases payload <;> first | rfl | exact absurd rfl notTransfer

/-- The phase of a block does not depend on the step. -/
theorem phase_of_resolved [Host] {otherStep : Setting α} {other : Payload α}
    (resolves : resolved constants step block = .ok payload)
    (otherResolves : resolved constants otherStep block = .ok other) :
    other.phase = payload.phase := by
  have kind := kind_of_resolved resolves
  have otherKind := kind_of_resolved otherResolves
  by_cases isTransfer : block.kind = .tf
  · have same : resolved constants step block = resolved constants otherStep block := by
      unfold resolved
      rw [isTransfer]
      rfl
    rw [same, otherResolves] at resolves
    rw [Except.ok.inj resolves]
  · have notTransfer : payload.kind ≠ .tf := by rwa [kind]
    have otherNotTransfer : other.kind ≠ .tf := by rwa [otherKind]
    rw [phase_of_kind_ne_tf notTransfer, phase_of_kind_ne_tf otherNotTransfer, kind, otherKind]

end Payload

namespace Compiled

/-- The block at a handle with a payload, wired but not yet bound to a label. -/
def wired (wires : List Wire) (handle : Nat) (block : Block String) (payload : Payload α) :
    Node α where
  handle
  id := block.id
  type := block.type
  kind := block.kind
  payload
  phase := payload.phase
  drivers := (Wiring.ports wires block.kind handle).filterMap fun port =>
    (Wiring.driver? wires handle port).map (port, ·)
  ports := Wiring.ports wires block.kind handle
  label := if block.kind == .labelSource || block.kind == .labelSink then some (labelName block)
    else none
  external := false

/-- Compiling a block wires it with the payload that its parameters resolve to. -/
theorem gives_node [Host] (constants : Constants) (dt : Setting α) (wires : List Wire)
    (block : Block String) (handle : Nat) :
    Gives (node constants dt wires block handle)
      ((Payload.resolved constants dt block).map (wired wires handle block)) := by
  have resolves : Gives (Payload.resolve block.kind block.params constants dt)
      (Payload.resolved constants dt block) :=
    (Payload.isOblivious_resolve block.kind block.params constants dt).gives []
  have wires : Gives (do
      return wired wires handle block (← Payload.resolve block.kind block.params constants dt))
      ((Payload.resolved constants dt block).map (wired wires handle block)) := by
    cases resolved : Payload.resolved constants dt block <;> rw [resolved] at resolves <;>
      exact gives_bind resolves fun _ => gives_pure _
  dsimp only [node]
  split
  · exact gives_bind (gives_note _) fun _ => wires
  · exact wires

/-- The blocks of a list with their payloads, the first one at the handle given. -/
def wiredFrom (wires : List Wire) (start : Nat) (blocks : List (Block String))
    (payloads : List (Payload α)) : List (Node α) :=
  (blocks.zip payloads).mapIdx fun place (block, payload) =>
    wired wires (start + place) block payload

theorem wiredFrom_cons (wires : List Wire) (start : Nat) (block : Block String)
    (blocks : List (Block String)) (payload : Payload α) (payloads : List (Payload α)) :
    wiredFrom wires start (block :: blocks) (payload :: payloads) =
      wired wires start block payload :: wiredFrom wires (start + 1) blocks payloads := by
  simp only [wiredFrom, List.zip_cons_cons, List.mapIdx_cons, Nat.add_zero, List.cons.injEq,
    true_and]
  congr 1
  funext place pair
  rw [Nat.add_assoc, Nat.add_comm 1 place]

/-- Compiling a list of blocks resolves all their parameters and wires the blocks. -/
theorem gives_nodesFrom [Host] (constants : Constants) (dt : Setting α) (wires : List Wire)
    (start : Nat)
    (blocks : List (Block String)) :
    Gives (nodesFrom constants dt wires start blocks)
      ((blocks.mapM (Payload.resolved constants dt)).map (wiredFrom wires start blocks)) := by
  induction blocks generalizing start with
  | nil => exact gives_pure _
  | cons block blocks ih =>
      have all := gives_bind (gives_node constants dt wires block start) fun first =>
        gives_bind (ih (start + 1)) fun rest => gives_pure (first :: rest)
      rw [List.mapM_cons]
      cases one : Payload.resolved constants dt block with
      | error cause =>
          rw [one] at all
          exact all
      | ok payload =>
          cases more : blocks.mapM (Payload.resolved constants dt) with
          | error cause =>
              rw [one, more] at all
              exact all
          | ok payloads =>
              rw [one, more] at all
              change Gives _ (Except.ok (wiredFrom wires start (block :: blocks)
                (payload :: payloads)))
              rw [wiredFrom_cons]
              exact all

/-- What compiling a diagram resolves: its variables, its settings and the parameters of its
blocks. -/
structure IsResolved [Host] (diagram : Diagram String) (defaultDt defaultRuntime : Setting α)
    (constants : Constants) (dt runtime : Setting α) (payloads : List (Payload α)) : Prop where
  constants_eq : Constants.ofVariables diagram.vars = .ok constants
  dt_eq : settingOf constants diagram.dt defaultDt = .ok dt
  runtime_eq : settingOf constants diagram.runtime defaultRuntime = .ok runtime
  payloads_eq : List.Forall₂ (fun block payload => Payload.resolved constants dt block = .ok payload)
    diagram.blocks payloads

/-- The payload of the block at a handle. -/
theorem IsResolved.getElem?_payloads [Host] {diagram : Diagram String}
    {defaultDt defaultRuntime dt runtime : Setting α} {constants : Constants}
    {payloads : List (Payload α)}
    (resolved : IsResolved diagram defaultDt defaultRuntime constants dt runtime payloads)
    {handle : Nat} {block : Block String} (found : diagram.blocks[handle]? = some block) :
    ∃ payload, payloads[handle]? = some payload ∧
      Payload.resolved constants dt block = .ok payload := by
  obtain ⟨inside, rfl⟩ := List.getElem?_eq_some_iff.mp found
  have otherInside : handle < payloads.length := resolved.payloads_eq.length_eq ▸ inside
  exact ⟨payloads[handle], List.getElem?_eq_getElem otherInside,
    resolved.payloads_eq.get inside otherInside⟩

/-- The blocks of a diagram with their payloads, wired but not yet bound to labels. -/
def wiredNodes (diagram : Diagram String) (payloads : List (Payload α)) : List (Node α) :=
  wiredFrom (Wiring.wires diagram.ids diagram.connections) 0 diagram.blocks payloads

/-- The compiled diagram of what has been resolved. -/
def assemble (diagram : Diagram String) (constants : Constants) (dt runtime : Setting α)
    (payloads : List (Payload α)) : Compiled α :=
  let nodes := wiredNodes diagram payloads
  ofNodes (nodes.map (bind nodes)) dt runtime constants

/-- Compiling gives the diagram assembled from what it resolves, and breaks off only where
something does not resolve. -/
theorem gives_ofDiagram [Host] (diagram : Diagram String) (defaultDt defaultRuntime : Setting α) :
    Gives (ofDiagram diagram defaultDt defaultRuntime) (do
      let constants ← Constants.ofVariables diagram.vars
      let dt ← settingOf constants diagram.dt defaultDt
      let runtime ← settingOf constants diagram.runtime defaultRuntime
      let payloads ← diagram.blocks.mapM (Payload.resolved constants dt)
      return assemble diagram constants dt runtime payloads) := by
  have told (notices : List Notice) : Gives (notices.forM note : Noted Fault Unit) (.ok ()) := by
    induction notices with
    | nil => exact gives_pure ()
    | cons notice rest ih => exact gives_bind (gives_note notice) fun _ => ih
  refine gives_bind (gives_ofExcept _) fun constants => gives_bind (gives_ofExcept _) fun dt =>
    gives_bind (gives_ofExcept _) fun runtime => ?_
  have nodes := gives_bind (told (Wiring.notices diagram.ids diagram.connections)) fun _ =>
    gives_bind (gives_nodesFrom constants dt (Wiring.wires diagram.ids diagram.connections) 0
      diagram.blocks) fun nodes => gives_pure (ofNodes (nodes.map (bind nodes)) dt runtime constants)
  cases payloads : diagram.blocks.mapM (Payload.resolved constants dt) <;> rw [payloads] at nodes <;>
    exact nodes

/-- A diagram compiles exactly if everything in it resolves. -/
theorem completes_ofDiagram_iff [Host] {diagram : Diagram String}
    {defaultDt defaultRuntime : Setting α}
    {compiled : Compiled α} {before : List Notice} :
    (∃ after, Completes (ofDiagram diagram defaultDt defaultRuntime) before compiled after) ↔
      ∃ constants dt runtime payloads,
        IsResolved diagram defaultDt defaultRuntime constants dt runtime payloads ∧
        compiled = assemble diagram constants dt runtime payloads := by
  rw [exists_completes_iff, gives_ofDiagram diagram defaultDt defaultRuntime before]
  simp only [bind_eq_ok_iff, mapM_eq_ok_iff, pure, Except.pure, Except.ok.injEq]
  constructor
  · rintro ⟨constants, constants_eq, dt, dt_eq, runtime, runtime_eq, payloads, payloads_eq, rfl⟩
    exact ⟨constants, dt, runtime, payloads,
      ⟨constants_eq, dt_eq, runtime_eq, payloads_eq⟩, rfl⟩
  · rintro ⟨constants, dt, runtime, payloads, resolved, rfl⟩
    exact ⟨constants, resolved.constants_eq, dt, resolved.dt_eq, runtime, resolved.runtime_eq,
      payloads, resolved.payloads_eq, rfl⟩

end Compiled

end SignalFlow
