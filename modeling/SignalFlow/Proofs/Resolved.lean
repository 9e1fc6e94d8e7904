import SignalFlow.Proofs.Layout
import SignalFlow.Proofs.Linear.Shape

/-! # What resolved parameters guarantee

Resolving keeps the parameters that fix the lengths of a block's buffers away from zero, whatever is
given for them, and realizes models whose matrices fit together (`Payload.IsSound`). The payloads of
a compiled diagram are sound, since they come from resolving.
-/

namespace SignalFlow

variable {α : Type} [Scalar α]

namespace Payload

/-- The lengths that a payload fixes leave room for the persistent state of its block. -/
def IsSound : Payload α → Prop
  | .delay _ steps => 1 ≤ steps
  | .ddelay steps _ => 1 ≤ steps
  | .tf _ _ (some model) => model.HasShape
  | .dtf _ _ _ model => 1 ≤ model.num.length ∧ 1 ≤ model.den.length
  | _ => True

/-- A delay takes at least one tick. -/
theorem one_le_delaySteps {delay : α} {step : Setting α} {steps : Nat}
    (resolves : delaySteps delay step = .ok steps) : 1 ≤ steps := by
  obtain ⟨dt, -, resolves⟩ := bind_eq_ok_iff.mp resolves
  split at resolves
  · cases resolves
    exact Nat.le_refl 1
  · obtain ⟨rounded, -, taken⟩ := bind_eq_ok_iff.mp resolves
    cases taken
    exact Nat.le_max_left 1 _

theorem modelOf_eq_ok [Host] {num den : List α}
    (room : StateSpace.matrixSize den ≤ Host.arrayLength) :
    modelOf num den = .ok (StateSpace.realize? num den) :=
  if_neg (Nat.not_lt.mpr room)

/-- A model that there is memory for is the one that realizes the transfer function. -/
theorem eq_realize?_of_modelOf [Host] {num den : List α} {model : Option (StateSpace α)}
    (fits : modelOf num den = .ok model) : model = StateSpace.realize? num den := by
  unfold modelOf at fits
  split at fits
  · cases fits
  · exact (Except.ok.inj fits).symm

/-- The model that a transfer function gets has matrices that fit together, if it gets one. -/
theorem ensures_isSound_modelOf [Host] (num den : List α) :
    Ensures (fun model => (tf num den model).IsSound) (Noted.ofExcept (modelOf num den)) := by
  intro before model after completes
  obtain rfl := eq_realize?_of_modelOf (completes_liftExcept.mp completes).1
  cases realized : StateSpace.realize? num den with
  | none => trivial
  | some model => exact StateSpace.hasShape_of_realize? realized

/-- What holds of a transfer function with its model holds of what such a block resolves to. -/
theorem ensures_resolve_tf [Host] {property : Payload α → Prop} {given : List (String × Value)}
    {constants : Constants} {step : Setting α}
    (models : ∀ (num : List α) (den : List Float),
      constants.resolveList (Kind.tf.parameter given "den") = .ok den →
        Ensures property (do
          return .tf num (den.map Scalar.ofFloat)
            (← Noted.ofExcept (modelOf num (den.map Scalar.ofFloat))))) :
    Ensures property (resolve .tf given constants step) := by
  unfold resolve
  refine ensures_bind fun num => ensures_bind_of
    (fun _ _ _ completes => (completes_liftExcept.mp completes).1) fun den resolves => ?_
  have modelled := models (num.map Scalar.ofFloat) den resolves
  cases StateSpace.realizationNotice? num den with
  | none =>
      dsimp only
      split
      · exact ensures_bind fun _ => modelled
      · exact modelled
  | some notice =>
      refine ensures_bind fun _ => ?_
      split
      · exact ensures_bind fun _ => modelled
      · exact modelled

theorem ensures_isSound_tf [Host] (given : List (String × Value)) (constants : Constants)
    (step : Setting α) : Ensures IsSound (resolve .tf given constants step) :=
  ensures_resolve_tf fun num den _ =>
    ensures_bind_of (ensures_isSound_modelOf num (den.map Scalar.ofFloat)) fun _ => ensures_pure

theorem ensures_isSound_dtf [Host] (given : List (String × Value)) (constants : Constants)
    (step : Setting α) : Ensures IsSound (resolve .dtf given constants step) := by
  unfold resolve
  refine ensures_bind fun num => ensures_bind fun den => ensures_bind fun ts => ?_
  split
  · exact ensures_bind fun _ => ensures_bind fun _ =>
      ensures_pure (Recurrence.length_realize_pos _ _)
  · exact ensures_bind fun _ => ensures_pure (Recurrence.length_realize_pos _ _)

variable {constants : Constants} {step : Setting α} {block : Block String} {payload : Payload α}

/-- There is memory for the matrix of a transfer function that has its model. -/
theorem matrix_le_of_resolved [Host] {num den : List α} {model : StateSpace α}
    (resolves : resolved constants step block = .ok (.tf num den (some model))) :
    model.order * model.order ≤ Host.arrayLength := by
  have kind : Kind.tf = block.kind := kind_of_resolved resolves
  obtain ⟨after, completes⟩ := exists_completes_iff.mpr resolves
  rw [← kind] at completes
  have fits : Ensures (fun payload : Payload α => ∀ {num den : List α} {model : StateSpace α},
      payload = .tf num den (some model) → model.order * model.order ≤ Host.arrayLength)
      (resolve .tf block.params constants step) := by
    refine ensures_resolve_tf fun num den _ => ensures_bind_of
      (fun before model after completes => (completes_liftExcept.mp completes).1)
      fun model modelled => ensures_pure ?_
    rintro _ _ found same
    obtain ⟨-, -, rfl⟩ := Payload.tf.inj same
    have realized := (eq_realize?_of_modelOf modelled).symm
    rw [← StateSpace.matrixSize_of_realize? realized]
    unfold modelOf at modelled
    split at modelled
    · cases modelled
    · next room => exact Nat.le_of_not_lt room
  exact fits _ _ _ completes rfl

/-- **Resolved parameters are sound.** -/
theorem isSound_of_resolved [Host] (resolves : resolved constants step block = .ok payload) :
    payload.IsSound := by
  have kind := kind_of_resolved resolves
  obtain ⟨after, completes⟩ := exists_completes_iff.mpr resolves
  cases payload with
  | delay time steps =>
      rw [← show Kind.delay = block.kind from kind] at completes
      simp only [resolve, Noted.ofExcept, completes_bind, completes_liftExcept, completes_pure]
        at completes
      obtain ⟨_, _, -, steps, _, ⟨counted, -⟩, same, -⟩ := completes
      cases same
      exact one_le_delaySteps counted
  | ddelay steps ts =>
      rw [← show Kind.ddelay = block.kind from kind] at completes
      simp only [resolve, Noted.ofExcept, completes_bind, completes_liftExcept, completes_pure]
        at completes
      obtain ⟨_, _, -, _, _, -, count, _, -, same, -⟩ := completes
      cases same
      exact Nat.le_max_left 1 _
  | tf num den model =>
      rw [← show Kind.tf = block.kind from kind] at completes
      exact ensures_isSound_tf _ _ _ _ _ _ completes
  | dtf num den ts model =>
      rw [← show Kind.dtf = block.kind from kind] at completes
      exact ensures_isSound_dtf _ _ _ _ _ _ completes
  | _ => trivial

end Payload

/-! ## Compiled blocks -/

namespace Compiled

section Compiling

variable [Host] {diagram : Diagram String} {defaultDt defaultRuntime : Setting α}
  {before after : List Notice} {compiled : Compiled α}
  (compiles : Completes (ofDiagram diagram defaultDt defaultRuntime) before compiled after)
  {handle : Nat} {node : Node α}
include compiles

/-- Each block of a compiled diagram is that of a block of the diagram. -/
theorem exists_isNodeOf (found : compiled.nodes[handle]? = some node) :
    ∃ block, diagram.blocks[handle]? = some block ∧ IsNodeOf compiled diagram handle block node := by
  obtain ⟨constants, dt, runtime, payloads, resolved, rfl⟩ :=
    completes_ofDiagram_iff.mp ⟨after, compiles⟩
  obtain ⟨block, payload, blockFound, -, -⟩ := exists_of_getElem?_assemble found
  exact ⟨block, blockFound, isNodeOf_assemble resolved blockFound found⟩

theorem mem_ports (found : compiled.nodes[handle]? = some node) (isOther : node.kind ≠ .labelSource)
    {port : Nat} (inside : port < node.kind.inputs.length) : port ∈ node.ports := by
  obtain ⟨constants, dt, runtime, payloads, resolved, rfl⟩ :=
    completes_ofDiagram_iff.mp ⟨after, compiles⟩
  exact mem_ports_assemble found isOther inside

theorem size_nodes : compiled.nodes.size = diagram.blocks.length := by
  obtain ⟨constants, dt, runtime, payloads, resolved, rfl⟩ :=
    completes_ofDiagram_iff.mp ⟨after, compiles⟩
  rw [size_assemble constants dt runtime resolved.payloads_eq.length_eq.symm, Diagram.ids,
    List.length_map]

/-- **The payloads of a compiled diagram are sound.** -/
theorem isSound_payload (found : compiled.nodes[handle]? = some node) : node.payload.IsSound := by
  obtain ⟨block, -, isNode⟩ := exists_isNodeOf compiles found
  exact Payload.isSound_of_resolved isNode.payload_eq

end Compiling

end Compiled

end SignalFlow
