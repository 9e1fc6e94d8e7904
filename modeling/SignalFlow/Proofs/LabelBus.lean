import SignalFlow.Host.Usual
import SignalFlow.Proofs.Layout
import SignalFlow.Proofs.Resolution.Unsettled

/-! # Coherence of the label bus

A label source is wired to what drives the label sink of its name, not to the label sink. It reads
the driver while the algebraic blocks are resolved, and the label sink reads it after that. Both
read the same, unless the driver is itself read last and stands before the label sink: then it has
no output yet when the label source looks.
-/

namespace SignalFlow

variable {α : Type} [Scalar α]

/-! ## What label blocks read -/

/-- Label blocks pass on what they have at port 0. -/
theorem Payload.output_of_label {payload : Payload α}
    (isLabel : payload.kind = .labelSource ∨ payload.kind = .labelSink) (time dt : α)
    (inputs : Inputs α) (memory : Memory α) :
    payload.output time dt inputs memory = .ok (inputs.value 0, memory) := by
  cases payload with
  | labelSource name => rfl
  | labelSink name => rfl
  | _ =>
      rcases isLabel with isSource | isSink
      · cases isSource
      · cases isSink

/-- The output of the driver of port 0, zero if there is none. -/
def Node.relayed (node : Node α) (state : RunState α) : α :=
  ((node.driver? 0).map state.outputOf).getD 0.0

theorem Node.value_inputs {node : Node α} (kind : node.kind ≠ .mult) (listed : 0 ∈ node.ports)
    (state : RunState α) : (node.inputs state.outputs).value 0 = node.relayed state := by
  have fallback : Payload.fallback node.kind = (0.0 : α) := by
    unfold Payload.fallback
    rw [if_neg]
    simpa using kind
  unfold Node.inputs Inputs.value
  generalize node.ports = ports at listed
  -- The first entry of port 0 is found, and all entries of a port are alike.
  induction ports with
  | nil => cases listed
  | cons port rest ih =>
      rw [List.map_cons]
      by_cases first : port = 0
      · subst first
        rw [Node.relayed]
        cases node.driver? 0 with
        | none => simp [fallback]
        | some driver => simp [RunState.outputOf]
      · have later : 0 ∈ rest := by
          rcases List.mem_cons.mp listed with same | later
          · exact absurd same.symm first
          · exact later
        rw [← ih later]
        cases node.driver? port <;> simp [first]

namespace Compiled

/-! ## Label sources and their label sinks -/

/-- The block at a handle is the label sink that counts for a name. -/
structure IsPublisher (compiled : Compiled α) (name : String) (place : Nat) (sink : Node α) :
    Prop where
  found : compiled.nodes[place]? = some sink
  phase_eq : sink.phase = .sink
  kind_eq : sink.kind = .labelSink
  payload_kind : sink.payload.kind = .labelSink
  mem_ports : 0 ∈ sink.ports
  handle_eq : Entries.get? compiled.outputHandles name = some place

/-- The block at a handle is a label source that is wired like a label sink. -/
structure IsMirrorOf (compiled : Compiled α) (handle : Nat) (source sink : Node α) : Prop where
  found : compiled.nodes[handle]? = some source
  seeds : source.seedsLoop = true
  kind_eq : source.kind = .labelSource
  payload_kind : source.payload.kind = .labelSource
  ports_eq : source.ports = [0]
  drivers_eq : source.drivers = ((sink.driver? 0).map (0, ·)).toList

namespace IsMirrorOf

variable {compiled : Compiled α} {handle : Nat} {source sink : Node α}
  (mirrors : compiled.IsMirrorOf handle source sink)
include mirrors

omit [Scalar α] in
theorem isMirror : compiled.IsMirror handle := ⟨source, mirrors.found, mirrors.seeds⟩

omit [Scalar α] in
theorem driver?_eq : source.driver? 0 = sink.driver? 0 := by
  rw [Node.driver?, mirrors.drivers_eq]
  cases sink.driver? 0 <;> rfl

omit [Scalar α] in
theorem mem_driverHandles_iff {driver : Nat} :
    driver ∈ source.driverHandles ↔ sink.driver? 0 = some driver := by
  rw [Node.driverHandles, mirrors.drivers_eq]
  cases sink.driver? 0 with
  | none => simp
  | some other => simp [eq_comm]

/-- A label source takes the output of the driver of its label sink. -/
theorem value_eq (state : RunState α) : source.value state = sink.relayed state := by
  have kind : source.kind ≠ .mult := by
    rw [mirrors.kind_eq]
    decide
  have listed : 0 ∈ source.ports := by simp [mirrors.ports_eq]
  rw [Node.value, Payload.response, Payload.output_of_label (.inl mirrors.payload_kind)]
  dsimp only
  rw [Node.value_inputs kind listed, Node.relayed, mirrors.driver?_eq, Node.relayed]

end IsMirrorOf

section Assemble

variable [Host] {diagram : Diagram String} {defaultDt defaultRuntime dt runtime : Setting α}
  {constants : Constants} {payloads : List (Payload α)}
  (resolved : IsResolved diagram defaultDt defaultRuntime constants dt runtime payloads)
include resolved

theorem payload_kind_assemble {handle : Nat} {node : Node α}
    (found : (assemble diagram constants dt runtime payloads).nodes[handle]? = some node) :
    node.payload.kind = node.kind := by
  obtain ⟨block, payload, blockFound, -, -⟩ := exists_of_getElem?_assemble found
  exact (isNodeOf_assemble resolved blockFound found).payload_kind

omit [Host] resolved in
theorem sink?_assemble {name : Option String} {sink : Node α}
    (found : sink? (assemble diagram constants dt runtime payloads).nodes.toList name = some sink) :
    sink? (wiredNodes diagram payloads) name = some sink := by
  have bound : sink? ((wiredNodes diagram payloads).map (bind (wiredNodes diagram payloads))) name =
      (sink? (wiredNodes diagram payloads) name).map (bind (wiredNodes diagram payloads)) :=
    sink?_map (bind_kind _) (bind_label _) _ name
  change sink? ((wiredNodes diagram payloads).map (bind (wiredNodes diagram payloads))) name =
    some sink at found
  rw [bound, Option.map_eq_some_iff] at found
  obtain ⟨wired, wiredFound, same⟩ := found
  have isOther : wired.kind ≠ .labelSource := by
    rw [(of_sink?_eq_some wiredFound).2.1]
    decide
  rw [bind_of_kind_ne isOther] at same
  rw [wiredFound, same]

theorem isPublisher_assemble {name : String} {sink : Node α}
    (found : sink? (assemble diagram constants dt runtime payloads).nodes.toList (some name) =
      some sink) :
    (assemble diagram constants dt runtime payloads).IsPublisher name sink.handle sink := by
  obtain ⟨member, kind, -⟩ := of_sink?_eq_some found
  obtain ⟨place, placeFound⟩ := List.getElem?_of_mem member
  rw [Array.getElem?_toList] at placeFound
  have wellFormed : (assemble diagram constants dt runtime payloads).WellFormed :=
    wellFormed_assemble constants dt runtime resolved.payloads_eq.length_eq.symm
  obtain rfl : sink.handle = place := wellFormed.handle_eq placeFound
  have payloadKind : sink.payload.kind = .labelSink :=
    (payload_kind_assemble resolved placeFound).trans kind
  refine ⟨placeFound, ?_, kind, payloadKind, ?_, ?_⟩
  · obtain ⟨block, payload, blockFound, -, -⟩ := exists_of_getElem?_assemble placeFound
    have isNode := isNodeOf_assemble resolved blockFound placeFound
    have inner := isNode.external_eq_false (by simp [kind])
    have notTransfer : sink.payload.kind ≠ .tf := by
      rw [payloadKind]
      decide
    rw [← isNode.payload_phase inner, Payload.phase_of_kind_ne_tf notTransfer, payloadKind]
    rfl
  · exact mem_ports_assemble placeFound (by simp [kind]) (by simp [kind, Kind.inputs])
  · have outputs := get?_outputHandles_ofNodes
      ((wiredNodes diagram payloads).map (bind (wiredNodes diagram payloads))) dt runtime constants
      name
    rw [assemble, outputs]
    change (sink? (assemble diagram constants dt runtime payloads).nodes.toList (some name)).map _ = _
    rw [found]
    rfl

theorem isMirrorOf_assemble {handle : Nat} {source sink : Node α}
    (found : (assemble diagram constants dt runtime payloads).nodes[handle]? = some source)
    (isSource : source.kind = .labelSource)
    (bound : sink? (assemble diagram constants dt runtime payloads).nodes.toList source.label =
      some sink) :
    (assemble diagram constants dt runtime payloads).IsMirrorOf handle source sink := by
  have payloadKind := (payload_kind_assemble resolved found).trans isSource
  have notTransfer : source.payload.kind ≠ .tf := by
    rw [payloadKind]
    decide
  obtain ⟨block, payload, -, -, rfl⟩ := exists_of_getElem?_assemble found
  rw [bind_label] at bound
  have wiredBound := sink?_assemble bound
  rw [bind_kind] at isSource
  rw [bind_payload] at payloadKind notTransfer
  have phase : (wired (Wiring.wires diagram.ids diagram.connections) handle block
      payload).phase = .algebraic := by
    have same := Payload.phase_of_kind_ne_tf notTransfer
    rw [payloadKind] at same
    exact same
  have unfolded := bind_of_sink? isSource wiredBound
  refine ⟨found, ?_, ?_, ?_, ?_, ?_⟩
  · rw [unfolded, Node.seedsLoop, phase, isSource]
    rfl
  · rw [bind_kind, isSource]
  · rw [bind_payload, payloadKind]
  · rw [unfolded]
  · rw [unfolded]

end Assemble

/-! ## What the two of them read in a tick -/

section Tick

variable {compiled : Compiled α} (wellFormed : compiled.WellFormed)
include wellFormed

/-- A label sink is read in a state between the sinks before it and those after it. -/
theorem exists_of_sinkPhase {name : String} {place : Nat} {sink : Node α}
    (publisher : compiled.IsPublisher name place sink) {before after : RunState α}
    (fits : before.Fits compiled) (sinks : Completes compiled.sinkPhase before () after) :
    ∃ between, after.outputOf place = sink.relayed between ∧
      (∀ other, (compiled.IsSink other → place ≤ other) →
        between.outputOf other = before.outputOf other) ∧
      (∀ other, compiled.IsSink other → other < place →
        between.outputOf other = after.outputOf other) ∧
      (∀ other, ¬ compiled.IsSink other → after.outputOf other = before.outputOf other) := by
  have isSink {other : Nat} : other ∈ compiled.sinkOrder ↔ compiled.IsSink other :=
    wellFormed.mem_sinkOrder
  have inside : ∀ other ∈ compiled.sinkOrder, other < compiled.nodes.size :=
    fun _ => wellFormed.lt_of_mem_sinkOrder
  -- Sinks are read in ascending order, so the label sink parts them by their handles.
  obtain ⟨first, second, order⟩ :=
    List.append_of_mem (isSink.mpr ⟨sink, publisher.found, publisher.phase_eq⟩)
  obtain ⟨-, ascending, earlier⟩ := List.pairwise_append.mp (order ▸ wellFormed.sinkOrder_pairwise)
  have later := (List.pairwise_cons.mp ascending).1
  have listed {other : Nat} (sinkOther : compiled.IsSink other) :
      other ∈ first ∨ other = place ∨ other ∈ second := by
    have member := isSink.mpr sinkOther
    rw [order, List.mem_append, List.mem_cons] at member
    exact member
  rw [sinkPhase_eq] at sinks
  have kept := (kept_of_completes_evaluateEach wellFormed inside fits sinks).2.2
  rw [order] at inside
  rw [order, completes_evaluateEach_append] at sinks
  obtain ⟨between, firstSinks, sinks⟩ := sinks
  obtain ⟨betweenFits, -, firstKept⟩ := kept_of_completes_evaluateEach wellFormed
    (fun other member => inside other (List.mem_append_left _ member)) fits firstSinks
  obtain ⟨value, next, ⟨dt, -, output⟩, secondSinks⟩ :=
    (completes_evaluateEach_cons wellFormed publisher.found).mp sinks
  have secondKept := (kept_of_completes_evaluateEach wellFormed
    (fun other member => inside other (List.mem_append_right _ (List.mem_cons_of_mem _ member)))
    (betweenFits.record next value) secondSinks).2.2
  have notSecond : place ∉ second := fun member => Nat.lt_irrefl _ (later place member)
  refine ⟨between, ?_, ?_, ?_, ?_⟩
  · have kind : sink.kind ≠ .mult := by
      rw [publisher.kind_eq]
      decide
    rw [Payload.output_of_label (.inr publisher.payload_kind),
      Node.value_inputs kind publisher.mem_ports] at output
    rw [(secondKept place notSecond).1]
    have placeInside := (Array.getElem?_eq_some_iff.mp publisher.found).1
    rw [(betweenFits.reads_record_self next value placeInside).1]
    exact (Prod.mk.inj (Except.ok.inj output)).1.symm
  · intro other notEarlier
    refine (firstKept other fun member => ?_).1
    have sinkOther := isSink.mp (order ▸ List.mem_append_left _ member)
    have before := earlier other member place List.mem_cons_self
    have after := notEarlier sinkOther
    omega
  · intro other sinkOther isEarlier
    have notSecondOther : other ∉ second := by
      intro member
      have after := later other member
      omega
    rw [(secondKept other notSecondOther).1]
    exact (between.reads_record_of_ne next value (Nat.ne_of_lt isEarlier)).1.symm
  · intro other notSink
    exact (kept other fun member => notSink (isSink.mp member)).1

section Mirrored

variable {given : List (String × α)} {start opened final : RunState α} {count handle : Nat}
  {resolution : Resolution} {source sink : Node α}
  (settles : compiled.Settles given start opened count resolution final)
  (mirrors : compiled.IsMirrorOf handle source sink)
include settles mirrors

/-- Once the tick has converged a label source has what the driver has, if that is settled. -/
theorem outputOf_mirror_of_settled (converged : resolution.converged = true)
    (fed : ∀ driver, sink.driver? 0 = some driver → final.isSettled driver = true) :
    (final.outputOf handle == sink.relayed final) = true := by
  have listed := wellFormed.mem_algebraicOrder.mpr mirrors.isMirror.isAlgebraic
  have unmoved := (sweep_of_not_progressOver (settles.still converged)).2 handle listed source
    mirrors.found
  have isFed : source.isFed final = true := by
    rw [Node.isFed_iff]
    intro driver drives
    exact fed driver (mirrors.mem_driverHandles_iff.mp drives)
  have same := (settled_of_not_progresses unmoved isFed).2
  rwa [wellFormed.handle_eq mirrors.found, mirrors.value_eq] at same

/-- As long as its driver is not settled a label source stays at zero. -/
theorem outputOf_mirror_of_unsettled (fits : start.Fits compiled) {driver : Nat}
    (driven : sink.driver? 0 = some driver) (unsettled : final.isSettled driver = false) :
    final.outputOf handle = 0.0 := by
  have drives : driver ∈ driversOf compiled.nodes handle := by
    rw [driversOf_of_getElem? mirrors.found]
    exact mirrors.mem_driverHandles_iff.mpr driven
  have zero := (seeded_of_isMirror wellFormed mirrors.isMirror
    (settles.fits_opened wellFormed fits)).2
  rw [settles.final_eq] at unsettled ⊢
  exact (outputOf_iterate_passed_of_isMirror wellFormed mirrors.isMirror drives unsettled).trans zero

end Mirrored

end Tick

/-! ## Coherence -/

/-- A label sink is driven by a block that is read last as well, and before it. -/
def FollowsSink (compiled : Compiled α) (sink : Node α) : Prop :=
  ∃ driver, sink.driver? 0 = some driver ∧ compiled.IsSink driver ∧ driver < sink.handle

/-- Two outputs are the same: they compare equal, or neither has been given a value. -/
def SameSignal (first second : α) : Prop :=
  (first == second) = true ∨ first = 0.0 ∧ second = 0.0

section Coherence

variable {compiled : Compiled α} (wellFormed : compiled.WellFormed)
  {given : List (String × α)} {start opened settled sunk : RunState α} {count handle : Nat}
  {resolution : Resolution} {name : String} {source sink : Node α}
  (settles : compiled.Settles given start opened count resolution settled)
  (fits : start.Fits compiled) (sinks : Completes compiled.sinkPhase settled () sunk)
  (publisher : compiled.IsPublisher name sink.handle sink)
  (mirrors : compiled.IsMirrorOf handle source sink)
include wellFormed settles fits sinks publisher mirrors

/-- Label source and label sink read the same, if the driver does not come between them. -/
theorem sameSignal_of_sinkPhase (converged : resolution.converged = true)
    (apart : ¬ compiled.FollowsSink sink) :
    SameSignal (sunk.outputOf handle) (sunk.outputOf sink.handle) := by
  have settledFits := settles.fits_final wellFormed fits
  obtain ⟨between, published, before, -, kept⟩ :=
    exists_of_sinkPhase wellFormed publisher settledFits sinks
  have relayed : sink.relayed between = sink.relayed settled := by
    unfold Node.relayed
    cases driven : sink.driver? 0 with
    | none => rfl
    | some driver =>
        have unread : compiled.IsSink driver → sink.handle ≤ driver := by
          intro isSink
          by_contra earlier
          exact apart ⟨driver, driven, isSink, by omega⟩
        rw [Option.map_some, Option.map_some, before driver unread]
  rw [published, relayed, kept handle mirrors.isMirror.isAlgebraic.not_isSink]
  -- The label source follows a driver that is settled; behind one that is not both rest at zero.
  by_cases fed : ∀ driver, sink.driver? 0 = some driver → settled.isSettled driver = true
  · exact .inl (outputOf_mirror_of_settled wellFormed settles mirrors converged fed)
  · push Not at fed
    obtain ⟨driver, driven, unsettled⟩ := fed
    rw [ne_eq, Bool.not_eq_true] at unsettled
    refine .inr ⟨?_, ?_⟩
    · exact outputOf_mirror_of_unsettled wellFormed settles mirrors fits driven unsettled
    · rw [Node.relayed, driven]
      exact settles.restsAtZero wellFormed fits driver unsettled

/-- A label source does not see what a sink passes on to its label sink. -/
theorem outputOf_of_followsSink (follows : compiled.FollowsSink sink) :
    sunk.outputOf handle = 0.0 ∧ sunk.outputOf sink.handle = sink.relayed sunk := by
  obtain ⟨driver, driven, isSink, earlier⟩ := follows
  have settledFits := settles.fits_final wellFormed fits
  obtain ⟨between, published, -, after, kept⟩ :=
    exists_of_sinkPhase wellFormed publisher settledFits sinks
  -- Sinks have their turn after the resolution, which therefore never settles them.
  have unsettled : settled.isSettled driver = false := by
    rw [Bool.eq_false_iff, Ne, settles.isSettled_iff wellFormed fits]
    intro canSettle
    exact (canSettle.isGrounded wellFormed driver .refl).1 isSink
  refine ⟨?_, ?_⟩
  · rw [kept handle mirrors.isMirror.isAlgebraic.not_isSink]
    exact outputOf_mirror_of_unsettled wellFormed settles mirrors fits driven unsettled
  · rw [published, Node.relayed, Node.relayed, driven, Option.map_some, Option.map_some,
      after driver isSink earlier]

end Coherence

/-- **A label source ends a converged tick with the value published under its name**, unless the
last label sink of that name follows another sink: then the label source reads zero, and what is
published is the output of that other sink. -/
theorem label_coherent [Host] {diagram : Diagram String} {defaultDt defaultRuntime : Setting α}
    {before after : List Notice} {compiled : Compiled α} {limit : Nat}
    {given : List (String × α)} {start final : RunState α} {result : TickResult α}
    (compiles : Completes (ofDiagram diagram defaultDt defaultRuntime) before compiled after)
    (reachable : compiled.Reachable start) (room : 0 < limit)
    (ticks : Completes (compiled.step limit given) start result final)
    (converged : result.resolution.converged = true) {name : String} {anySink : Node α}
    (listed : anySink ∈ compiled.nodes.toList) (isSink : anySink.kind = .labelSink)
    (named : anySink.label = some name) :
    ∃ sink published, sink? compiled.nodes.toList (some name) = some sink ∧
      Entries.get? result.outputs name = some published ∧
      ∀ (handle : Nat) (source : Node α), compiled.nodes[handle]? = some source →
        source.kind = .labelSource → source.label = some name →
          (¬ compiled.FollowsSink sink → SameSignal (final.outputOf handle) published) ∧
          (compiled.FollowsSink sink →
            final.outputOf handle = 0.0 ∧ published = sink.relayed final) := by
  have wellFormed := wellFormed_of_completes compiles
  obtain ⟨_, resolution, settled, sunk, updated, dt, opens, resolves, sinks, updates, -, rfl, ended⟩ :=
    completes_step_iff.mp ticks
  have settlePhase : Completes (compiled.settlePhase limit given) start resolution settled := by
    simp only [Compiled.settlePhase, completes_bind, completes_modify]
    exact ⟨(), _, rfl, (), _, opens, resolves⟩
  obtain ⟨opened, count, settles⟩ := exists_settles wellFormed room settlePhase
  have fits := reachable.fits
  have sunkFits := (kept_of_completes_evaluateEach wellFormed
    (fun _ member => wellFormed.lt_of_mem_sinkOrder member)
    (settles.fits_final wellFormed fits) sinks).1
  have reads : final.outputOf = sunk.outputOf := by
    rw [ended, ((completes_updatePhase_iff wellFormed sunkFits).mp updates).eq]
    rfl
  obtain ⟨sink, found⟩ : ∃ sink, sink? compiled.nodes.toList (some name) = some sink := by
    rw [← Option.ne_none_iff_exists', Ne, sink?_eq_none_iff]
    exact fun absent => absent anySink listed isSink named
  obtain ⟨constants, dt, runtime, payloads, resolved, rfl⟩ :=
    completes_ofDiagram_iff.mp ⟨after, compiles⟩
  have publisher := isPublisher_assemble resolved found
  refine ⟨sink, sunk.outputOf sink.handle, found, ?_, ?_⟩
  · rw [get?_outputs_results, publisher.handle_eq, Option.map_some]
  · intro handle source sourceFound isSource sourceNamed
    have mirrors := isMirrorOf_assemble resolved sourceFound isSource (sourceNamed ▸ found)
    rw [Node.relayed, reads]
    refine ⟨?_, ?_⟩
    · exact sameSignal_of_sinkPhase wellFormed settles fits sinks publisher mirrors converged
    · exact outputOf_of_followsSink wellFormed settles fits sinks publisher mirrors

/-- An input of the diagram goes to two label sinks, `y` and `a`, and by way of `a` to a third one,
`b`; the label sources `n` and `m` read `y` and `b`. -/
def relayDiagram : Diagram String where
  blocks := [⟨"x", "labelSource", [("name", .text "x")]⟩, ⟨"y", "labelSink", [("name", .text "y")]⟩,
    ⟨"n", "labelSource", [("name", .text "y")]⟩, ⟨"a", "labelSink", [("name", .text "a")]⟩,
    ⟨"b", "labelSink", [("name", .text "b")]⟩, ⟨"m", "labelSource", [("name", .text "b")]⟩]
  connections := [⟨"x", "y", 0, 0⟩, ⟨"x", "a", 0, 0⟩, ⟨"a", "b", 0, 0⟩]
  vars := []
  runtime := .null
  dt := .null
  nextId := 1

open Host.Usual

theorem label_coherent_relayDiagram :
    ∃ (compiled : Compiled Rat) (after : List Notice) (start final : RunState Rat)
      (result : TickResult Rat),
      Completes (ofDiagram relayDiagram standardDt standardRuntime) [] compiled after ∧
      compiled.Reachable start ∧ Completes (compiled.step 50 [("x", 5)]) start result final ∧
      result.resolution.converged = true ∧
      ∃ sink published, sink? compiled.nodes.toList (some "y") = some sink ∧
        Entries.get? result.outputs "y" = some published ∧
        ∀ (handle : Nat) (source : Node Rat), compiled.nodes[handle]? = some source →
          source.kind = .labelSource → source.label = some "y" →
            (¬ compiled.FollowsSink sink → SameSignal (final.outputOf handle) published) ∧
            (compiled.FollowsSink sink →
              final.outputOf handle = 0.0 ∧ published = sink.relayed final) := by
  have runs : (outcome (ofDiagram relayDiagram (standardDt : Setting Rat) standardRuntime)
      []).1.toOption.any (fun compiled =>
        (compiled.nodes.toList.any fun node => node.kind == .labelSink && node.label == some "y") &&
        (RunState.create compiled).toOption.any fun start =>
          (outcome (compiled.step 50 [("x", 5)]) start).1.toOption.any (·.resolution.converged)) =
      true := by
    decide +kernel
  obtain ⟨compiled, after, compiles, runs⟩ := exists_completes_of_any runs
  rw [Bool.and_eq_true] at runs
  obtain ⟨hasSink, runs⟩ := runs
  obtain ⟨start, created, runs⟩ := exists_of_toOption_any runs
  obtain ⟨result, final, ticks, converged⟩ := exists_completes_of_any runs
  obtain ⟨sink, listed, passes⟩ := List.any_eq_true.mp hasSink
  rw [Bool.and_eq_true, beq_iff_eq, beq_iff_eq] at passes
  exact ⟨compiled, after, start, final, result, compiles, .start created, ticks, converged,
    label_coherent compiles (.start created) (by decide) ticks converged listed passes.1 passes.2⟩

/-- A label source reads zero while five is published under its name, which another label sink
passes on to its own. -/
theorem label_not_coherent_relayDiagram :
    ∃ (compiled : Compiled Rat) (after : List Notice) (start final : RunState Rat)
      (result : TickResult Rat),
      Completes (ofDiagram relayDiagram standardDt standardRuntime) [] compiled after ∧
      compiled.Reachable start ∧ Completes (compiled.step 50 [("x", 5)]) start result final ∧
      result.resolution.converged = true ∧
      (∃ source, compiled.nodes[5]? = some source ∧ source.kind = .labelSource ∧
        source.label = some "b") ∧
      Entries.get? result.outputs "b" = some 5 ∧ final.outputOf 5 = 0 ∧
      ¬ SameSignal (final.outputOf 5) 5 := by
  have runs : (outcome (ofDiagram relayDiagram (standardDt : Setting Rat) standardRuntime)
      []).1.toOption.any (fun compiled =>
        (compiled.nodes[5]?.any fun node => node.kind == .labelSource && node.label == some "b") &&
        (RunState.create compiled).toOption.any fun start =>
          ((outcome (compiled.step 50 [("x", 5)]) start).2.outputOf 5 == 0) &&
          (outcome (compiled.step 50 [("x", 5)]) start).1.toOption.any fun result =>
            result.resolution.converged && Entries.get? result.outputs "b" == some 5) = true := by
    decide +kernel
  obtain ⟨compiled, after, compiles, runs⟩ := exists_completes_of_any runs
  rw [Bool.and_eq_true] at runs
  obtain ⟨isSource, runs⟩ := runs
  obtain ⟨start, created, runs⟩ := exists_of_toOption_any runs
  rw [Bool.and_eq_true, beq_iff_eq] at runs
  obtain ⟨zero, runs⟩ := runs
  obtain ⟨result, final, ticks, passes⟩ := exists_completes_of_any runs
  rw [Bool.and_eq_true, beq_iff_eq] at passes
  rw [ticks] at zero
  obtain ⟨source, found, sourcePasses⟩ := (Option.any_eq_true _ _).mp isSource
  rw [Bool.and_eq_true, beq_iff_eq, beq_iff_eq] at sourcePasses
  refine ⟨compiled, after, start, final, result, compiles, .start created, ticks, passes.1,
    ⟨source, found, sourcePasses⟩, passes.2, zero, ?_⟩
  rw [zero]
  rintro (same | ⟨-, isZero⟩)
  · exact absurd same (by decide +kernel)
  · exact absurd isZero (by decide +kernel)

end Compiled

end SignalFlow
