import SignalFlow.Proofs.Observer.Extension

/-! # Compiling diagrams with an observer

A block that is no label sink, listed last, with connections into it but none that leave it, is an
observer (`Diagram.IsObserved`). The handles, wires and labels of the blocks before stay as they are,
so a diagram with an observer compiles to an extension of what the diagram compiles to.
-/

namespace SignalFlow

variable {α : Type}

/-- A diagram has the blocks of another one and at the end an observer: a new block that is no label
sink, with connections into it but none that leave it. -/
structure Diagram.IsObserved (diagram other : Diagram String) (observer : Block String) : Prop where
  blocks_eq : other.blocks = diagram.blocks ++ [observer]
  isNew : observer.id ∉ diagram.ids
  notSink : observer.kind ≠ .labelSink
  connections_eq : other.connections.filter (·.target ≠ observer.id) =
    diagram.connections.filter (·.target ≠ observer.id)
  silent : ∀ connection ∈ other.connections, connection.source ≠ observer.id
  vars_eq : other.vars = diagram.vars
  runtime_eq : other.runtime = diagram.runtime
  dt_eq : other.dt = diagram.dt

/-! ## Wires -/

section Wires

variable {ids : List String} {id : String}

theorem idxOf?_append_of_ne {name : String} (different : name ≠ id) :
    (ids ++ [id]).idxOf? name = ids.idxOf? name := by
  induction ids with
  | nil => simpa using Ne.symm different
  | cons first rest ih =>
      rw [List.cons_append, List.idxOf?_cons, List.idxOf?_cons, ih]

/-- A connection that does not touch a new id is wired as without it. -/
theorem wire?_append {connection : Connection String} (source : connection.source ≠ id)
    (target : connection.target ≠ id) :
    Wiring.wire? (ids ++ [id]) connection = Wiring.wire? ids connection := by
  unfold Wiring.wire?
  rw [idxOf?_append_of_ne source, idxOf?_append_of_ne target]

variable (isNew : id ∉ ids)
include isNew

theorem toOption_wire?_of_target {connection : Connection String} (target : connection.target = id) :
    (Wiring.wire? ids connection).toOption = none := by
  have dropped : ids.idxOf? connection.target = none := by
    rw [target, List.idxOf?_eq_none_iff]
    exact isNew
  unfold Wiring.wire?
  rw [dropped]
  cases ids.idxOf? connection.source <;> rfl

theorem target_of_wire?_append {connection : Connection String} (target : connection.target = id)
    {wire : Wire} (wired : Wiring.wire? (ids ++ [id]) connection = .ok wire) :
    wire.target = ids.length := by
  obtain ⟨-, found, -⟩ := Compiled.wire?_eq_ok_iff.mp wired
  obtain ⟨inside, same, -⟩ := List.idxOf?_eq_some_iff.mp found
  by_contra other
  have before : wire.target < ids.length := by
    rw [List.length_append, List.length_singleton] at inside
    omega
  rw [List.getElem_append_left before, target] at same
  exact isNew (same ▸ List.getElem_mem before)

theorem wires_filter (connections : List (Connection String)) :
    Wiring.wires ids (connections.filter (·.target ≠ id)) = Wiring.wires ids connections := by
  unfold Wiring.wires
  rw [List.filterMap_filter]
  apply List.filterMap_congr
  intro connection _
  split
  · rfl
  · rename_i into
    rw [toOption_wire?_of_target isNew (by simpa using into)]

/-- Of the wires with a new id those to other places are the wires without it. -/
theorem filter_wires_append {connections : List (Connection String)}
    (silent : ∀ connection ∈ connections, connection.source ≠ id) :
    (Wiring.wires (ids ++ [id]) connections).filter (·.target ≠ ids.length) =
      Wiring.wires ids connections := by
  unfold Wiring.wires
  rw [List.filter_filterMap]
  apply List.filterMap_congr
  intro connection member
  by_cases into : connection.target = id
  · rw [toOption_wire?_of_target isNew into]
    cases wired : Wiring.wire? (ids ++ [id]) connection with
    | error notice => rfl
    | ok wire => simp [Except.toOption, target_of_wire?_append isNew into wired]
  · rw [wire?_append (silent connection member) into]
    cases wired : Wiring.wire? ids connection with
    | error notice => rfl
    | ok wire =>
        obtain ⟨-, found, -⟩ := Compiled.wire?_eq_ok_iff.mp wired
        have inside := (List.idxOf?_eq_some_iff.mp found).1
        simp [Except.toOption, Nat.ne_of_lt inside]

end Wires

section OtherTargets

variable {wires : List Wire} {last handle : Nat} (different : handle ≠ last)
include different

/-- What picks wires to one place does not see whether those to another are there. -/
theorem filter_filter_target {test : Wire → Bool}
    (aimed : ∀ wire, test wire = true → wire.target = handle) :
    (wires.filter (·.target ≠ last)).filter test = wires.filter test := by
  rw [List.filter_filter]
  apply List.filter_congr
  intro wire _
  rw [Bool.eq_iff_iff, Bool.and_eq_true, decide_eq_true_iff, and_iff_left_iff_imp]
  intro picked
  rw [aimed wire picked]
  exact different

theorem driver?_filter (port : Nat) :
    Wiring.driver? (wires.filter (·.target ≠ last)) handle port =
      Wiring.driver? wires handle port := by
  rw [Wiring.driver?, filter_filter_target different, Wiring.driver?]
  intro wire picked
  rw [Bool.and_eq_true, beq_iff_eq] at picked
  exact picked.1

theorem ports_filter (kind : Kind) :
    Wiring.ports (wires.filter (·.target ≠ last)) kind handle = Wiring.ports wires kind handle := by
  rw [Wiring.ports, filter_filter_target different, Wiring.ports]
  exact fun wire picked => beq_iff_eq.mp picked

theorem wired_filter [Scalar α] (block : Block String) (payload : Payload α) :
    Compiled.wired (wires.filter (·.target ≠ last)) handle block payload =
      Compiled.wired wires handle block payload := by
  simp only [Compiled.wired, ports_filter different, driver?_filter different]

end OtherTargets

/-! ## Labels -/

namespace Compiled

section Labels

variable {nodes : List (Node α)} {last : Node α} (notSink : last.kind ≠ .labelSink)
include notSink

theorem sink?_append (label : Option String) :
    sink? (nodes ++ [last]) label = sink? nodes label := by
  have skipped :
      [last].filter (fun node => node.kind == .labelSink && node.label == label) = [] := by
    simp [notSink]
  rw [sink?, List.filter_append, skipped, List.append_nil, sink?]

theorem bind_append (node : Node α) : bind (nodes ++ [last]) node = bind nodes node := by
  rw [bind, sink?_append notSink, bind]

theorem outputHandles_append (dt runtime : Setting α) (constants : Constants) :
    (ofNodes (nodes ++ [last]) dt runtime constants).outputHandles =
      (ofNodes nodes dt runtime constants).outputHandles := by
  have skipped : [last].filter (·.kind == .labelSink) = [] := by simp [notSink]
  unfold ofNodes
  dsimp only
  rw [List.filter_append, skipped, List.append_nil]
  simp only [sink?_append notSink]

end Labels

theorem lt_of_mem_outputHandles_ofNodes {nodes : List (Node α)} {dt runtime : Setting α}
    {constants : Constants}
    (places : ∀ {handle : Nat} {node : Node α}, nodes[handle]? = some node → node.handle = handle)
    {name : String} {handle : Nat}
    (bound : (name, handle) ∈ (ofNodes nodes dt runtime constants).outputHandles) :
    handle < nodes.length := by
  obtain ⟨label, -, named⟩ := List.mem_filterMap.mp bound
  obtain ⟨sink, found, same⟩ := Option.map_eq_some_iff.mp named
  obtain ⟨place, listed⟩ := List.getElem?_of_mem (of_sink?_eq_some found).1
  obtain rfl : sink.handle = handle := (Prod.mk.inj same).2
  rw [places listed]
  exact (List.getElem?_eq_some_iff.mp listed).1

/-! ## Assembled diagrams -/

section Assemble

variable [Scalar α] {diagram other : Diagram String} {block : Block String}
  {payloads : List (Payload α)} (observed : diagram.IsObserved other block)
  (resolved : payloads.length = diagram.blocks.length)
include observed

omit [Scalar α] in
theorem ids_of_isObserved : other.ids = diagram.ids ++ [block.id] := by
  rw [Diagram.ids, observed.blocks_eq, List.map_append, Diagram.ids]
  rfl

theorem filter_wires_of_isObserved :
    (Wiring.wires other.ids other.connections).filter (·.target ≠ diagram.ids.length) =
      Wiring.wires diagram.ids diagram.connections := by
  rw [ids_of_isObserved observed, filter_wires_append observed.isNew observed.silent,
    ← wires_filter observed.isNew, observed.connections_eq, wires_filter observed.isNew]

include resolved

/-- The blocks before are wired as they are without the observer. -/
theorem wiredNodes_of_isObserved (payload : Payload α) :
    wiredNodes other (payloads ++ [payload]) = wiredNodes diagram payloads ++
      [wired (Wiring.wires other.ids other.connections) diagram.ids.length block payload] := by
  have pairs : other.blocks.zip (payloads ++ [payload]) =
      diagram.blocks.zip payloads ++ [(block, payload)] := by
    rw [observed.blocks_eq, List.zip_append resolved.symm]
    rfl
  have length : (diagram.blocks.zip payloads).length = diagram.ids.length := by
    simp [resolved, Diagram.ids]
  unfold wiredNodes wiredFrom
  rw [pairs, List.mapIdx_concat, length, Nat.zero_add]
  congr 1
  rw [List.mapIdx_eq_mapIdx_iff]
  intro handle inside
  have different : 0 + handle ≠ diagram.ids.length := by omega
  rw [← filter_wires_of_isObserved observed]
  exact (wired_filter different _ _).symm

/-- The bound blocks before are those without the observer, which is bound beside them. -/
theorem bound_of_isObserved (payload : Payload α) :
    (wiredNodes other (payloads ++ [payload])).map (bind (wiredNodes other (payloads ++ [payload]))) =
      (wiredNodes diagram payloads).map (bind (wiredNodes diagram payloads)) ++
        [bind (wiredNodes diagram payloads)
          (wired (Wiring.wires other.ids other.connections) diagram.ids.length block payload)] := by
  have notSink : (wired (Wiring.wires other.ids other.connections) diagram.ids.length block
      payload).kind ≠ .labelSink := observed.notSink
  have same : bind (wiredNodes diagram payloads ++ [_]) = bind (wiredNodes diagram payloads) :=
    funext (bind_append notSink)
  rw [wiredNodes_of_isObserved observed resolved, same, List.map_append]
  rfl

/-- **A diagram with an observer compiles to an extension** of what the diagram compiles to. -/
theorem extends_assemble (constants : Constants) (dt runtime : Setting α) (payload : Payload α) :
    (assemble diagram constants dt runtime payloads).Extends
      (assemble other constants dt runtime (payloads ++ [payload]))
      (bind (wiredNodes diagram payloads)
        (wired (Wiring.wires other.ids other.connections) diagram.ids.length block payload)) := by
  have wellFormed := wellFormed_assemble constants dt runtime resolved
  have otherResolved : (payloads ++ [payload]).length = other.blocks.length := by
    simp [observed.blocks_eq, resolved]
  have bound := bound_of_isObserved observed resolved payload
  refine ⟨wellFormed, wellFormed_assemble constants dt runtime otherResolved, ?_, ?_, ?_, ?_, ?_⟩
  · simp only [assemble, ofNodes, bound, List.push_toArray]
  · rw [dt_assemble, dt_assemble]
  · rw [assemble, bound]
    apply outputHandles_append
    rw [bind_kind]
    exact observed.notSink
  · intro name handle publishes
    have inside := lt_of_mem_outputHandles_ofNodes wellFormed.handle_eq_of_toList publishes
    simpa [assemble, ofNodes] using inside
  · intro isSink
    rw [bind_payload]
    rcases bind_phase (wiredNodes diagram payloads) (wired (Wiring.wires other.ids other.connections)
      diagram.ids.length block payload) with own | source
    · rw [own] at isSink
      exact isSink
    · rw [source] at isSink
      cases isSink

end Assemble

end Compiled

end SignalFlow
