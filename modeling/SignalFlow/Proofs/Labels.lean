import SignalFlow.Compiled.Compile
import Mathlib.Logic.Basic

/-! # Labels

Of the label sinks of a name the last one counts. It is what the output of that name is bound to,
and what a label source of that name is bound to (`Compiled.bind`); binding touches nothing but the
phase, the drivers and the ports of a label source.
-/

namespace SignalFlow.Compiled

variable {α : Type}

/-! ## Label sinks -/

theorem of_sink?_eq_some {nodes : List (Node α)} {label : Option String} {sink : Node α}
    (found : sink? nodes label = some sink) :
    sink ∈ nodes ∧ sink.kind = .labelSink ∧ sink.label = label := by
  have member := List.mem_of_getLast? found
  rw [List.mem_filter, Bool.and_eq_true, beq_iff_eq, beq_iff_eq] at member
  exact member

theorem sink?_eq_none_iff {nodes : List (Node α)} {label : Option String} :
    sink? nodes label = none ↔ ∀ node ∈ nodes, node.kind = .labelSink → node.label ≠ label := by
  rw [sink?, List.getLast?_eq_none_iff, List.filter_eq_nil_iff]
  simp only [Bool.and_eq_true, beq_iff_eq, not_and]

/-- Where kinds and labels stay, the label sink of a name is the changed one. -/
theorem sink?_map {change : Node α → Node α} (kind : ∀ node, (change node).kind = node.kind)
    (label : ∀ node, (change node).label = node.label) (nodes : List (Node α))
    (name : Option String) : sink? (nodes.map change) name = (sink? nodes name).map change := by
  have same : ((fun node : Node α => node.kind == .labelSink && node.label == name) ∘ change) =
      fun node => node.kind == .labelSink && node.label == name := by
    funext node
    rw [Function.comp_apply, kind, label]
  rw [sink?, List.filter_map, same, List.getLast?_map, sink?]

/-- What is found under a name in a table that has a value for some names. -/
theorem get?_filterMap {β : Type} (names : List String) (value : String → Option β) (name : String) :
    Entries.get? (names.filterMap fun other => (value other).map (other, ·)) name =
      if name ∈ names then value name else none := by
  induction names with
  | nil => rfl
  | cons other rest ih =>
      by_cases same : other = name
      · subst same
        cases found : value other with
        | none =>
            rw [List.filterMap_cons, found, Option.map_none, ih, found]
            simp
        | some entry => simp [Entries.get?, found]
      · have different : name ≠ other := Ne.symm same
        have cons_iff : name ∈ other :: rest ↔ name ∈ rest := by simp [different]
        rw [List.filterMap_cons, if_congr cons_iff rfl rfl, ← ih]
        cases value other with
        | none => rfl
        | some entry => simp [Entries.get?, same]

theorem get?_outputHandles_ofNodes (nodes : List (Node α)) (dt runtime : Setting α)
    (constants : Constants) (name : String) :
    Entries.get? (ofNodes nodes dt runtime constants).outputHandles name =
      (sink? nodes (some name)).map (·.handle) := by
  have table : (ofNodes nodes dt runtime constants).outputHandles =
      (labels (nodes.filter (·.kind == .labelSink))).filterMap fun other =>
        ((sink? nodes (some other)).map (·.handle)).map (other, ·) := by
    simp only [ofNodes, Option.map_map]
    rfl
  rw [table, get?_filterMap]
  split
  · rfl
  · rename_i absent
    cases found : sink? nodes (some name) with
    | none => rfl
    | some sink =>
        obtain ⟨member, isSink, labelled⟩ := of_sink?_eq_some found
        refine absurd ?_ absent
        rw [labels, List.mem_eraseDups, List.mem_filterMap]
        refine ⟨sink, ?_, labelled⟩
        rw [List.mem_filter, beq_iff_eq]
        exact ⟨member, isSink⟩

/-! ## Bound blocks -/

theorem bind_of_kind_ne {node : Node α} (isOther : node.kind ≠ .labelSource)
    (nodes : List (Node α)) : bind nodes node = node := by
  have notSource : (node.kind == .labelSource) = false := by simpa using isOther
  rw [bind, notSource]
  rfl

theorem bind_of_sink? {nodes : List (Node α)} {node sink : Node α}
    (isSource : node.kind = .labelSource) (bound : sink? nodes node.label = some sink) :
    bind nodes node =
      { node with drivers := ((sink.driver? 0).map (0, ·)).toList, ports := [0] } := by
  have source : (node.kind == .labelSource) = true := beq_iff_eq.mpr isSource
  rw [bind, if_pos source, bound]

theorem mem_drivers_of_driver? {node : Node α} {port driver : Nat}
    (found : node.driver? port = some driver) : (port, driver) ∈ node.drivers := by
  obtain ⟨⟨entryPort, entryDriver⟩, isFound, rfl⟩ := Option.map_eq_some_iff.mp found
  have samePort : entryPort = port := by simpa using List.find?_some isFound
  rw [← samePort]
  exact List.mem_of_find?_eq_some isFound

theorem mem_driverHandles_of_driver? {node : Node α} {port driver : Nat}
    (found : node.driver? port = some driver) : driver ∈ node.driverHandles :=
  List.mem_map_of_mem (mem_drivers_of_driver? found)

/-- Binding leaves a block its ports and drivers, or gives it a port 0 that is driven as that of a
label sink. -/
theorem bind_drivers_cases (nodes : List (Node α)) (node : Node α) :
    ((bind nodes node).drivers = node.drivers ∧ (bind nodes node).ports = node.ports) ∨
      ((bind nodes node).ports = [0] ∧ ∃ sink ∈ nodes,
        (bind nodes node).drivers = ((sink.driver? 0).map (0, ·)).toList) := by
  unfold bind
  split
  · split
    · rename_i sink found
      have member : sink ∈ nodes := (List.mem_filter.mp (List.mem_of_getLast? found)).1
      exact .inr ⟨rfl, sink, member, rfl⟩
    · exact .inl ⟨rfl, rfl⟩
  · exact .inl ⟨rfl, rfl⟩

theorem driver_of_bind {nodes : List (Node α)} {node : Node α} {driver : Nat}
    (drives : driver ∈ (bind nodes node).driverHandles) :
    driver ∈ node.driverHandles ∨ ∃ sink ∈ nodes, driver ∈ sink.driverHandles := by
  rw [Node.driverHandles] at drives
  rcases bind_drivers_cases nodes node with ⟨same, -⟩ | ⟨-, sink, member, drivers⟩
  · rw [same] at drives
    exact .inl drives
  · rw [drivers, List.mem_map] at drives
    obtain ⟨entry, taken, rfl⟩ := drives
    rw [Option.mem_toList, Option.map_eq_some_iff] at taken
    obtain ⟨driver, driven, rfl⟩ := taken
    exact .inr ⟨sink, member, mem_driverHandles_of_driver? driven⟩

/-! ## What binding leaves alone -/

/-- Binding replaces nothing but the phase, the drivers and the ports, and marks external inputs. -/
theorem bind_eq (nodes : List (Node α)) (node : Node α) :
    bind nodes node =
      { node with
        phase := (bind nodes node).phase
        drivers := (bind nodes node).drivers
        ports := (bind nodes node).ports
        external := (bind nodes node).external } := by
  unfold bind
  split
  · split <;> rfl
  · rfl

@[simp] theorem bind_handle (nodes : List (Node α)) (node : Node α) :
    (bind nodes node).handle = node.handle := by
  rw [bind_eq]

@[simp] theorem bind_id (nodes : List (Node α)) (node : Node α) :
    (bind nodes node).id = node.id := by
  rw [bind_eq]

@[simp] theorem bind_type (nodes : List (Node α)) (node : Node α) :
    (bind nodes node).type = node.type := by
  rw [bind_eq]

@[simp] theorem bind_kind (nodes : List (Node α)) (node : Node α) :
    (bind nodes node).kind = node.kind := by
  rw [bind_eq]

@[simp] theorem bind_payload (nodes : List (Node α)) (node : Node α) :
    (bind nodes node).payload = node.payload := by
  rw [bind_eq]

@[simp] theorem bind_label (nodes : List (Node α)) (node : Node α) :
    (bind nodes node).label = node.label := by
  rw [bind_eq]

theorem bind_phase (nodes : List (Node α)) (node : Node α) :
    (bind nodes node).phase = node.phase ∨ (bind nodes node).phase = .source := by
  unfold bind
  split
  · split
    · exact .inl rfl
    · exact .inr rfl
  · exact .inl rfl

/-- Binding marks the label sources without a label sink, and they alone become sources. -/
theorem bind_external (nodes : List (Node α)) {node : Node α} (unbound : node.external = false) :
    ((bind nodes node).external = true ↔
      node.kind = .labelSource ∧ sink? nodes node.label = none) ∧
    (bind nodes node).phase = if (bind nodes node).external then .source else node.phase := by
  unfold bind
  by_cases isSource : node.kind = .labelSource
  · cases sink? nodes node.label with
    | some sink => simp [isSource, unbound]
    | none => simp [isSource]
  · simp [isSource, unbound]

end SignalFlow.Compiled
