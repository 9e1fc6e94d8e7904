import SignalFlow.Host.Usual
import SignalFlow.Proofs.Findings
import SignalFlow.Proofs.Layout
import Mathlib.Data.Option.Defs

/-! # What becomes of connections

Compiling and validating go through the connections of a diagram apart from each other. Compiling
gives a wire to each connection that it does not drop and takes the last wire to a port as its
driver; validating warns of connections and counts those to a port. Both keep the same connections
(`Validation.validConnections_eq`), and the wires to a port follow the kept connections to it one by
one (`Compiled.forall₂_wires_to`). So validating warns of what compiling drops, and where several
connections share a port it names the one that compiling keeps (`Compiled.connections_agree`).
-/

namespace SignalFlow

variable {α : Type}

/-! ## Kept connections -/

namespace Diagram

/-- Compiling drops a connection: it gets no wire. -/
def Drops (diagram : Diagram String) (connection : Connection String) : Prop :=
  ∃ notice, Wiring.wire? diagram.ids connection = .error notice

/-- The connections that compiling does not drop. -/
def kept (diagram : Diagram String) : List (Connection String) :=
  diagram.connections.filter fun connection => (Wiring.wire? diagram.ids connection).isOk

/-- The connections to a port of a block that compiling does not drop. -/
def keptTo (diagram : Diagram String) (target : String) (port : Nat) : List (Connection String) :=
  Validation.connectionsTo diagram.kept target port

/-- A block is a label source, and there is a label sink of its name. -/
def IsMatched (diagram : Diagram String) (block : Block String) : Prop :=
  block.kind = .labelSource ∧
    ∃ sink ∈ diagram.blocks, sink.kind = .labelSink ∧
      Compiled.labelName sink = Compiled.labelName block

/-- A connection starts at the block at a handle. -/
def StartsAt (diagram : Diagram String) (handle : Nat) (connection : Connection String) : Prop :=
  diagram.ids[handle]? = some connection.source

theorem drops_iff {diagram : Diagram String} {connection : Connection String} :
    diagram.Drops connection ↔ connection.source ∉ diagram.ids ∨ connection.target ∉ diagram.ids ∨
      connection.targetPort < 0 := by
  have known {id : String} {place : Nat} (found : diagram.ids.idxOf? id = some place) :
      id ∈ diagram.ids := by
    by_contra absent
    rw [List.idxOf?_eq_none_iff.mpr absent] at found
    cases found
  unfold Drops Wiring.wire?
  cases source : diagram.ids.idxOf? connection.source with
  | none => simp [List.idxOf?_eq_none_iff.mp source]
  | some _ =>
      cases target : diagram.ids.idxOf? connection.target with
      | none => simp [List.idxOf?_eq_none_iff.mp target]
      | some _ =>
          cases connection.targetPort with
          | ofNat port => simp [known source, known target]
          | negSucc port => simp [Int.negSucc_lt_zero]

theorem isOk_wire?_iff {diagram : Diagram String} {connection : Connection String} :
    (Wiring.wire? diagram.ids connection).isOk = true ↔ ¬ diagram.Drops connection := by
  unfold Drops
  cases Wiring.wire? diagram.ids connection <;> simp [Except.isOk, Except.toBool]

theorem mem_kept {diagram : Diagram String} {connection : Connection String} :
    connection ∈ diagram.kept ↔ connection ∈ diagram.connections ∧ ¬ diagram.Drops connection := by
  rw [kept, List.mem_filter, isOk_wire?_iff]

end Diagram

/-- Validating keeps what compiling keeps. -/
theorem Validation.validConnections_eq (diagram : Diagram String) :
    validConnections diagram = diagram.kept := by
  apply List.filter_congr
  intro connection _
  rw [Bool.eq_iff_iff, Diagram.isOk_wire?_iff, Diagram.drops_iff, Bool.and_eq_true,
    Bool.and_eq_true, List.contains_iff_mem, List.contains_iff_mem, decide_eq_true_iff]
  simp only [not_or, not_not, Int.not_lt, and_assoc]

/-! ## Wires and kept connections -/

namespace Compiled

section Wires

/-- Each connection that is not dropped has its wire. -/
theorem forall₂_wires (ids : List String) (connections : List (Connection String)) :
    List.Forall₂ (fun wire connection => Wiring.wire? ids connection = .ok wire)
      (Wiring.wires ids connections)
      (connections.filter fun connection => (Wiring.wire? ids connection).isOk) := by
  induction connections with
  | nil => exact .nil
  | cons connection rest ih =>
      cases ended : Wiring.wire? ids connection with
      | error notice =>
          simpa [Wiring.wires, ended, Except.toOption, Except.isOk, Except.toBool] using ih
      | ok wire =>
          have both : List.Forall₂ (fun wire connection => Wiring.wire? ids connection = .ok wire)
              (wire :: Wiring.wires ids rest)
              (connection :: rest.filter fun connection => (Wiring.wire? ids connection).isOk) :=
            .cons ended ih
          simpa [Wiring.wires, ended, Except.toOption, Except.isOk, Except.toBool] using both

/-- The connections that have no wire may as well be missing. -/
theorem wires_filter_isOk (ids : List String) (connections : List (Connection String)) :
    Wiring.wires ids (connections.filter fun connection => (Wiring.wire? ids connection).isOk) =
      Wiring.wires ids connections := by
  unfold Wiring.wires
  rw [List.filterMap_filter]
  apply List.filterMap_congr
  intro connection _
  cases Wiring.wire? ids connection <;> rfl

/-- The last items of lists whose items are related one by one are related. -/
theorem rel_getLast? {β γ : Type} {related : β → γ → Prop} {items : List β} {others : List γ}
    (all : List.Forall₂ related items others) :
    Option.Rel related items.getLast? others.getLast? := by
  rw [← List.head?_reverse, ← List.head?_reverse]
  have backwards := List.forall₂_reverse_iff.mpr all
  revert backwards
  generalize items.reverse = first, others.reverse = second
  rintro (_ | ⟨last, -⟩)
  · exact .none
  · exact .some last

end Wires

section Kept

variable {diagram : Diagram String} (nodup : diagram.ids.Nodup) {handle : Nat}
  {block : Block String} (found : diagram.blocks[handle]? = some block)
include nodup found

theorem idxOf?_eq_some_handle_iff {id : String} :
    diagram.ids.idxOf? id = some handle ↔ id = block.id := by
  have idFound : diagram.ids[handle]? = some block.id := by simp [Diagram.ids, found]
  obtain ⟨inside, same⟩ := List.getElem?_eq_some_iff.mp idFound
  constructor
  · intro place
    obtain ⟨_, placed, -⟩ := List.idxOf?_eq_some_iff.mp place
    exact placed.symm.trans same
  · rintro rfl
    rw [List.idxOf?_eq_some_iff]
    refine ⟨inside, same, fun earlier before => ?_⟩
    have different : diagram.ids[earlier] ≠ diagram.ids[handle] := by
      rw [Ne, nodup.getElem_inj_iff]
      exact Nat.ne_of_lt before
    simpa [same] using different

/-- The wires to a port of a block are those of the connections to it that are not dropped. -/
theorem forall₂_wires_to (port : Nat) :
    List.Forall₂ (fun wire connection => Wiring.wire? diagram.ids connection = .ok wire)
      ((Wiring.wires diagram.ids diagram.connections).filter fun wire =>
        wire.target == handle && wire.port == port)
      (diagram.keptTo block.id port) := by
  refine List.rel_filter ?_ (forall₂_wires diagram.ids diagram.connections)
  intro wire connection wired
  obtain ⟨-, target, targetPort⟩ := wire?_eq_ok_iff.mp wired
  have same_target : wire.target = handle ↔ connection.target = block.id := by
    rw [← idxOf?_eq_some_handle_iff nodup found, target, Option.some.injEq]
  have same_port : wire.port = port ↔ connection.targetPort = port := by
    rw [targetPort, Int.ofNat_eq_natCast, Int.natCast_inj]
  simp only [Bool.and_eq_true, beq_iff_eq, same_target, same_port]

/-- Compiling takes the last connection to a port that it does not drop. -/
theorem rel_driver?_keptTo (port : Nat) :
    Option.Rel diagram.StartsAt
      (Wiring.driver? (Wiring.wires diagram.ids diagram.connections) handle port)
      (diagram.keptTo block.id port).getLast? := by
  have last := rel_getLast? (forall₂_wires_to nodup found port)
  rw [Wiring.driver?]
  generalize List.getLast? _ = wire? at last ⊢
  generalize (diagram.keptTo block.id port).getLast? = connection? at last ⊢
  cases last with
  | none => exact .none
  | some wired =>
      obtain ⟨place, -, -⟩ := wire?_eq_ok_iff.mp wired
      obtain ⟨inside, same, -⟩ := List.idxOf?_eq_some_iff.mp place
      exact .some (List.getElem?_eq_some_iff.mpr ⟨inside, same⟩)

end Kept

section Drivers

variable [Scalar α]

/-- A wired block has the drivers of its wires. -/
theorem driver?_wired (wires : List Wire) (handle : Nat) (block : Block String)
    (payload : Payload α) (port : Nat) :
    (wired wires handle block payload).driver? port = Wiring.driver? wires handle port := by
  ext driver
  constructor
  · intro driven
    exact (mem_drivers_wired.mp (mem_drivers_of_driver? driven)).2
  · intro driven
    obtain ⟨wire, last, -⟩ := Option.map_eq_some_iff.mp driven
    obtain ⟨member, aimed⟩ := List.mem_filter.mp (List.mem_of_getLast? last)
    rw [Bool.and_eq_true, beq_iff_eq, beq_iff_eq] at aimed
    have listed : port ∈ Wiring.ports wires block.kind handle := by
      rw [Wiring.ports, List.mem_mergeSort, List.mem_eraseDups, List.mem_append]
      refine .inr (List.mem_map.mpr ⟨wire, ?_, aimed.2⟩)
      rw [List.mem_filter, beq_iff_eq]
      exact ⟨member, aimed.1⟩
    have entry : (port, driver) ∈ (wired wires handle block payload).drivers :=
      mem_drivers_wired.mpr ⟨listed, driven⟩
    -- The drivers of a port agree, so the first entry of the port is the one that is listed.
    cases found : (wired wires handle block payload).driver? port with
    | none =>
        rw [Node.driver?, Option.map_eq_none_iff, List.find?_eq_none] at found
        simpa using found _ entry
    | some other =>
        have otherDriven := (mem_drivers_wired.mp (mem_drivers_of_driver? found)).2
        exact otherDriven.symm.trans driven

variable {diagram : Diagram String} {constants : Constants} {dt runtime : Setting α}
  {payloads : List (Payload α)}

/-- Binding leaves a block its drivers that is not a label source with a label sink. -/
theorem driver?_assemble (length_eq : payloads.length = diagram.blocks.length) {handle : Nat}
    {block : Block String} (found : diagram.blocks[handle]? = some block)
    (unmatched : ¬ diagram.IsMatched block) :
    ∃ node, (assemble diagram constants dt runtime payloads).nodes[handle]? = some node ∧
      node.id = block.id ∧ ∀ port, node.driver? port =
        Wiring.driver? (Wiring.wires diagram.ids diagram.connections) handle port := by
  have inside : handle < (assemble diagram constants dt runtime payloads).nodes.size := by
    rw [size_assemble constants dt runtime length_eq, Diagram.ids, List.length_map]
    exact (List.getElem?_eq_some_iff.mp found).1
  have nodeFound := Array.getElem?_eq_getElem inside
  obtain ⟨other, payload, otherFound, -, node_eq⟩ := exists_of_getElem?_assemble nodeFound
  obtain rfl : block = other := Option.some.inj (found.symm.trans otherFound)
  refine ⟨_, nodeFound, ?_, fun port => ?_⟩
  · rw [node_eq, bind_id]
    rfl
  · rw [node_eq, ← driver?_wired _ handle block payload]
    by_cases isSource : block.kind = .labelSource
    · have unbound : sink? (wiredNodes diagram payloads) (some (labelName block)) = none := by
        rw [sink?_wiredNodes_eq_none_iff length_eq]
        exact fun sink member isSink same => unmatched ⟨isSource, sink, member, isSink, same⟩
      have source : ((wired (Wiring.wires diagram.ids diagram.connections) handle block
          payload).kind == .labelSource) = true := beq_iff_eq.mpr isSource
      rw [bind, if_pos source, label_wired isSource, unbound]
      rfl
    · rw [bind_of_kind_ne isSource]

end Drivers

end Compiled

/-! ## Findings about connections -/

namespace Validation

variable {diagram : Diagram String}

/-- What is told of a connection that is dropped. -/
inductive IsWarning (diagram : Diagram String) (connection : Connection String) : Finding → Prop
  | source : connection.source ∉ diagram.ids →
      IsWarning diagram connection (.unknownBlock connection .source connection.source)
  | destination : connection.target ∉ diagram.ids →
      IsWarning diagram connection (.unknownBlock connection .destination connection.target)
  | negative : connection.targetPort < 0 → IsWarning diagram connection (.negativePort connection)

theorem IsWarning.severity {connection : Connection String} {finding : Finding}
    (isWarning : IsWarning diagram connection finding) : finding.severity = .warning := by
  cases isWarning <;> rfl

theorem IsWarning.connections {connection : Connection String} {finding : Finding}
    (isWarning : IsWarning diagram connection finding) : finding.connections = [connection] := by
  cases isWarning <;> rfl

/-- Something is told of a connection exactly if compiling drops it. -/
theorem exists_isWarning_iff {connection : Connection String} :
    (∃ finding, IsWarning diagram connection finding) ↔ diagram.Drops connection := by
  rw [Diagram.drops_iff]
  constructor
  · rintro ⟨-, unknown | unknown | negative⟩
    · exact .inl unknown
    · exact .inr (.inl unknown)
    · exact .inr (.inr negative)
  · rintro (unknown | unknown | negative)
    · exact ⟨_, .source unknown⟩
    · exact ⟨_, .destination unknown⟩
    · exact ⟨_, .negative negative⟩

theorem mem_invalidConnections {finding : Finding} : finding ∈ invalidConnections diagram ↔
    ∃ connection ∈ diagram.connections, IsWarning diagram connection finding := by
  rw [invalidConnections, List.mem_flatMap]
  refine exists_congr fun connection => and_congr_right fun _ => ?_
  simp only [List.mem_append, List.mem_ite_nil_left, List.mem_ite_nil_right, List.mem_singleton,
    List.contains_iff_mem]
  constructor
  · rintro ((⟨unknown, rfl⟩ | ⟨unknown, rfl⟩) | ⟨negative, rfl⟩)
    · exact .source unknown
    · exact .destination unknown
    · exact .negative negative
  · rintro (unknown | unknown | negative)
    · exact .inl (.inl ⟨unknown, rfl⟩)
    · exact .inl (.inr ⟨unknown, rfl⟩)
    · exact .inr ⟨negative, rfl⟩

/-- What is told of a port with several connections: the last one of them is used. -/
def IsShared (diagram : Diagram String) (block : String) (port : Nat) (finding : Finding) : Prop :=
  1 < (diagram.keptTo block port).length ∧ ∃ last, (diagram.keptTo block port).getLast? = some last ∧
    finding = .sharedPort block port (diagram.keptTo block port) last.source

theorem mem_connectionsTo {connections : List (Connection String)} {connection : Connection String}
    {target : String} {port : Int} : connection ∈ connectionsTo connections target port ↔
      connection ∈ connections ∧ connection.target = target ∧ connection.targetPort = port := by
  rw [connectionsTo, List.mem_filter, Bool.and_eq_true, beq_iff_eq, beq_iff_eq]

theorem mem_sharedPorts {finding : Finding} : finding ∈ sharedPorts diagram ↔
    ∃ block ∈ diagram.blocks, ∃ port, IsShared diagram block.id port finding := by
  rw [sharedPorts, validConnections_eq, List.mem_filterMap]
  constructor
  · rintro ⟨⟨target, port⟩, -, told⟩
    dsimp only at told
    split at told
    · rename_i several
      obtain ⟨last, isLast, rfl⟩ := Option.map_eq_some_iff.mp told
      obtain ⟨isKept, rfl, rfl⟩ := mem_connectionsTo.mp (List.mem_of_getLast? isLast)
      have keeps := (Diagram.mem_kept.mp isKept).2
      rw [Diagram.drops_iff, not_or, not_or, not_not, not_not, Int.not_lt] at keeps
      obtain ⟨-, known, positive⟩ := keeps
      obtain ⟨block, member, same⟩ := List.mem_map.mp known
      obtain ⟨port, isPort⟩ := Int.eq_ofNat_of_zero_le positive
      rw [← same, isPort] at several isLast ⊢
      exact ⟨block, member, port, several, last, isLast, rfl⟩
    · cases told
  · rintro ⟨block, -, port, several, last, isLast, rfl⟩
    obtain ⟨isKept, target, targetPort⟩ := mem_connectionsTo.mp (List.mem_of_getLast? isLast)
    refine ⟨(block.id, port), ?_, ?_⟩
    · rw [List.mem_eraseDups, List.mem_map]
      exact ⟨last, isKept, by rw [target, targetPort]⟩
    · exact (if_pos several).trans (Option.map_eq_some_iff.mpr ⟨last, isLast, rfl⟩)

/-- Each port with several connections is told of once. -/
theorem nodup_sharedPorts (diagram : Diagram String) : (sharedPorts diagram).Nodup := by
  refine List.Nodup.filterMap ?_ (nodup_eraseDups _)
  rintro ⟨target, port⟩ ⟨otherTarget, otherPort⟩ finding told otherTold
  dsimp only [Option.mem_def] at told otherTold
  split at told
  · split at otherTold
    · obtain ⟨last, isLast, rfl⟩ := Option.map_eq_some_iff.mp told
      obtain ⟨_, -, same⟩ := Option.map_eq_some_iff.mp otherTold
      obtain ⟨rfl, -, sharing, -⟩ := Finding.sharedPort.inj same
      have member := List.mem_of_getLast? isLast
      have isPort := (mem_connectionsTo.mp member).2.2
      rw [← sharing] at member
      have isOtherPort := (mem_connectionsTo.mp member).2.2
      rw [← isPort, isOtherPort]
    · cases otherTold
  · cases told

/-! ## Other findings -/

/-- A finding that is no error and concerns no connection. -/
def IsOther (finding : Finding) : Prop := finding.severity ≠ .error ∧ finding.connections = []

theorem isOther_of_topic {finding : Finding} (noConnection : finding.topic ≠ .connection)
    (noSharing : finding.topic ≠ .sharing) : IsOther finding := by
  cases finding with
  | unknownBlock | negativePort => exact absurd rfl noConnection
  | sharedPort => exact absurd rfl noSharing
  | _ => exact ⟨nofun, rfl⟩

/-- Besides what is told of connections, no finding is an error or concerns a connection. -/
theorem exists_eq_of_findingsOf [Host] [Scalar α] {compiled : Compiled α} {findings : List Finding}
    (found : findingsOf diagram compiled = .ok findings) :
    ∃ others, findings = invalidConnections diagram ++ sharedPorts diagram ++ others ∧
      ∀ finding ∈ others, IsOther finding := by
  obtain ⟨transfers, rfl, about⟩ := exists_reports_of_findingsOf found
  refine ⟨((reports diagram transfers compiled).drop 2).flatMap (·.2),
    (List.append_assoc _ _ _).symm, ?_⟩
  intro finding member
  obtain ⟨report, listed, inside⟩ := List.mem_flatMap.mp member
  have topic := about report (List.mem_of_mem_drop listed) finding inside
  have apart : report.1 ≠ .connection ∧ report.1 ≠ .sharing := by
    simp only [reports, List.drop_succ_cons, List.drop_zero, List.mem_cons, List.not_mem_nil,
      or_false] at listed
    rcases listed with rfl | rfl | rfl | rfl | rfl <;> simp
  exact isOther_of_topic (topic ▸ apart.1) (topic ▸ apart.2)

section FindingsOf

variable [Host] [Scalar α] {compiled : Compiled α} {findings : List Finding}
  (found : findingsOf diagram compiled = .ok findings)
include found

/-- The errors are the ports with several connections. -/
theorem errors_of_findingsOf :
    findings.filter (·.severity == .error) = sharedPorts diagram := by
  obtain ⟨others, rfl, other⟩ := exists_eq_of_findingsOf found
  have warnings : (invalidConnections diagram).filter (·.severity == .error) = [] := by
    rw [List.filter_eq_nil_iff]
    intro finding member
    obtain ⟨connection, -, isWarning⟩ := mem_invalidConnections.mp member
    rw [isWarning.severity]
    decide
  have errors : (sharedPorts diagram).filter (·.severity == .error) = sharedPorts diagram := by
    rw [List.filter_eq_self]
    intro finding member
    obtain ⟨_, -, _, -, _, -, rfl⟩ := mem_sharedPorts.mp member
    rfl
  have rest : others.filter (·.severity == .error) = [] := by
    rw [List.filter_eq_nil_iff]
    intro finding member
    rw [beq_iff_eq]
    exact (other finding member).1
  rw [List.filter_append, List.filter_append, warnings, errors, rest, List.nil_append,
    List.append_nil]

theorem error_iff_of_findingsOf {finding : Finding} :
    finding ∈ findings ∧ finding.severity = .error ↔
      ∃ block ∈ diagram.blocks, ∃ port, IsShared diagram block.id port finding := by
  rw [← mem_sharedPorts, ← errors_of_findingsOf found, List.mem_filter, beq_iff_eq]

/-- The warnings that concern connections are those of connections that compiling drops. -/
theorem warning_iff_of_findingsOf {finding : Finding} :
    finding ∈ findings ∧ finding.severity = .warning ∧ finding.connections ≠ [] ↔
      ∃ connection ∈ diagram.connections, IsWarning diagram connection finding := by
  obtain ⟨others, rfl, other⟩ := exists_eq_of_findingsOf found
  rw [← mem_invalidConnections]
  constructor
  · rintro ⟨member, isWarning, concerned⟩
    rcases List.mem_append.mp member with told | isOther
    · refine (List.mem_append.mp told).resolve_right fun isShared => ?_
      obtain ⟨_, -, _, -, _, -, rfl⟩ := mem_sharedPorts.mp isShared
      cases isWarning
    · exact absurd (other finding isOther).2 concerned
  · intro member
    obtain ⟨connection, -, isWarning⟩ := mem_invalidConnections.mp member
    refine ⟨List.mem_append_left _ (List.mem_append_left _ member), isWarning.severity, ?_⟩
    rw [isWarning.connections]
    exact List.cons_ne_nil _ _

theorem warned_iff_of_findingsOf {connection : Connection String}
    (member : connection ∈ diagram.connections) :
    (∃ finding ∈ findings, finding.severity = .warning ∧ connection ∈ finding.connections) ↔
      diagram.Drops connection := by
  rw [← exists_isWarning_iff]
  constructor
  · rintro ⟨finding, told, isWarning, concerned⟩
    obtain ⟨other, -, isWarning⟩ :=
      (warning_iff_of_findingsOf found).mp ⟨told, isWarning, List.ne_nil_of_mem concerned⟩
    rw [isWarning.connections, List.mem_singleton] at concerned
    exact ⟨finding, concerned ▸ isWarning⟩
  · rintro ⟨finding, isWarning⟩
    have told := (warning_iff_of_findingsOf found).mpr ⟨connection, member, isWarning⟩
    refine ⟨finding, told.1, told.2.1, ?_⟩
    rw [isWarning.connections]
    exact List.mem_singleton_self connection

end FindingsOf

/-! ## Validating to the end -/

/-- The denominator of a transfer function with poles. -/
def HasPoles (den : List Float) : Prop :=
  Polynomial.isZero den = false ∧ 2 ≤ (Polynomial.normalize den).length

/-- The poles that validating looks for are found: those of the continuous transfer functions, and
the roots of the denominators of the discrete ones. -/
structure FindsPoles [Host] (diagram : Diagram String) (constants : Constants) : Prop where
  continuous {block : Block String} {num den : List Float} : block ∈ diagram.blocks →
    block.kind = .tf →
    constants.resolveList (block.kind.parameter block.params "num") = .ok num →
    constants.resolveList (block.kind.parameter block.params "den") = .ok den → HasPoles den →
      ∃ poles, Host.poles (Polynomial.normalize num) (Polynomial.normalize den) = .ok poles
  discrete {block : Block String} {den : List Float} : block ∈ diagram.blocks →
    block.kind = .dtf →
    constants.resolveList (block.kind.parameter block.params "den") = .ok den → HasPoles den →
      ∃ roots, Host.roots (Polynomial.normalize den) = .ok roots

/-- Without transfer functions there are no poles to be found. -/
theorem findsPoles_of_noTransfer [Host]
    (noTransfer : ∀ block ∈ diagram.blocks, block.kind ≠ .tf ∧ block.kind ≠ .dtf)
    (constants : Constants) : FindsPoles diagram constants :=
  ⟨fun member isKind => absurd isKind (noTransfer _ member).1,
    fun member isKind => absurd isKind (noTransfer _ member).2⟩

section Poles

variable {kind : Kind} {check : Block String → Except Fault (List Finding)}

theorem exists_blocksOf_eq_ok_iff : (∃ findings, blocksOf diagram kind check = .ok findings) ↔
    ∀ block ∈ diagram.blocks, block.kind = kind → ∃ found, check block = .ok found := by
  refine exists_bind_pure_eq_ok_iff.trans ⟨?_, fun each => exists_mapM_eq_ok fun block member => ?_⟩
  · rintro ⟨results, computed⟩ block member isKind
    exact exists_eq_ok_of_mapM computed (List.mem_filter.mpr ⟨member, beq_iff_eq.mpr isKind⟩)
  · obtain ⟨member, isKind⟩ := List.mem_filter.mp member
    exact each block member (beq_iff_eq.mp isKind)

variable [Host] {constants : Constants} {block : Block String} {num den : List Float}

omit [Host] in
/-- What is looked for if a denominator has poles has to be found. -/
theorem exists_ite_poles_eq_ok_iff {β : Type} {found : Except Fault β} {report : β → List Finding}
    {degenerate : List Finding} :
    (∃ findings, (if Polynomial.isZero den then .ok degenerate
      else if (Polynomial.normalize den).length < 2 then .ok []
      else found >>= fun poles => .ok (report poles) : Except Fault _) = .ok findings) ↔
      (HasPoles den → ∃ poles, found = .ok poles) := by
  unfold HasPoles
  split
  · next zero => exact iff_of_true ⟨_, rfl⟩ fun poles => absurd zero (by simp [poles.1])
  · next nonzero =>
      split
      · next short => exact iff_of_true ⟨_, rfl⟩ fun poles => absurd poles.2 (by omega)
      · next long =>
          have hasPoles : Polynomial.isZero den = false ∧ 2 ≤ (Polynomial.normalize den).length :=
            ⟨by simpa using nonzero, by omega⟩
          exact exists_bind_pure_eq_ok_iff.trans (imp_iff_right hasPoles).symm

/-- A continuous transfer function is checked to the end if its poles are found. -/
theorem exists_transferFunction_eq_ok_iff
    (numResolves : constants.resolveList (block.kind.parameter block.params "num") = .ok num)
    (denResolves : constants.resolveList (block.kind.parameter block.params "den") = .ok den) :
    (∃ findings, transferFunction constants block = .ok findings) ↔ (HasPoles den →
      ∃ poles, Host.poles (Polynomial.normalize num) (Polynomial.normalize den) = .ok poles) := by
  unfold transferFunction
  rw [numResolves, denResolves]
  exact exists_ite_poles_eq_ok_iff

/-- A discrete transfer function is checked to the end if the roots of its denominator are found. -/
theorem exists_discreteTransferFunction_eq_ok_iff
    (denResolves : constants.resolveList (block.kind.parameter block.params "den") = .ok den) :
    (∃ findings, discreteTransferFunction constants block = .ok findings) ↔
      (HasPoles den → ∃ roots, Host.roots (Polynomial.normalize den) = .ok roots) := by
  unfold discreteTransferFunction
  rw [denResolves]
  exact exists_ite_poles_eq_ok_iff

/-- The coefficients of a transfer function resolve if its parameters do. -/
theorem coefficients_of_resolved [Scalar α] {dt : Setting α} {payload : Payload α}
    (resolves : Payload.resolved constants dt block = .ok payload)
    (isTransfer : block.kind = .tf ∨ block.kind = .dtf) :
    (∃ xs, constants.resolveList (block.kind.parameter block.params "num") = .ok xs) ∧
      ∃ xs, constants.resolveList (block.kind.parameter block.params "den") = .ok xs := by
  obtain ⟨after, completes⟩ := exists_completes_iff.mpr resolves
  -- Either kind starts with the numerator and goes on with the denominator.
  rcases isTransfer with isKind | isKind <;> rw [isKind] at completes ⊢ <;>
    obtain ⟨num, _, numResolves, completes⟩ := completes_bind.mp completes <;>
    obtain ⟨den, _, denResolves, -⟩ := completes_bind.mp completes <;>
    exact ⟨⟨num, (completes_liftExcept.mp numResolves).1⟩,
      ⟨den, (completes_liftExcept.mp denResolves).1⟩⟩

end Poles

section Validating

variable [Host] {compiled : Compiled Float} {findings : List Finding}
  {before after later : List Notice}
  (compiles : Completes (Compiled.ofDiagram diagram Compiled.standardDt Compiled.standardRuntime)
    before compiled after)
include compiles

/-- Where the poles are found, something is found about the whole diagram. -/
theorem exists_findingsOf_eq_ok_iff : (∃ findings, findingsOf diagram compiled = .ok findings) ↔
    FindsPoles diagram compiled.constants := by
  obtain ⟨constants, dt, runtime, payloads, resolved, rfl⟩ :=
    Compiled.completes_ofDiagram_iff.mp ⟨after, compiles⟩
  have coefficients {block : Block String} (member : block ∈ diagram.blocks)
      (isTransfer : block.kind = .tf ∨ block.kind = .dtf) :
      (∃ xs, constants.resolveList (block.kind.parameter block.params "num") = .ok xs) ∧
        ∃ xs, constants.resolveList (block.kind.parameter block.params "den") = .ok xs := by
    obtain ⟨handle, found⟩ := List.getElem?_of_mem member
    obtain ⟨payload, -, resolves⟩ := resolved.getElem?_payloads found
    exact coefficients_of_resolved resolves isTransfer
  have split : (∃ findings, findingsOf diagram
        (Compiled.assemble diagram constants dt runtime payloads) = .ok findings) ↔
      (∃ found, blocksOf diagram .tf (transferFunction constants) = .ok found) ∧
        ∃ found, blocksOf diagram .dtf (discreteTransferFunction constants) = .ok found := by
    refine exists_bind_eq_ok_iff.trans ?_
    rw [← exists_and_right]
    refine exists_congr fun found => and_congr_right fun _ => ?_
    exact exists_bind_pure_eq_ok_iff
  rw [split, exists_blocksOf_eq_ok_iff, exists_blocksOf_eq_ok_iff]
  constructor
  · rintro ⟨continuous, discrete⟩
    refine ⟨fun member isKind num den => ?_, fun member isKind den => ?_⟩
    · exact (exists_transferFunction_eq_ok_iff num den).mp (continuous _ member isKind)
    · exact (exists_discreteTransferFunction_eq_ok_iff den).mp (discrete _ member isKind)
  · rintro ⟨continuous, discrete⟩
    refine ⟨fun block member isKind => ?_, fun block member isKind => ?_⟩
    · obtain ⟨⟨num, numResolves⟩, den, denResolves⟩ := coefficients member (.inl isKind)
      exact (exists_transferFunction_eq_ok_iff numResolves denResolves).mpr
        (continuous member isKind numResolves denResolves)
    · obtain ⟨-, den, denResolves⟩ := coefficients member (.inr isKind)
      exact (exists_discreteTransferFunction_eq_ok_iff denResolves).mpr
        (discrete member isKind denResolves)

/-- Validating tells what is found about the compiled diagram. -/
theorem completes_findings_iff :
    Completes (Validation.findings diagram) before findings later ↔
      findingsOf diagram compiled = .ok findings ∧ later = after := by
  refine completes_bind.trans ⟨?_, ?_⟩
  · rintro ⟨other, between, otherCompiles, tells⟩
    obtain ⟨rfl, rfl⟩ := compiles.unique otherCompiles
    exact completes_liftExcept.mp tells
  · rintro ⟨found, rfl⟩
    exact ⟨compiled, _, compiles, completes_liftExcept.mpr ⟨found, rfl⟩⟩

/-- A diagram that compiles is validated to the end if its poles are found. -/
theorem exists_completes_findings_iff :
    (∃ findings, Completes (Validation.findings diagram) before findings after) ↔
      FindsPoles diagram compiled.constants := by
  rw [← exists_findingsOf_eq_ok_iff compiles]
  exact exists_congr fun findings =>
    (completes_findings_iff compiles).trans (and_iff_left rfl)

end Validating

end Validation

/-! ## Agreement -/

namespace Compiled

/-- What compiling makes of the connections of a diagram agrees with what is found about them. -/
structure ConnectionsAgree (diagram : Diagram String) (compiled : Compiled α)
    (findings : List Finding) : Prop where
  warning_iff {finding : Finding} :
    finding ∈ findings ∧ finding.severity = .warning ∧ finding.connections ≠ [] ↔
      ∃ connection ∈ diagram.connections, Validation.IsWarning diagram connection finding
  warned_iff {connection : Connection String} : connection ∈ diagram.connections →
    ((∃ finding ∈ findings, finding.severity = .warning ∧ connection ∈ finding.connections) ↔
      diagram.Drops connection)
  driver {handle : Nat} {block : Block String} : diagram.blocks[handle]? = some block →
    ¬ diagram.IsMatched block → ∃ node, compiled.nodes[handle]? = some node ∧
      node.id = block.id ∧ ∀ port,
        Option.Rel diagram.StartsAt (node.driver? port) (diagram.keptTo block.id port).getLast?
  error_iff {finding : Finding} : finding ∈ findings ∧ finding.severity = .error ↔
    ∃ block ∈ diagram.blocks, ∃ port, Validation.IsShared diagram block.id port finding
  errors_nodup : (findings.filter (·.severity == .error)).Nodup
  used {handle port : Nat} {block : Block String} {sharing : List (Connection String)}
    {source : String} : diagram.blocks[handle]? = some block →
      .sharedPort block.id port sharing source ∈ findings → ∃ driver,
        Wiring.driver? (Wiring.wires diagram.ids diagram.connections) handle port = some driver ∧
          diagram.ids[driver]? = some source ∧
            (¬ diagram.IsMatched block → ∃ node, compiled.nodes[handle]? = some node ∧
              node.driver? port = some driver)

section Agreement

variable [Host] [Scalar α] {diagram : Diagram String} {defaultDt defaultRuntime : Setting α}
  {before after : List Notice} {compiled : Compiled α}
  (compiles : Completes (ofDiagram diagram defaultDt defaultRuntime) before compiled after)
include compiles

/-- Without the connections that it drops a diagram compiles to the same. -/
theorem completes_ofDiagram_kept : ∃ otherAfter,
    Completes (ofDiagram { diagram with connections := diagram.kept } defaultDt defaultRuntime)
      before compiled otherAfter := by
  obtain ⟨constants, dt, runtime, payloads, resolved, rfl⟩ :=
    completes_ofDiagram_iff.mp ⟨after, compiles⟩
  have sameWires : Wiring.wires diagram.ids diagram.kept =
      Wiring.wires diagram.ids diagram.connections := wires_filter_isOk _ _
  refine completes_ofDiagram_iff.mpr ⟨constants, dt, runtime, payloads, ⟨resolved.constants_eq,
    resolved.dt_eq, resolved.runtime_eq, resolved.payloads_eq⟩, ?_⟩
  have sameNodes : wiredNodes diagram payloads =
      wiredNodes { diagram with connections := diagram.kept } payloads := by
    change wiredFrom _ 0 diagram.blocks payloads = wiredFrom _ 0 diagram.blocks payloads
    exact congrArg (wiredFrom · 0 diagram.blocks payloads) sameWires.symm
  rw [assemble, assemble, sameNodes]

/-- **Compiling and validating agree about connections**: of the connections that compiling drops,
and of no others, validating warns; the driver of a port is the last connection that is kept; and
where several are kept, validating reports an error and names the one that is used. Without the
dropped connections the diagram compiles to the same. Only poles that are not found keep validating
from telling so. -/
theorem connections_agree {validBefore validAfter : List Notice} {validated : Compiled Float}
    (validates : Completes (ofDiagram diagram standardDt standardRuntime) validBefore validated
      validAfter) (nodup : diagram.ids.Nodup) :
    ((∃ findings, Completes (Validation.findings diagram) validBefore findings validAfter) ↔
      Validation.FindsPoles diagram validated.constants) ∧
    (∀ findings later, Completes (Validation.findings diagram) validBefore findings later →
      ConnectionsAgree diagram compiled findings) ∧
    ∃ otherAfter, Completes (ofDiagram { diagram with connections := diagram.kept } defaultDt
      defaultRuntime) before compiled otherAfter := by
  refine ⟨Validation.exists_completes_findings_iff validates, fun findings later tells => ?_,
    completes_ofDiagram_kept compiles⟩
  have found := ((Validation.completes_findings_iff validates).mp tells).1
  obtain ⟨constants, dt, runtime, payloads, resolved, rfl⟩ :=
    completes_ofDiagram_iff.mp ⟨after, compiles⟩
  have length_eq := resolved.payloads_eq.length_eq.symm
  refine ⟨Validation.warning_iff_of_findingsOf found, Validation.warned_iff_of_findingsOf found, ?_,
    Validation.error_iff_of_findingsOf found, ?_, ?_⟩
  · intro handle block isBlock unmatched
    obtain ⟨node, nodeFound, id_eq, drivers⟩ := driver?_assemble length_eq isBlock unmatched
    refine ⟨node, nodeFound, id_eq, fun port => ?_⟩
    rw [drivers]
    exact rel_driver?_keptTo nodup isBlock port
  · rw [Validation.errors_of_findingsOf found]
    exact Validation.nodup_sharedPorts diagram
  · intro handle port block sharing source isBlock told
    obtain ⟨_, -, _, -, last, isLast, same⟩ :=
      (Validation.error_iff_of_findingsOf found).mp ⟨told, rfl⟩
    obtain ⟨id_eq, rfl, rfl, rfl⟩ := Finding.sharedPort.inj same
    rw [← id_eq] at isLast
    have related := rel_driver?_keptTo nodup isBlock port
    rw [isLast] at related
    generalize driven : Wiring.driver? _ handle port = driver? at related ⊢
    cases related with
    | some starts =>
        refine ⟨_, rfl, starts, fun unmatched => ?_⟩
        obtain ⟨node, nodeFound, -, drivers⟩ := driver?_assemble length_eq isBlock unmatched
        exact ⟨node, nodeFound, (drivers port).trans driven⟩

end Agreement

/-- A diagram with connections to the gain `g` from `a` and `b`, and others that are dropped among
them; two connections end at the label source `m`, which reads what drives the label sink `y`. -/
def crowdedDiagram : Diagram String where
  blocks := [⟨"a", "constant", []⟩, ⟨"b", "constant", []⟩, ⟨"g", "gain", []⟩,
    ⟨"y", "labelSink", []⟩, ⟨"m", "labelSource", [("name", .text "y")]⟩]
  connections := [⟨"a", "g", 0, 0⟩, ⟨"nobody", "g", 0, 0⟩, ⟨"b", "g", 0, 0⟩, ⟨"a", "g", 0, -1⟩,
    ⟨"nobody", "nowhere", 0, -2⟩, ⟨"g", "y", 0, 0⟩, ⟨"a", "m", 0, 0⟩, ⟨"b", "m", 0, 0⟩]
  vars := []
  runtime := .null
  dt := .null
  nextId := 1

open Host.Usual

theorem connections_agree_crowdedDiagram :
    ∃ (compiled : Compiled Rat) (after : List Notice) (validated : Compiled Float)
      (validAfter : List Notice) (findings : List Finding),
      Completes (ofDiagram crowdedDiagram standardDt standardRuntime) [] compiled after ∧
      Completes (ofDiagram crowdedDiagram standardDt standardRuntime) [] validated validAfter ∧
      crowdedDiagram.ids.Nodup ∧
      compiled.nodes.toList.map (·.drivers) = [[], [], [(0, 1)], [(0, 2)], [(0, 2)]] ∧
      Completes (Validation.findings crowdedDiagram) [] findings validAfter ∧
      ConnectionsAgree crowdedDiagram compiled findings := by
  have runs : (outcome (ofDiagram crowdedDiagram (standardDt : Setting Rat) standardRuntime)
      []).1.toOption.any (fun compiled =>
        compiled.nodes.toList.map (·.drivers) == [[], [], [(0, 1)], [(0, 2)], [(0, 2)]]) = true := by
    decide +kernel
  have validRuns : (outcome (ofDiagram crowdedDiagram (standardDt : Setting Float) standardRuntime)
      []).1.toOption.any (fun _ => true) = true := by
    decide +kernel
  obtain ⟨compiled, after, compiles, runs⟩ := exists_completes_of_any runs
  obtain ⟨validated, validAfter, validates, -⟩ := exists_completes_of_any validRuns
  have nodup : crowdedDiagram.ids.Nodup := by decide
  obtain ⟨complete, agree, -⟩ := connections_agree compiles validates nodup
  obtain ⟨findings, tells⟩ := complete.mpr (Validation.findsPoles_of_noTransfer (by decide) _)
  exact ⟨compiled, after, validated, validAfter, findings, compiles, validates, nodup,
    beq_iff_eq.mp runs, tells, agree findings validAfter tells⟩

end Compiled

end SignalFlow
