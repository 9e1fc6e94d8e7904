import SignalFlow.Proofs.Completion
import SignalFlow.Validation.Check

/-! # What findings are about

Each check of the validation reports findings about a topic of its own (`Finding.topic`), and the
findings of a diagram are those of one check after the other
(`Validation.exists_reports_of_findingsOf`). So what is found about a topic is what its check
reports (`Validation.filter_loop_of_findingsOf`, `Validation.filter_input_of_findingsOf`).
-/

namespace SignalFlow

/-- What a finding is about. -/
inductive Topic where
  | connection | sharing | support | input | transfer | loop | external
deriving DecidableEq

/-- The topic of a finding. -/
def Finding.topic : Finding → Topic
  | .unknownBlock .. | .negativePort _ => .connection
  | .sharedPort .. => .sharing
  | .unsupported .. => .support
  | .unconnected .. => .input
  | .zeroDenominator _ | .unstablePoles .. | .unstableDiscretePoles .. => .transfer
  | .algebraicLoop _ => .loop
  | .externalInput .. => .external

namespace Validation

variable {α : Type} {diagram : Diagram String} {findings : List Finding}

/-- All of some findings are about a topic. -/
def AreAbout (topic : Topic) (findings : List Finding) : Prop :=
  ∀ finding ∈ findings, finding.topic = topic

/-- Of lists that are each about a topic, those about one topic are left. -/
theorem filter_topic_flatMap {reports : List (Topic × List Finding)}
    (about : ∀ report ∈ reports, AreAbout report.1 report.2) (topic : Topic) :
    (reports.flatMap (·.2)).filter (·.topic == topic) =
      (reports.filter (·.1 == topic)).flatMap (·.2) := by
  induction reports with
  | nil => rfl
  | cons report rest ih =>
      obtain ⟨first, others⟩ := List.forall_mem_cons.mp about
      rw [List.flatMap_cons, List.filter_append, ih others]
      by_cases own : report.1 = topic
      · have all : report.2.filter (·.topic == topic) = report.2 :=
          List.filter_eq_self.mpr fun finding member => by simp [first finding member, own]
        rw [all, List.filter_cons_of_pos (by simp [own]), List.flatMap_cons]
      · have none : report.2.filter (·.topic == topic) = [] :=
          List.filter_eq_nil_iff.mpr fun finding member => by simp [first finding member, own]
        rw [none, List.filter_cons_of_neg (by simp [own]), List.nil_append]

/-! ## The checks -/

theorem areAbout_invalidConnections (diagram : Diagram String) :
    AreAbout .connection (invalidConnections diagram) := by
  intro finding member
  obtain ⟨connection, -, told⟩ := List.mem_flatMap.mp member
  simp only [List.mem_append, List.mem_ite_nil_left, List.mem_ite_nil_right,
    List.mem_singleton] at told
  rcases told with (⟨-, rfl⟩ | ⟨-, rfl⟩) | ⟨-, rfl⟩ <;> rfl

theorem areAbout_sharedPorts (diagram : Diagram String) :
    AreAbout .sharing (sharedPorts diagram) := by
  intro finding member
  obtain ⟨⟨target, port⟩, -, told⟩ := List.mem_filterMap.mp member
  dsimp only at told
  split at told
  · obtain ⟨last, -, rfl⟩ := Option.map_eq_some_iff.mp told
    rfl
  · cases told

theorem areAbout_unsupportedBlocks (diagram : Diagram String) :
    AreAbout .support (unsupportedBlocks diagram) := by
  intro finding member
  obtain ⟨block, -, rfl⟩ := List.mem_map.mp member
  rfl

theorem areAbout_unconnectedPorts (diagram : Diagram String) :
    AreAbout .input (unconnectedPorts diagram) := by
  intro finding member
  obtain ⟨block, -, told⟩ := List.mem_flatMap.mp member
  split at told
  · obtain ⟨port, -, rfl⟩ := List.mem_map.mp told
    rfl
  · cases told

theorem areAbout_algebraicLoops (compiled : Compiled α) :
    AreAbout .loop (algebraicLoops compiled) := by
  intro finding member
  obtain ⟨members, -, rfl⟩ := List.mem_map.mp member
  rfl

theorem areAbout_externalInputs (compiled : Compiled α) :
    AreAbout .external (externalInputs compiled) := by
  intro finding member
  obtain ⟨node, -, rfl⟩ := List.mem_map.mp member
  rfl

section TransferFunctions

variable {constants : Constants} {block : Block String} {kind : Kind}
  {check : Block String → Except Fault (List Finding)}

theorem areAbout_ite_nil {topic : Topic} {finding : Finding} (about : finding.topic = topic)
    (isStable : Bool) : AreAbout topic (if isStable then [] else [finding]) := by
  intro found member
  obtain ⟨-, told⟩ := List.mem_ite_nil_left.mp member
  rw [List.mem_singleton.mp told, about]

theorem areAbout_transferFunction [Host]
    (checked : transferFunction constants block = .ok findings) : AreAbout .transfer findings := by
  obtain ⟨num, -, checked⟩ := bind_eq_ok_iff.mp checked
  obtain ⟨den, -, checked⟩ := bind_eq_ok_iff.mp checked
  split at checked
  · cases checked
    intro finding member
    rw [List.mem_singleton.mp member]
    rfl
  · dsimp only at checked
    split at checked
    · cases checked
      exact nofun
    · obtain ⟨poles, -, checked⟩ := bind_eq_ok_iff.mp checked
      cases checked
      exact areAbout_ite_nil rfl _

theorem areAbout_discreteTransferFunction [Host]
    (checked : discreteTransferFunction constants block = .ok findings) :
    AreAbout .transfer findings := by
  obtain ⟨den, -, checked⟩ := bind_eq_ok_iff.mp checked
  split at checked
  · cases checked
    exact nofun
  · dsimp only at checked
    split at checked
    · cases checked
      exact nofun
    · obtain ⟨roots, -, checked⟩ := bind_eq_ok_iff.mp checked
      cases checked
      exact areAbout_ite_nil rfl _

theorem areAbout_blocksOf {topic : Topic}
    (each : ∀ {block found}, check block = .ok found → AreAbout topic found)
    (checked : blocksOf diagram kind check = .ok findings) : AreAbout topic findings := by
  obtain ⟨results, computed, same⟩ := bind_eq_ok_iff.mp checked
  cases same
  intro finding member
  obtain ⟨found, listed, inside⟩ := List.mem_flatten.mp member
  obtain ⟨block, -, isFound⟩ := exists_of_mapM_eq_ok computed listed
  exact each isFound finding inside

end TransferFunctions

/-! ## All checks -/

/-- What the checks report, by topic; what is found about transfer functions is given. -/
def reports (diagram : Diagram String) (transfers : List Finding) (compiled : Compiled α) :
    List (Topic × List Finding) :=
  [(.connection, invalidConnections diagram), (.sharing, sharedPorts diagram),
    (.support, unsupportedBlocks diagram), (.input, unconnectedPorts diagram),
    (.transfer, transfers), (.loop, algebraicLoops compiled),
    (.external, externalInputs compiled)]

/-- The findings are what the checks report, one check after the other. -/
theorem exists_reports_of_findingsOf [Host] {compiled : Compiled α}
    (found : findingsOf diagram compiled = .ok findings) :
    ∃ transfers, findings = (reports diagram transfers compiled).flatMap (·.2) ∧
      ∀ report ∈ reports diagram transfers compiled, AreAbout report.1 report.2 := by
  obtain ⟨continuous, continuousChecked, found⟩ := bind_eq_ok_iff.mp found
  obtain ⟨discrete, discreteChecked, found⟩ := bind_eq_ok_iff.mp found
  cases found
  have about : AreAbout .transfer (continuous ++ discrete) := by
    intro finding member
    rcases List.mem_append.mp member with isContinuous | isDiscrete
    · exact areAbout_blocksOf areAbout_transferFunction continuousChecked finding isContinuous
    · exact areAbout_blocksOf areAbout_discreteTransferFunction discreteChecked finding isDiscrete
  refine ⟨continuous ++ discrete, by simp [reports], ?_⟩
  simp only [reports, List.forall_mem_cons]
  exact ⟨areAbout_invalidConnections diagram, areAbout_sharedPorts diagram,
    areAbout_unsupportedBlocks diagram, areAbout_unconnectedPorts diagram, about,
    areAbout_algebraicLoops compiled, areAbout_externalInputs compiled, nofun⟩

section FindingsOf

variable [Host] {compiled : Compiled α} (found : findingsOf diagram compiled = .ok findings)
include found

/-- What is found about loops is what the check for loops reports. -/
theorem filter_loop_of_findingsOf :
    findings.filter (·.topic == .loop) = algebraicLoops compiled := by
  obtain ⟨transfers, rfl, about⟩ := exists_reports_of_findingsOf found
  rw [filter_topic_flatMap about]
  exact List.append_nil _

/-- What is found about input ports is what the check of the input ports reports. -/
theorem filter_input_of_findingsOf :
    findings.filter (·.topic == .input) = unconnectedPorts diagram := by
  obtain ⟨transfers, rfl, about⟩ := exists_reports_of_findingsOf found
  rw [filter_topic_flatMap about]
  exact List.append_nil _

end FindingsOf

end Validation

end SignalFlow
