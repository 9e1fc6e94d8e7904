import SignalFlow.Host.Usual
import SignalFlow.Proofs.LabelBus

/-! # How labels are resolved

Every label block of a diagram carries a signal of a name. Compiling turns the names into inputs and
outputs of the whole diagram (`Compiled.ResolvesLabels`): those of the label sinks are published,
each by the last label sink of that name, and those of the label sources without a label sink are
read from outside. A label source with a label sink is wired like the last one, whatever is connected
to the label source itself.
-/

namespace SignalFlow

/-! ## Names in order of first appearance -/

/-- Names are those of a list, each once, in order of first appearance. -/
structure AppearInOrder (names all : List String) : Prop where
  nodup : names.Nodup
  mem_iff (name : String) : name ∈ names ↔ name ∈ all
  ordered : names.Pairwise fun first later => all.idxOf first < all.idxOf later

/-- Names that are collected from a list, each unless it is there already, are in order. -/
theorem appearInOrder_eraseDups (all : List String) : AppearInOrder all.eraseDups all := by
  refine ⟨nodup_eraseDups all, fun name => List.mem_eraseDups, ?_⟩
  induction all using List.reverseRecOn with
  | nil => exact List.Pairwise.nil
  | append_singleton before last ih =>
      have kept : before.eraseDups.Pairwise fun first later =>
          (before ++ [last]).idxOf first < (before ++ [last]).idxOf later := by
        refine ih.imp_of_mem fun first later earlier => ?_
        rw [List.idxOf_append_of_mem (List.mem_eraseDups.mp first),
          List.idxOf_append_of_mem (List.mem_eraseDups.mp later)]
        exact earlier
      rw [List.eraseDups_append]
      by_cases known : last ∈ before
      · simpa [List.removeAll, known] using kept
      · have fresh : ([last].removeAll before).eraseDups = [last] := by
          simp [List.removeAll, known, List.eraseDups_cons]
        rw [fresh, List.pairwise_append]
        refine ⟨kept, List.pairwise_singleton _ _, fun first member later isLast => ?_⟩
        obtain rfl := List.mem_singleton.mp isLast
        have inside := List.mem_eraseDups.mp member
        rw [List.idxOf_append_of_mem inside, List.idxOf_append_of_notMem known]
        exact Nat.lt_add_right _ (List.idxOf_lt_length_iff.mpr inside)

/-! ## Labels of a diagram -/

namespace Diagram

/-- The labels of the label sinks, one after the other. -/
def sinkLabels (diagram : Diagram String) : List String :=
  diagram.blocks.filterMap fun block =>
    if block.kind == .labelSink then some (Compiled.labelName block) else none

/-- The labels of the label sources without a label sink, one after the other. -/
def openLabels (diagram : Diagram String) : List String :=
  diagram.blocks.filterMap fun block =>
    if block.kind == .labelSource && !diagram.sinkLabels.contains (Compiled.labelName block) then
      some (Compiled.labelName block)
    else none

/-- The last label sink of a label stands at a place. -/
structure IsLastSink (diagram : Diagram String) (label : String) (place : Nat) : Prop where
  isSink : ∃ block, diagram.blocks[place]? = some block ∧ block.kind = .labelSink ∧
    Compiled.labelName block = label
  isLast {later : Nat} {block : Block String} : place < later →
    diagram.blocks[later]? = some block → block.kind = .labelSink →
      Compiled.labelName block ≠ label

variable {diagram : Diagram String} {label : String}

theorem mem_sinkLabels : label ∈ diagram.sinkLabels ↔
    ∃ block ∈ diagram.blocks, block.kind = .labelSink ∧ Compiled.labelName block = label := by
  simp [sinkLabels]

theorem mem_openLabels : label ∈ diagram.openLabels ↔
    label ∉ diagram.sinkLabels ∧
      ∃ block ∈ diagram.blocks, block.kind = .labelSource ∧ Compiled.labelName block = label := by
  simp only [openLabels, List.mem_filterMap, Option.ite_none_right_eq_some, Bool.and_eq_true,
    beq_iff_eq, Bool.not_eq_true', List.contains_eq_mem, decide_eq_false_iff_not, Option.some.injEq]
  constructor
  · rintro ⟨block, member, ⟨isSource, unbound⟩, rfl⟩
    exact ⟨unbound, block, member, isSource, rfl⟩
  · rintro ⟨unbound, block, member, isSource, rfl⟩
    exact ⟨block, member, ⟨isSource, unbound⟩, rfl⟩

end Diagram

namespace Compiled

variable {α : Type}

/-! ## Labels of compiled blocks -/

/-- Behind the label sink that counts for a name stands no other one. -/
theorem exists_split_of_sink? {nodes : List (Node α)} {label : Option String} {sink : Node α}
    (found : sink? nodes label = some sink) :
    ∃ before after, nodes = before ++ sink :: after ∧
      ∀ node ∈ after, node.kind = .labelSink → node.label ≠ label := by
  rw [sink?, List.getLast?_filter, List.find?_eq_some_iff_append] at found
  obtain ⟨-, after, before, split, others⟩ := found
  refine ⟨before.reverse, after.reverse, ?_, fun node member isSink labelled => ?_⟩
  · have reversed := congrArg List.reverse split
    simpa using reversed
  · have other := others node (List.mem_reverse.mp member)
    simp [isSink, labelled] at other

variable [Scalar α] {diagram : Diagram String} {constants : Constants} {dt runtime : Setting α}
  {payloads : List (Payload α)}

/-- What is read off the blocks of a wired diagram can be read off the blocks of the diagram. -/
theorem filterMap_wiredFrom {β : Type} {ofNode : Node α → Option β}
    {ofBlock : Block String → Option β} {wires : List Wire}
    (same : ∀ handle block payload, ofNode (wired wires handle block payload) = ofBlock block)
    {blocks : List (Block String)} {payloads : List (Payload α)}
    (length_eq : payloads.length = blocks.length) (start : Nat) :
    (wiredFrom wires start blocks payloads).filterMap ofNode = blocks.filterMap ofBlock := by
  induction blocks generalizing payloads start with
  | nil => rfl
  | cons block rest ih =>
      obtain ⟨payload, payloads, rfl⟩ := List.exists_cons_of_length_eq_add_one length_eq
      rw [wiredFrom_cons, List.filterMap_cons, List.filterMap_cons, same,
        ih (Nat.succ.inj length_eq)]

/-- A label block of a compiled diagram carries the name of the block. -/
theorem label_assemble {handle : Nat} {block : Block String} {node : Node α}
    (blockFound : diagram.blocks[handle]? = some block)
    (found : (assemble diagram constants dt runtime payloads).nodes[handle]? = some node)
    (isLabel : block.kind = .labelSource ∨ block.kind = .labelSink) :
    node.label = some (labelName block) := by
  obtain ⟨other, payload, otherFound, -, rfl⟩ := exists_of_getElem?_assemble found
  obtain rfl : block = other := Option.some.inj (blockFound.symm.trans otherFound)
  rw [bind_label]
  rcases isLabel with isSource | isSink
  · exact label_wired isSource
  · simp [wired, isSink]

section Resolved

variable [Host] {defaultDt defaultRuntime : Setting α}
  (resolved : IsResolved diagram defaultDt defaultRuntime constants dt runtime payloads)
include resolved

/-- Each block of a diagram has its place in the assembled diagram. -/
theorem exists_isNodeOf_assemble {handle : Nat} {block : Block String}
    (blockFound : diagram.blocks[handle]? = some block) :
    ∃ node, (assemble diagram constants dt runtime payloads).nodes[handle]? = some node ∧
      IsNodeOf (assemble diagram constants dt runtime payloads) diagram handle block node := by
  have inside : handle < (assemble diagram constants dt runtime payloads).nodes.size := by
    rw [size_assemble constants dt runtime resolved.payloads_eq.length_eq.symm, Diagram.ids,
      List.length_map]
    exact (List.getElem?_eq_some_iff.mp blockFound).1
  have found := Array.getElem?_eq_getElem inside
  exact ⟨_, found, isNodeOf_assemble resolved blockFound found⟩

/-- A label that a label sink carries has one that counts for it. -/
theorem exists_sink?_assemble {label : String} (listed : label ∈ diagram.sinkLabels) :
    ∃ sink, sink? (assemble diagram constants dt runtime payloads).nodes.toList (some label) =
      some sink := by
  obtain ⟨block, member, isSink, rfl⟩ := Diagram.mem_sinkLabels.mp listed
  obtain ⟨handle, blockFound⟩ := List.getElem?_of_mem member
  obtain ⟨node, found, isNode⟩ := exists_isNodeOf_assemble resolved blockFound
  rw [← Option.ne_none_iff_exists', Ne, sink?_eq_none_iff]
  intro absent
  refine absent node (Array.mem_toList_iff.mpr (Array.mem_of_getElem? found))
    (isNode.kind_eq.trans isSink) ?_
  exact label_assemble blockFound found (.inr isSink)

/-- The label sink that counts for a name is the last one of the diagram. -/
theorem isLastSink_of_sink? {label : String} {sink : Node α}
    (found : sink? (assemble diagram constants dt runtime payloads).nodes.toList (some label) =
      some sink) :
    (assemble diagram constants dt runtime payloads).nodes[sink.handle]? = some sink ∧
      diagram.IsLastSink label sink.handle := by
  obtain ⟨-, kind, labelled⟩ := of_sink?_eq_some found
  have publisher := isPublisher_assemble resolved found
  refine ⟨publisher.found, ?_, ?_⟩
  · obtain ⟨block, payload, blockFound, -, -⟩ := exists_of_getElem?_assemble publisher.found
    have isNode := isNodeOf_assemble resolved blockFound publisher.found
    have isSink := isNode.kind_eq.symm.trans kind
    refine ⟨block, blockFound, isSink, Option.some.inj ?_⟩
    rw [← labelled, label_assemble blockFound publisher.found (.inr isSink)]
  · intro later block behind blockFound isSink named
    obtain ⟨before, after, split, others⟩ := exists_split_of_sink? found
    have length_eq := resolved.payloads_eq.length_eq.symm
    have wellFormed := wellFormed_assemble constants dt runtime length_eq
    have place : sink.handle = before.length := by
      refine wellFormed.handle_eq_of_toList ?_
      rw [split]
      simp
    obtain ⟨node, nodeFound, isNode⟩ := exists_isNodeOf_assemble resolved blockFound
    have member : node ∈ after := by
      have listed := nodeFound
      rw [← Array.getElem?_toList, split, List.getElem?_append_right (by omega),
        List.getElem?_cons, if_neg (by omega)] at listed
      exact List.mem_of_getElem? listed
    refine others node member (isNode.kind_eq.trans isSink) ?_
    rw [label_assemble blockFound nodeFound (.inr isSink), named]

end Resolved

/-! ## Inputs and outputs of the whole diagram -/

omit [Scalar α] in
/-- Each label of a label sink is published. -/
theorem outputNames_ofNodes (nodes : List (Node α)) (dt runtime : Setting α)
    (constants : Constants) : (ofNodes nodes dt runtime constants).outputNames =
      labels (nodes.filter (·.kind == .labelSink)) := by
  simp only [outputNames, ofNodes, List.map_filterMap, Option.map_map]
  conv_rhs => rw [← List.map_id (labels _)]
  rw [List.filterMap_eq_map_iff_forall_eq_some]
  intro name listed
  rw [labels, List.mem_eraseDups, List.mem_filterMap] at listed
  obtain ⟨node, member, labelled⟩ := listed
  rw [List.mem_filter, beq_iff_eq] at member
  obtain ⟨sink, found⟩ : ∃ sink, sink? nodes (some name) = some sink := by
    rw [← Option.ne_none_iff_exists', Ne, sink?_eq_none_iff]
    exact fun absent => absent node member.1 member.2 labelled
  rw [found]
  rfl

theorem outputNames_assemble (length_eq : payloads.length = diagram.blocks.length) :
    (assemble diagram constants dt runtime payloads).outputNames =
      diagram.sinkLabels.eraseDups := by
  rw [assemble, outputNames_ofNodes, labels, List.filterMap_filter, List.filterMap_map]
  congr 1
  refine filterMap_wiredFrom (fun handle block payload => ?_) length_eq 0
  rw [Function.comp_apply, bind_kind, bind_label]
  by_cases isSink : block.kind = .labelSink <;> simp [wired, isSink]

/-- A wired label source is bound to an input of the diagram if no label sink has its label. -/
theorem external_bind_iff (length_eq : payloads.length = diagram.blocks.length) (handle : Nat)
    (block : Block String) (payload : Payload α) :
    (bind (wiredNodes diagram payloads) (wired (Wiring.wires diagram.ids diagram.connections) handle
      block payload)).external = true ↔
        block.kind = .labelSource ∧ labelName block ∉ diagram.sinkLabels := by
  have unbound : (wired (Wiring.wires diagram.ids diagram.connections) handle block
    payload).external = false := rfl
  rw [(bind_external (wiredNodes diagram payloads) unbound).1]
  refine and_congr_right fun isSource => ?_
  rw [label_wired isSource, sink?_wiredNodes_eq_none_iff length_eq, Diagram.mem_sinkLabels]
  simp only [not_exists, not_and, ne_eq]

theorem inputNames_assemble (length_eq : payloads.length = diagram.blocks.length) :
    (assemble diagram constants dt runtime payloads).inputNames =
      diagram.openLabels.eraseDups := by
  change labels (((wiredNodes diagram payloads).map (bind (wiredNodes diagram payloads))).filter
    (·.external)) = _
  rw [labels, List.filterMap_filter, List.filterMap_map]
  congr 1
  refine filterMap_wiredFrom (fun handle block payload => ?_) length_eq 0
  have isOpen := external_bind_iff length_eq handle block payload
  rw [Function.comp_apply, bind_label, if_congr isOpen rfl rfl]
  by_cases isSource : block.kind = .labelSource
  · simp [isSource, label_wired isSource]
  · simp [isSource]

/-! ## Resolution -/

/-- The labels of a diagram are resolved in a compiled diagram: a label source is a mirror of the last
label sink of its label, which has no driver but that of port 0 of the label sink, or an input. -/
structure ResolvesLabels (compiled : Compiled α) (diagram : Diagram String) : Prop where
  inputs : AppearInOrder compiled.inputNames diagram.openLabels
  outputs : AppearInOrder compiled.outputNames diagram.sinkLabels
  disjoint : compiled.inputNames.Disjoint compiled.outputNames
  publisher {label : String} : label ∈ compiled.outputNames →
    ∃ place, Entries.get? compiled.outputHandles label = some place ∧
      diagram.IsLastSink label place
  source {handle : Nat} {block : Block String} : diagram.blocks[handle]? = some block →
    block.kind = .labelSource → ∃ node, compiled.nodes[handle]? = some node ∧
      ((∃ place sink, diagram.IsLastSink (labelName block) place ∧
          compiled.nodes[place]? = some sink ∧ compiled.IsMirrorOf handle node sink ∧
            node.phase = .algebraic ∧ node.external = false) ∨
        (labelName block ∉ diagram.sinkLabels ∧ node.external = true ∧ node.phase = .source ∧
          labelName block ∈ compiled.inputNames))

/-- A label source is wired like the last label sink of its label, or else is an input. -/
theorem source_assemble [Host] {defaultDt defaultRuntime : Setting α}
    (resolved : IsResolved diagram defaultDt defaultRuntime constants dt runtime payloads)
    {handle : Nat} {block : Block String}
    (blockFound : diagram.blocks[handle]? = some block) (isSource : block.kind = .labelSource) :
    ∃ node, (assemble diagram constants dt runtime payloads).nodes[handle]? = some node ∧
      ((∃ place sink, diagram.IsLastSink (labelName block) place ∧
          (assemble diagram constants dt runtime payloads).nodes[place]? = some sink ∧
            (assemble diagram constants dt runtime payloads).IsMirrorOf handle node sink ∧
              node.phase = .algebraic ∧ node.external = false) ∨
        (labelName block ∉ diagram.sinkLabels ∧ node.external = true ∧ node.phase = .source ∧
          labelName block ∈ (assemble diagram constants dt runtime payloads).inputNames)) := by
  have length_eq := resolved.payloads_eq.length_eq.symm
  obtain ⟨node, nodeFound, isNode⟩ := exists_isNodeOf_assemble resolved blockFound
  have nodeIsSource := isNode.kind_eq.trans isSource
  have named := label_assemble blockFound nodeFound (.inl isSource)
  have isOpen_iff : node.external = true ↔ labelName block ∉ diagram.sinkLabels := by
    rw [isNode.external_iff, and_iff_right isSource, Diagram.mem_sinkLabels]
    simp only [not_exists, not_and, ne_eq]
  refine ⟨node, nodeFound, ?_⟩
  by_cases listed : labelName block ∈ diagram.sinkLabels
  · obtain ⟨sink, found⟩ := exists_sink?_assemble resolved listed
    obtain ⟨sinkFound, isLast⟩ := isLastSink_of_sink? resolved found
    have mirrors := isMirrorOf_assemble resolved nodeFound nodeIsSource (named ▸ found)
    have inner := Bool.eq_false_iff.mpr fun isOpen => isOpen_iff.mp isOpen listed
    refine .inl ⟨sink.handle, sink, isLast, sinkFound, mirrors, ?_, inner⟩
    have seeds := mirrors.seeds
    rw [Node.seedsLoop, Bool.and_eq_true, beq_iff_eq] at seeds
    exact seeds.1
  · have isOpen := isOpen_iff.mpr listed
    refine .inr ⟨listed, isOpen, ?_, ?_⟩
    · rw [isNode.phase_eq, isOpen, if_pos rfl]
    · rw [inputNames_assemble length_eq, List.mem_eraseDups, Diagram.mem_openLabels]
      exact ⟨listed, block, List.mem_of_getElem? blockFound, isSource, rfl⟩

/-- **The labels of every diagram that compiles are resolved.** -/
theorem resolvesLabels_of_completes [Host] {defaultDt defaultRuntime : Setting α}
    {before after : List Notice} {compiled : Compiled α}
    (compiles : Completes (ofDiagram diagram defaultDt defaultRuntime) before compiled after) :
    compiled.ResolvesLabels diagram := by
  obtain ⟨constants, dt, runtime, payloads, resolved, rfl⟩ :=
    completes_ofDiagram_iff.mp ⟨after, compiles⟩
  have length_eq := resolved.payloads_eq.length_eq.symm
  have inputs : (assemble diagram constants dt runtime payloads).inputNames =
    diagram.openLabels.eraseDups := inputNames_assemble length_eq
  have outputs : (assemble diagram constants dt runtime payloads).outputNames =
    diagram.sinkLabels.eraseDups := outputNames_assemble length_eq
  refine ⟨?_, ?_, ?_, ?_, source_assemble resolved⟩
  · rw [inputs]
    exact appearInOrder_eraseDups _
  · rw [outputs]
    exact appearInOrder_eraseDups _
  · rw [inputs, outputs]
    intro label isInput isOutput
    rw [List.mem_eraseDups] at isInput isOutput
    exact (Diagram.mem_openLabels.mp isInput).1 isOutput
  · intro label isOutput
    rw [outputs, List.mem_eraseDups] at isOutput
    obtain ⟨sink, found⟩ := exists_sink?_assemble resolved isOutput
    exact ⟨sink.handle, (isPublisher_assemble resolved found).handle_eq,
      (isLastSink_of_sink? resolved found).2⟩

/-- The label source `m` stands before the two label sinks of its label, whose names differ in a
character that labels do not have, and has a connection of its own; `x` and `again` read the same
input of the diagram, and `y` is published under its id. -/
def labelledDiagram : Diagram String where
  blocks := [⟨"m", "labelSource", [("name", .text "a b")]⟩, ⟨"x", "labelSource", []⟩,
    ⟨"c", "constant", []⟩, ⟨"first", "labelSink", [("name", .text "a-b")]⟩, ⟨"g", "gain", []⟩,
    ⟨"last", "labelSink", [("name", .text " a b ")]⟩, ⟨"y", "labelSink", [("name", .null)]⟩,
    ⟨"again", "labelSource", [("name", .text "x")]⟩]
  connections := [⟨"c", "m", 0, 0⟩, ⟨"x", "first", 0, 0⟩, ⟨"c", "g", 0, 0⟩, ⟨"g", "last", 0, 0⟩,
    ⟨"x", "y", 0, 0⟩]
  vars := []
  runtime := .null
  dt := .null
  nextId := 1

open Host.Usual

theorem resolvesLabels_labelledDiagram :
    ∃ (compiled : Compiled Rat) (after : List Notice),
      Completes (ofDiagram labelledDiagram standardDt standardRuntime) [] compiled after ∧
      compiled.inputNames = ["x"] ∧ compiled.outputHandles = [("a_b", 5), ("y", 6)] ∧
      compiled.nodes[0]?.map (·.drivers) = some [(0, 4)] ∧
      compiled.ResolvesLabels labelledDiagram := by
  have runs : (outcome (ofDiagram labelledDiagram (standardDt : Setting Rat) standardRuntime)
      []).1.toOption.any (fun compiled =>
        compiled.inputNames == ["x"] && (compiled.outputHandles == [("a_b", 5), ("y", 6)] &&
          compiled.nodes[0]?.map (·.drivers) == some [(0, 4)])) = true := by
    decide +kernel
  obtain ⟨compiled, after, compiles, runs⟩ := exists_completes_of_any runs
  rw [Bool.and_eq_true, Bool.and_eq_true, beq_iff_eq, beq_iff_eq, beq_iff_eq] at runs
  obtain ⟨inputs, outputs, drivers⟩ := runs
  exact ⟨compiled, after, compiles, inputs, outputs, drivers, resolvesLabels_of_completes compiles⟩

end Compiled

end SignalFlow
