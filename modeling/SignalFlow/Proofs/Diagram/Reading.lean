import SignalFlow.Diagram.File
import SignalFlow.Host.Usual
import SignalFlow.Proofs.Diagram.Naming
import SignalFlow.Proofs.ValueTexts

/-! # Reading of diagrams

A value is read as a diagram part by part: its entries are taken as they are (`IsEntry`), and so are
its connections (`IsConnection`), and the blocks are named. Whatever is read this way has a block
for each entry, under an id of its own (`IsLoaded`).
-/

namespace SignalFlow

namespace Diagram

/-! ## Items in order -/

section Items

variable {ε α β : Type} {f : Nat → α → Except ε β}

theorem eachIndexed_eq_ok_iff {relation : α → β → Prop}
    (each : ∀ index item result, f index item = .ok result ↔ relation item result) (index : Nat)
    (items : List α) (results : List β) :
    eachIndexed f index items = .ok results ↔ List.Forall₂ relation items results := by
  induction items generalizing index results with
  | nil => simp [eachIndexed, eq_comm]
  | cons item rest ih =>
      simp only [eachIndexed, bind_eq_ok_iff, List.forall₂_cons_left_iff, each, ih]
      simp [pure, Except.pure, eq_comm]

theorem eachIndexed_cons_eq_error_iff (index : Nat) (item : α) (rest : List α) (cause : ε) :
    eachIndexed f index (item :: rest) = .error cause ↔
      f index item = .error cause ∨
        ∃ result, f index item = .ok result ∧ eachIndexed f (index + 1) rest = .error cause := by
  cases first : f index item with
  | error found => simp [eachIndexed, first, bind, Except.bind]
  | ok result =>
      cases others : eachIndexed f (index + 1) rest <;>
        simp [eachIndexed, first, others, bind, Except.bind, pure, Except.pure]

/-- Items are read up to the first one that gives an error. -/
theorem eachIndexed_eq_error_iff (index : Nat) (items : List α) (cause : ε) :
    eachIndexed f index items = .error cause ↔
      ∃ good bad rest, items = good ++ bad :: rest ∧ f (index + good.length) bad = .error cause ∧
        ∃ results, eachIndexed f index good = .ok results := by
  induction items generalizing index with
  | nil => simp [eachIndexed]
  | cons item rest ih =>
      rw [eachIndexed_cons_eq_error_iff, ih]
      constructor
      · rintro (fails | ⟨result, first, good, bad, others, rfl, fails, results, read⟩)
        · exact ⟨[], item, rest, rfl, fails, [], rfl⟩
        · refine ⟨item :: good, bad, others, rfl, ?_, result :: results, ?_⟩
          · rwa [List.length_cons, Nat.add_comm good.length, ← Nat.add_assoc]
          · simp [eachIndexed, first, read, bind, Except.bind, pure, Except.pure]
      · rintro ⟨good, bad, others, split, fails, results, read⟩
        cases good with
        | nil =>
            obtain ⟨rfl, rfl⟩ := List.cons.inj split
            exact .inl fails
        | cons head good =>
            obtain ⟨rfl, rfl⟩ := List.cons.inj split
            obtain ⟨result, first, more, readMore, -⟩ := by
              simpa only [eachIndexed, bind_eq_ok_iff] using read
            refine .inr ⟨result, first, good, bad, others, rfl, ?_, more, readMore⟩
            rwa [List.length_cons, Nat.add_comm good.length, ← Nat.add_assoc] at fails

end Items

/-! ## Entries and connections -/

/-- An item describes a block entry. -/
def IsEntry [Host] (item : Value) (entry : Entry) : Prop :=
  ∃ fields, item = .mapping fields ∧ Entries.get? fields "type" = some entry.type ∧
    mappingAt? fields "params" = some entry.params ∧ explicitId fields = .ok entry.id

/-- An item describes a block entry but for its id, of which no text can be made. -/
def HasBadId [Host] (item : Value) (fault : Fault) : Prop :=
  ∃ fields type params, item = .mapping fields ∧ Entries.get? fields "type" = some type ∧
    mappingAt? fields "params" = some params ∧
      ∃ id, Entries.get? fields "id" = some id ∧ id.Obstructs (Host.textDepth + 1) fault

theorem entry?_eq_ok_iff [Host] (index : Nat) (item : Value) (entry : Entry) :
    entry? index item = .ok entry ↔ IsEntry item entry := by
  rcases entry with ⟨id, type, params⟩
  unfold entry? IsEntry
  cases item with
  | mapping fields =>
      simp only [Value.mapping.injEq, exists_eq_left']
      cases Entries.get? fields "type" with
      | none => simp
      | some found =>
          cases mappingAt? fields "params" with
          | none => simp
          | some entries =>
              cases explicitId fields <;>
                simp [Except.map, Except.mapError, and_comm, and_left_comm]
  | _ => simp

/-- An id cannot be read exactly if no text can be made of it. -/
theorem explicitId_eq_error_iff [Host] {fields : List (String × Value)} {fault : Fault} :
    explicitId fields = .error fault ↔
      ∃ id, Entries.get? fields "id" = some id ∧ id.Obstructs (Host.textDepth + 1) fault := by
  unfold explicitId
  split
  · next missing => simp [missing]
  · next isNull =>
      simp only [isNull, Option.some.injEq, exists_eq_left', reduceCtorEq, false_iff]
      exact fun obstructs => obstructs.not_isWritable .null
  · next value present found =>
      simp only [found, Option.some.injEq, exists_eq_left', ← Value.toText_eq_error_iff]
      cases value.toText <;> simp [Except.map]

theorem entry?_eq_fault_iff [Host] (index : Nat) (item : Value) (fault : Fault) :
    entry? index item = .error (.fault fault) ↔ HasBadId item fault := by
  unfold entry? HasBadId
  cases item with
  | mapping fields =>
      simp only [Value.mapping.injEq, exists_and_left, exists_eq_left']
      cases Entries.get? fields "type" with
      | none => simp
      | some type =>
          cases mappingAt? fields "params" with
          | none => simp
          | some params =>
              simp only [← explicitId_eq_error_iff]
              cases explicitId fields <;> simp [Except.map, Except.mapError]
  | _ => simp

theorem explicitId_ne_empty [Host] (fields : List (String × Value)) :
    explicitId fields ≠ .ok (some "") := by
  unfold explicitId
  split
  · simp
  · simp
  · next value _ _ =>
      cases value.toText with
      | error fault => simp [Except.map]
      | ok text =>
          by_cases empty : text.isEmpty = true
          · simp [Except.map, empty]
          · intro same
            simp only [Except.map, empty] at same
            simp [Option.some.inj (Except.ok.inj same)] at empty

/-- An item is a mapping that says where a connection starts and where it ends. -/
structure HasEnds (item : Value) (fields : List (String × Value)) (source target : Value) :
    Prop where
  item_eq : item = .mapping fields
  source_eq : Entries.get? fields "from" = some source
  target_eq : Entries.get? fields "to" = some target

/-- An item describes a connection. -/
def IsConnection [Host] (item : Value) (connection : Connection String) : Prop :=
  ∃ fields source target, HasEnds item fields source target ∧
    portAt fields "fromIndex" = .ok connection.sourcePort ∧
    portAt fields "toIndex" = .ok connection.targetPort ∧
    source.toText = .ok connection.source ∧ target.toText = .ok connection.target

/-- A port of a connection cannot be read; the second one is read only after the first. -/
def PortsFail (fields : List (String × Value)) (cause : Fault) : Prop :=
  portAt fields "fromIndex" = .error cause ∨
    ∃ port, portAt fields "fromIndex" = .ok port ∧ portAt fields "toIndex" = .error cause

theorem ports_eq_error_iff (index : Nat) (fields : List (String × Value)) (cause : ReadError) :
    ports index fields = .error cause ↔ ∃ fault, PortsFail fields fault ∧
      cause = if fault = .tooLarge then .fault .tooLarge else .format (.port index) := by
  unfold ports PortsFail
  cases portAt fields "fromIndex" with
  | error fault => cases fault <;> simp [bind, Except.bind, eq_comm]
  | ok port =>
      cases portAt fields "toIndex" with
      | error fault => cases fault <;> simp [bind, Except.bind, eq_comm]
      | ok _ => simp [bind, Except.bind, pure, Except.pure]

theorem ports_eq_ok_iff (index : Nat) (fields : List (String × Value))
    (sourcePort targetPort : Int) :
    ports index fields = .ok (sourcePort, targetPort) ↔
      portAt fields "fromIndex" = .ok sourcePort ∧ portAt fields "toIndex" = .ok targetPort := by
  unfold ports
  cases portAt fields "fromIndex" with
  | error cause => cases cause <;> simp [bind, Except.bind]
  | ok first =>
      cases portAt fields "toIndex" with
      | error cause => cases cause <;> simp [bind, Except.bind]
      | ok second => simp [bind, Except.bind, pure, Except.pure]

theorem HasEnds.connection?_eq [Host] {item source target : Value}
    {fields : List (String × Value)} (ends : HasEnds item fields source target) (index : Nat) :
    connection? index item = do
      let (sourcePort, targetPort) ← ports index fields
      let source ← source.toText.mapError .fault
      let target ← target.toText.mapError .fault
      return ⟨source, target, sourcePort, targetPort⟩ := by
  rw [ends.item_eq, connection?, ends.source_eq, ends.target_eq]

theorem connection?_of_not_hasEnds [Host] {item : Value}
    (lacks : ∀ fields source target, ¬ HasEnds item fields source target) (index : Nat) :
    connection? index item = .error (.format (.ends index)) := by
  unfold connection?
  split
  · next fields =>
      split
      · next source target hasSource hasTarget =>
          exact absurd ⟨rfl, hasSource, hasTarget⟩ (lacks fields source target)
      · rfl
  · rfl

theorem connection?_eq_ok_iff [Host] (index : Nat) (item : Value)
    (connection : Connection String) :
    connection? index item = .ok connection ↔ IsConnection item connection := by
  rcases connection with ⟨source', target', sourcePort, targetPort⟩
  constructor
  · intro read
    by_cases has : ∃ fields source target, HasEnds item fields source target
    · obtain ⟨fields, source, target, ends⟩ := has
      rw [ends.connection?_eq] at read
      obtain ⟨⟨first, second⟩, hasPorts, read⟩ := bind_eq_ok_iff.mp read
      obtain ⟨hasFirst, hasSecond⟩ := (ports_eq_ok_iff index fields _ _).mp hasPorts
      obtain ⟨sourceText, hasSource, read⟩ := bind_eq_ok_iff.mp read
      obtain ⟨targetText, hasTarget, read⟩ := bind_eq_ok_iff.mp read
      cases read
      exact ⟨fields, source, target, ends, hasFirst, hasSecond, mapError_eq_ok_iff.mp hasSource,
        mapError_eq_ok_iff.mp hasTarget⟩
    · simp only [not_exists] at has
      rw [connection?_of_not_hasEnds has] at read
      cases read
  · rintro ⟨fields, source, target, ends, hasFirst, hasSecond, hasSource, hasTarget⟩
    rw [ends.connection?_eq, (ports_eq_ok_iff index fields _ _).mpr ⟨hasFirst, hasSecond⟩,
      hasSource, hasTarget]
    rfl

/-- No text can be made of an end of a connection; its start comes first. -/
def EndsFail [Host] (source target : Value) (fault : Fault) : Prop :=
  source.Obstructs (Host.textDepth + 1) fault ∨
    source.IsWritable (Host.textDepth + 1) ∧ target.Obstructs (Host.textDepth + 1) fault

theorem HasEnds.connection?_eq_error_iff [Host] {item source target : Value}
    {fields : List (String × Value)} (ends : HasEnds item fields source target) (index : Nat)
    (cause : ReadError) :
    connection? index item = .error cause ↔ ports index fields = .error cause ∨
      ∃ found fault, ports index fields = .ok found ∧ EndsFail source target fault ∧
        cause = .fault fault := by
  simp only [EndsFail, ← Value.toText_eq_error_iff, ← Value.exists_toText_eq_ok_iff]
  rw [ends.connection?_eq]
  cases ports index fields with
  | error found => simp [bind, Except.bind]
  | ok found =>
      cases source.toText <;> cases target.toText <;>
        simp [bind, Except.bind, pure, Except.pure, Except.mapError, eq_comm]

/-! ## The whole value -/

theorem throw_eq_error {ε α : Type} (cause : ε) : (throw cause : Except ε α) = .error cause := rfl

theorem parts?_eq_ok_iff (value : Value) (parts : Parts) :
    parts? value = .ok parts ↔ ∃ fields, value = .mapping fields ∧
      listAt? fields "blocks" = some parts.blocks ∧
      listAt? fields "connections" = some parts.connections ∧
      mappingAt? fields "variables" = some parts.vars ∧
      parts.runtime = (Entries.get? fields "runtime").getD .null ∧
      parts.dt = ((Entries.get? fields "dt").or (Entries.get? fields "sampleTime")).getD .null := by
  rcases parts with ⟨blocks, connections, vars, runtime, dt⟩
  cases value with
  | mapping fields =>
      simp only [parts?, Value.mapping.injEq, exists_eq_left']
      cases listAt? fields "blocks" with
      | none => simp [throw_eq_error]
      | some blocks' =>
        cases listAt? fields "connections" with
        | none => simp [throw_eq_error]
        | some _ =>
          cases mappingAt? fields "variables" with
          | none => simp [throw_eq_error]
          | some _ =>
            cases Entries.get? fields "dt" <;>
            simp [pure, Except.pure, eq_comm]
  | _ => simp [parts?, throw_eq_error]

theorem foldl_connect (connections : List (Connection String)) (diagram : Diagram String) :
    connections.foldl connect diagram =
      { diagram with connections := diagram.connections ++ connections } := by
  induction connections generalizing diagram with
  | nil => simp
  | cons connection rest ih => simp [ih, connect]

/-- The ids that entries bring along. -/
def ownIds (entries : List Entry) : List (Option String) := entries.map (·.id)

/-- The diagram that blocks are added to at first. -/
def Parts.frame (parts : Parts) : Diagram String := empty parts.vars parts.runtime parts.dt

theorem completes_ofValue_iff [Host] {value : Value} {before after : List Notice}
    {diagram : Diagram String} :
    Completes (ofValue value) before diagram after ↔
      ∃ parts entries connections named, parts? value = .ok parts ∧
        List.Forall₂ IsEntry parts.blocks entries ∧
        List.Forall₂ IsConnection parts.connections connections ∧
        Completes (entries.foldlM (addEntry (entries.filterMap (·.id))) parts.frame) before
          named after ∧
        diagram = { named with connections := named.connections ++ connections } := by
  unfold ofValue
  simp only [completes_bind, Noted.ofExcept, completes_liftExcept, completes_pure,
    mapError_eq_ok_iff,
    eachIndexed_eq_ok_iff entry?_eq_ok_iff, eachIndexed_eq_ok_iff connection?_eq_ok_iff,
    foldl_connect]
  constructor
  · rintro ⟨parts, _, ⟨hasParts, rfl⟩, entries, _, ⟨read, rfl⟩, named, _, added, connections, _,
      ⟨joined, rfl⟩, rfl, rfl⟩
    exact ⟨parts, entries, connections, named, hasParts, read, joined, added, rfl⟩
  · rintro ⟨parts, entries, connections, named, hasParts, read, joined, added, rfl⟩
    exact ⟨parts, _, ⟨hasParts, rfl⟩, entries, _, ⟨read, rfl⟩, named, _, added, connections, _,
      ⟨joined, rfl⟩, rfl, rfl⟩

/-- Reading breaks off for an error in the parts of the value, in its entries, in the types of its
blocks or in its connections; finding ids for the blocks is no reason. -/
theorem outcome_ofValue_eq_error_iff [Host] {value : Value} {before : List Notice}
    {cause : ReadError} :
    (outcome (ofValue value) before).1 = .error cause ↔
      (∃ error, parts? value = .error error ∧ cause = .format error) ∨
        ∃ parts, parts? value = .ok parts ∧
          (eachIndexed entry? 0 parts.blocks = .error cause ∨
            ∃ entries, eachIndexed entry? 0 parts.blocks = .ok entries ∧
              ((∃ fault, entries.mapM (·.type.toText) = .error fault ∧ cause = .fault fault) ∨
                ∃ types, entries.mapM (·.type.toText) = .ok types ∧
                  eachIndexed connection? 0 parts.connections = .error cause)) := by
  unfold ofValue
  simp only [Noted.ofExcept, outcome_bind, outcome_liftExcept]
  cases parts? value with
  | error error => simp [Except.mapError, eq_comm]
  | ok parts =>
      simp only [reduceCtorEq, false_and, exists_false, false_or, Except.ok.injEq,
        exists_eq_left', Except.mapError]
      cases eachIndexed entry? 0 parts.blocks with
      | error error => simp
      | ok entries =>
          cases texts : entries.mapM (·.type.toText) with
          | error fault =>
              have fails := outcome_addEntries_of_error (entries.filterMap (·.id)) texts
                parts.frame before
              rcases ended : outcome (entries.foldlM (addEntry (entries.filterMap (·.id)))
                parts.frame) before with ⟨result, after⟩
              rw [ended] at fails
              cases fails
              simp only [Parts.frame] at ended
              simp [ended, texts, eq_comm]
          | ok types =>
              obtain ⟨blocks, next, after, added, -⟩ := exists_completes_addEntries
                (entries.filterMap (·.id)) texts parts.frame before .nil
              simp only [Completes, Parts.frame] at added
              simp only [added]
              cases eachIndexed connection? 0 parts.connections <;> simp [texts]

section Files

variable {files : Files} {path : String} {before : List Notice}

/-- The value in a file of JSON. -/
theorem readValue_of_read [Host] {text : String} {entries : List (String × Value)}
    (isJson : isYaml path = false) (read : files.read path = .ok text)
    (unbroken : Text.unifyBreaks text = text)
    (parsed : Json.parse text = .ok (.mapping entries)) :
    readValue files path = .ok (.mapping entries) := by
  simp [readValue, read, unbroken, isJson, parsed]

/-- What an error in a value is called where the value comes from a file. -/
def inFile : ReadError → FileError
  | .format cause => .problem (.format cause)
  | .fault cause => .fault cause

theorem outcome_load_of_ok [Host] {value : Value} (hasValue : readValue files path = .ok value) :
    outcome (load files path) before =
      ((outcome (ofValue value) before).1.mapError inFile, (outcome (ofValue value) before).2) := by
  simp only [load, hasValue, outcome_bind, Noted.ofExcept, outcome_liftExcept, outcome_adapt]
  rfl

theorem outcome_load_of_error [Host] {cause : FileError}
    (fails : readValue files path = .error cause) :
    outcome (load files path) before = (.error cause, before) := by
  simp [load, outcome_bind, Noted.ofExcept, fails]

end Files

/-! ## What is loaded -/

/-- The blocks of a diagram are those of entries, one for each and in their order. Their ids are
different and not empty. The first entry with an own id keeps it, so that this id refers to its
block; all the other entries get ids that no entry brings along. -/
structure IsLoaded [Host] (entries : List Entry) (diagram : Diagram String) : Prop where
  kept : List.Forall₂ IsKept entries diagram.blocks
  nodup : diagram.ids.Nodup
  nonempty : "" ∉ diagram.ids
  first {place : Nat} {id : String} : (ownIds entries).idxOf? (some id) = some place →
    diagram.ids[place]? = some id ∧ diagram.ids.idxOf? id = some place ∧
      diagram.block? id = diagram.blocks[place]?
  allocated {place : Nat} (inside : place < (ownIds entries).length) :
    (∀ id, (ownIds entries)[place] = some id →
      (ownIds entries).idxOf? (some id) ≠ some place) →
    ∃ number, diagram.ids[place]? = some (numbered "b" number) ∧
      some (numbered "b" number) ∉ ownIds entries

theorem block?_eq_of_idxOf? {diagram : Diagram String} {id : String} {place : Nat}
    (found : diagram.ids.idxOf? id = some place) : diagram.block? id = diagram.blocks[place]? := by
  obtain ⟨inside, same, earlier⟩ := List.idxOf?_eq_some_iff.mp found
  have inBlocks : place < diagram.blocks.length := by simpa [ids] using inside
  rw [block?, List.getElem?_eq_getElem inBlocks, List.find?_eq_some_iff_getElem]
  refine ⟨by simpa [ids] using same, place, inBlocks, rfl, fun other before => ?_⟩
  simpa [ids] using earlier other before

theorem isLoaded_of_names [Host] {entries : List Entry} {diagram : Diagram String}
    (names : Names (entries.filterMap (·.id)) (ownIds entries) diagram.ids)
    (nonempty : some "" ∉ ownIds entries)
    (kept : List.Forall₂ IsKept entries diagram.blocks) : IsLoaded entries diagram := by
  have reserved_iff (id : String) : id ∈ entries.filterMap (·.id) ↔ some id ∈ ownIds entries := by
    simp [ownIds]
  refine ⟨kept, names.nodup, names.empty_not_mem nonempty, ?_, ?_⟩
  · intro place id first
    have member : some id ∈ ownIds entries := by
      obtain ⟨inside, same, -⟩ := List.idxOf?_eq_some_iff.mp first
      rw [← same]
      exact List.getElem_mem inside
    have found : diagram.ids.idxOf? id = some place := by
      rw [names.idxOf?_eq ((reserved_iff id).mpr member), first]
    obtain ⟨inside, same, -⟩ := List.idxOf?_eq_some_iff.mp found
    refine ⟨?_, found, block?_eq_of_idxOf? found⟩
    rw [List.getElem?_eq_getElem inside, same]
  · intro place inside notFirst
    obtain ⟨number, found, unreserved⟩ :=
      names.allocated (fun id => (reserved_iff id).mpr) inside notFirst
    exact ⟨number, found, fun member => unreserved ((reserved_iff _).mpr member)⟩

theorem empty_not_mem_ownIds [Host] {items : List Value} {entries : List Entry}
    (read : List.Forall₂ IsEntry items entries) : some "" ∉ ownIds entries := by
  induction read with
  | nil => exact List.not_mem_nil
  | cons isEntry _ ih =>
      obtain ⟨fields, -, -, -, own⟩ := isEntry
      rw [ownIds, List.map_cons, List.mem_cons, not_or]
      exact ⟨fun same => explicitId_ne_empty fields (same ▸ own), ih⟩

theorem exists_isLoaded [Host] {value : Value} {before after : List Notice}
    {diagram : Diagram String}
    (completes : Completes (ofValue value) before diagram after) :
    ∃ fields items ends entries, value = .mapping fields ∧
      listAt? fields "blocks" = some items ∧ listAt? fields "connections" = some ends ∧
      List.Forall₂ IsEntry items entries ∧ IsLoaded entries diagram ∧
      List.Forall₂ IsConnection ends diagram.connections := by
  obtain ⟨parts, entries, connections, named, hasParts, read, joined, added, rfl⟩ :=
    completes_ofValue_iff.mp completes
  obtain ⟨fields, rfl, blocks, ends, -⟩ := (parts?_eq_ok_iff value parts).mp hasParts
  have written : ∃ types, entries.mapM (·.type.toText) = .ok types := by
    cases texts : entries.mapM (·.type.toText) with
    | ok types => exact ⟨types, rfl⟩
    | error fault =>
        have fails :=
          outcome_addEntries_of_error (entries.filterMap (·.id)) texts parts.frame before
        rw [added] at fails
        cases fails
  obtain ⟨types, written⟩ := written
  obtain ⟨added', next, after', completes', names, kept⟩ :=
    exists_completes_addEntries (entries.filterMap (·.id)) written parts.frame before .nil
  obtain ⟨rfl, -⟩ := added.unique completes'
  refine ⟨fields, _, _, entries, rfl, blocks, ends, read, ?_, by simpa [Parts.frame, empty]⟩
  refine isLoaded_of_names ?_ (empty_not_mem_ownIds read) ?_
  · simpa [Parts.frame, empty, ids, ownIds] using names
  · simpa [Parts.frame, empty] using kept

theorem not_duplicateBlock [Host] (value : Value) (before : List Notice) (id : String) :
    (outcome (ofValue value) before).1 ≠ .error (.fault (.duplicateBlock id)) := by
  intro ended
  rw [outcome_ofValue_eq_error_iff] at ended
  obtain ⟨_, _, same⟩ | ⟨parts, _, fails | ⟨entries, _, ⟨fault, fails, same⟩ | ⟨_, _, fails⟩⟩⟩ :=
    ended
  · cases same
  · obtain ⟨good, bad, _, _, fails, _⟩ := (eachIndexed_eq_error_iff _ _ _).mp fails
    obtain ⟨fields, _, _, _, _, _, _, _, obstructs⟩ := (entry?_eq_fault_iff _ _ _).mp fails
    obtain same | same := obstructs.fault_eq <;> cases same
  · cases same
    obtain ⟨_, entry, _, _, _, fails⟩ := mapM_eq_error_iff.mp fails
    obtain same | same := Value.of_toText_eq_error fails <;> cases same
  · obtain ⟨good, bad, _, _, fails, _⟩ := (eachIndexed_eq_error_iff _ _ _).mp fails
    by_cases has : ∃ fields source target, HasEnds bad fields source target
    · obtain ⟨fields, source, target, ends⟩ := has
      obtain fails | ⟨_, fault, _, fails, same⟩ := (ends.connection?_eq_error_iff _ _).mp fails
      · obtain ⟨fault, _, same⟩ := (ports_eq_error_iff _ _ _).mp fails
        split at same <;> cases same
      · cases same
        obtain obstructs | ⟨_, obstructs⟩ := fails <;>
          obtain same | same := obstructs.fault_eq <;> cases same
    · simp only [not_exists] at has
      rw [connection?_of_not_hasEnds has] at fails
      cases fails

/-- **Loading a diagram.** The search for a fresh id ends at the first number that is free, adding a
block never fails for a repeated id, and the blocks and connections of a value that is accepted are
those of its entries, each of them under an id of its own. -/
theorem isLoaded_of_completes [Host] (value : Value) (before : List Notice) :
    (∀ (current : Diagram String) (reserved : List String), ∃ number,
      IsFirstFree (fun n => numbered "b" n ∈ reserved ∨ numbered "b" n ∈ current.ids)
        current.nextId number ∧
      current.freshId id "b" reserved =
        (numbered "b" number, { current with nextId := number + 1 })) ∧
    (∀ id, (outcome (ofValue value) before).1 ≠ .error (.fault (.duplicateBlock id))) ∧
    ∀ diagram after, Completes (ofValue value) before diagram after →
      ∃ fields items ends entries, value = .mapping fields ∧
        listAt? fields "blocks" = some items ∧ listAt? fields "connections" = some ends ∧
        List.Forall₂ IsEntry items entries ∧ IsLoaded entries diagram ∧
        List.Forall₂ IsConnection ends diagram.connections :=
  ⟨fun current reserved => current.freshId_eq "b" reserved, not_duplicateBlock value before,
    fun _ _ completes => exists_isLoaded completes⟩

/-- A file in which own ids meet allocated ones: the first block has no id, the second and the third
one have the id that would be next, and the last one has an id that would come later. -/
def tangledIds : Value :=
  .mapping [("blocks", .list [
      .mapping [("type", .text "constant")],
      .mapping [("id", .text "b1"), ("type", .text "gain"),
        ("params", .mapping [("gain", .int 2)])],
      .mapping [("id", .text "b1"), ("type", .text "scope")],
      .mapping [("id", .text ""), ("type", .text "scope")],
      .mapping [("id", .text "b3"), ("type", .text "sum")]]),
    ("connections", .list [.mapping [("from", .text "b3"), ("to", .text "b1")]])]

open Host.Usual

theorem isLoaded_tangledIds :
    ∃ diagram after, Completes (ofValue tangledIds) [] diagram after ∧
      diagram.ids = ["b2", "b1", "b4", "b5", "b3"] ∧
      ∃ fields items ends entries, tangledIds = .mapping fields ∧
        listAt? fields "blocks" = some items ∧ listAt? fields "connections" = some ends ∧
        List.Forall₂ IsEntry items entries ∧ IsLoaded entries diagram ∧
        List.Forall₂ IsConnection ends diagram.connections := by
  have passes : (outcome (ofValue tangledIds) []).1.toOption.any
      (fun diagram => diagram.ids == ["b2", "b1", "b4", "b5", "b3"]) = true := by decide +kernel
  obtain ⟨diagram, after, completes, named⟩ := exists_completes_of_any passes
  exact ⟨diagram, after, completes, by simpa using named,
    (isLoaded_of_completes tangledIds []).2.2 diagram after completes⟩

end Diagram

end SignalFlow
