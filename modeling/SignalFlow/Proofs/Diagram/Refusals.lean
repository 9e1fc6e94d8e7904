import SignalFlow.Host.Usual
import SignalFlow.Proofs.Diagram.Reading
import SignalFlow.Proofs.InfiniteDoubles
import SignalFlow.Proofs.JsonReading
import SignalFlow.Proofs.JsonLines
import SignalFlow.Proofs.ValueEquality
import SignalFlow.Proofs.WrittenFiles

/-! # Refused diagrams

A value that is no diagram is refused with an error of the format, unless the reading breaks off
before that (`Diagram.Breaks`): where no text can be made of an id, a type or an end of a
connection, or where a port is an infinite double. A file is refused with a problem of the file,
unless its text cannot be read for its nesting or reading the value in it breaks off
(`Diagram.FileBreaks`).
-/

namespace SignalFlow

namespace Diagram

variable {fields : List (String × Value)} {key : String}

/-- The value under a key is an infinite double. -/
def IsInfiniteAt (fields : List (String × Value)) (key : String) : Prop :=
  ∃ x, Entries.get? fields key = some (.float x) ∧ x.isInf = true

theorem portAt_eq_tooLarge_iff :
    portAt fields key = .error .tooLarge ↔ IsInfiniteAt fields key := by
  unfold portAt IsInfiniteAt
  cases Entries.get? fields key with
  | none => simp
  | some value =>
      by_cases present : value.isPresent = true
      · simp [present, Value.toInt_eq_tooLarge_iff]
      · simp only [present]
        constructor
        · intro same
          cases same
        · rintro ⟨x, same, isInf⟩
          rw [Option.some.inj same] at present
          exact absurd (Value.isPresent_of_isInf isInf) present

/-- Reading a connection that says where it starts and where it ends breaks off. -/
inductive ConnectionBreaks [Host] (item : Value) : Fault → Prop
  /-- A port is infinite; the second port counts if the first one can be read. -/
  | port {fields : List (String × Value)} {source target : Value}
      (ends : HasEnds item fields source target)
      (infinite : IsInfiniteAt fields "fromIndex" ∨
        ∃ port, portAt fields "fromIndex" = .ok port ∧ IsInfiniteAt fields "toIndex") :
      ConnectionBreaks item .tooLarge
  /-- Both ports can be read, but no text can be made of an end. -/
  | text {fields : List (String × Value)} {source target : Value} {first second : Int}
      {fault : Fault} (ends : HasEnds item fields source target)
      (hasFirst : portAt fields "fromIndex" = .ok first)
      (hasSecond : portAt fields "toIndex" = .ok second) (fails : EndsFail source target fault) :
      ConnectionBreaks item fault

theorem ports_eq_fault_iff (index : Nat) (fault : Fault) :
    ports index fields = .error (.fault fault) ↔ fault = .tooLarge ∧
      (IsInfiniteAt fields "fromIndex" ∨
        ∃ port, portAt fields "fromIndex" = .ok port ∧ IsInfiniteAt fields "toIndex") := by
  simp only [ports_eq_error_iff, ← portAt_eq_tooLarge_iff]
  constructor
  · rintro ⟨found, fails, same⟩
    split at same
    · next tooLarge =>
        subst tooLarge
        cases same
        exact ⟨rfl, fails⟩
    · cases same
  · rintro ⟨rfl, fails⟩
    exact ⟨.tooLarge, fails, rfl⟩

theorem connection?_eq_fault_iff [Host] (index : Nat) (item : Value) (fault : Fault) :
    connection? index item = .error (.fault fault) ↔ ConnectionBreaks item fault := by
  constructor
  · intro read
    by_cases has : ∃ fields source target, HasEnds item fields source target
    · obtain ⟨fields, source, target, ends⟩ := has
      obtain fails | ⟨⟨first, second⟩, _, hasPorts, fails, same⟩ :=
        (ends.connection?_eq_error_iff _ _).mp read
      · obtain ⟨rfl, infinite⟩ := (ports_eq_fault_iff _ _).mp fails
        exact .port ends infinite
      · cases same
        obtain ⟨hasFirst, hasSecond⟩ := (ports_eq_ok_iff _ _ _ _).mp hasPorts
        exact .text ends hasFirst hasSecond fails
    · simp only [not_exists] at has
      rw [connection?_of_not_hasEnds has] at read
      cases read
  · intro breaks
    cases breaks with
    | port ends infinite =>
        exact (ends.connection?_eq_error_iff _ _).mpr
          (.inl ((ports_eq_fault_iff _ _).mpr ⟨rfl, infinite⟩))
    | text ends hasFirst hasSecond fails =>
        exact (ends.connection?_eq_error_iff _ _).mpr
          (.inr ⟨_, fault, (ports_eq_ok_iff _ _ _ _).mpr ⟨hasFirst, hasSecond⟩, fails, rfl⟩)

/-- Reading a value breaks off with a fault. All ids are read first, then the texts of the types are
made, and the connections come last. -/
inductive Breaks [Host] (value : Value) (fault : Fault) : Prop
  | id {parts : Parts} {good rest : List Value} {bad : Value} {entries : List Entry}
      (hasParts : parts? value = .ok parts) (split : parts.blocks = good ++ bad :: rest)
      (read : List.Forall₂ IsEntry good entries) (fails : HasBadId bad fault)
  | type {parts : Parts} {entries good rest : List Entry} {bad : Entry}
      (hasParts : parts? value = .ok parts) (read : List.Forall₂ IsEntry parts.blocks entries)
      (split : entries = good ++ bad :: rest)
      (written : ∀ entry ∈ good, entry.type.IsWritable (Host.textDepth + 1))
      (fails : bad.type.Obstructs (Host.textDepth + 1) fault)
  | connection {parts : Parts} {entries : List Entry} {good rest : List Value} {bad : Value}
      {connections : List (Connection String)} (hasParts : parts? value = .ok parts)
      (read : List.Forall₂ IsEntry parts.blocks entries)
      (written : ∀ entry ∈ entries, entry.type.IsWritable (Host.textDepth + 1))
      (split : parts.connections = good ++ bad :: rest)
      (joined : List.Forall₂ IsConnection good connections) (breaks : ConnectionBreaks bad fault)

theorem types_eq_error_iff [Host] {entries : List Entry} {fault : Fault} :
    entries.mapM (·.type.toText) = .error fault ↔ ∃ good bad rest, entries = good ++ bad :: rest ∧
      (∀ entry ∈ good, entry.type.IsWritable (Host.textDepth + 1)) ∧
      bad.type.Obstructs (Host.textDepth + 1) fault := by
  simp only [mapM_eq_error_iff, Value.exists_toText_eq_ok_iff, Value.toText_eq_error_iff]

theorem exists_types_eq_ok_iff [Host] {entries : List Entry} :
    (∃ types, entries.mapM (·.type.toText) = .ok types) ↔
      ∀ entry ∈ entries, entry.type.IsWritable (Host.textDepth + 1) := by
  simp only [← Value.exists_toText_eq_ok_iff]
  exact ⟨fun ⟨_, written⟩ _ member => exists_eq_ok_of_mapM written member, exists_mapM_eq_ok⟩

theorem ofValue_eq_fault_iff [Host] (value : Value) (before : List Notice) (fault : Fault) :
    (outcome (ofValue value) before).1 = .error (.fault fault) ↔ Breaks value fault := by
  rw [outcome_ofValue_eq_error_iff]
  simp only [reduceCtorEq, and_false, exists_false, false_or, eachIndexed_eq_error_iff,
    connection?_eq_fault_iff, entry?_eq_fault_iff, eachIndexed_eq_ok_iff entry?_eq_ok_iff,
    eachIndexed_eq_ok_iff connection?_eq_ok_iff, ReadError.fault.injEq]
  constructor
  · rintro ⟨parts, hasParts, ⟨good, bad, rest, split, fails, entries, read⟩ |
      ⟨entries, read, ⟨_, fails, rfl⟩ |
        ⟨types, written, good, bad, rest, split, breaks, connections, joined⟩⟩⟩
    · exact .id hasParts split read fails
    · obtain ⟨good, bad, rest, split, written, fails⟩ := types_eq_error_iff.mp fails
      exact .type hasParts read split written fails
    · exact .connection hasParts read (exists_types_eq_ok_iff.mp ⟨types, written⟩) split joined
        breaks
  · rintro (⟨hasParts, split, read, fails⟩ | ⟨hasParts, read, split, written, fails⟩ |
      ⟨hasParts, read, written, split, joined, breaks⟩)
    · exact ⟨_, hasParts, .inl ⟨_, _, _, split, fails, _, read⟩⟩
    · exact ⟨_, hasParts, .inr ⟨_, read, .inl
        ⟨fault, types_eq_error_iff.mpr ⟨_, _, _, split, written, fails⟩, rfl⟩⟩⟩
    · obtain ⟨types, texts⟩ := exists_types_eq_ok_iff.mpr written
      exact ⟨_, hasParts, .inr ⟨_, read, .inr
        ⟨types, texts, _, _, _, split, breaks, _, joined⟩⟩⟩

/-- Loading a file breaks off with a fault. -/
inductive FileBreaks [Host] (files : Files) (path : String) : Fault → Prop
  | json {text : String} (isJson : isYaml path = false) (read : files.read path = .ok text)
      (deep : Json.parse (Text.unifyBreaks text) = .error .tooDeep) : FileBreaks files path .tooDeep
  | yaml {text : String} {fault : Fault} (isYaml : isYaml path = true)
      (read : files.read path = .ok text)
      (fails : Host.readYaml (Text.unifyBreaks text) = .error fault)
      (escapes : fault ≠ .malformed ∧ fault ≠ .undefined) : FileBreaks files path fault
  | value {value : Value} {fault : Fault} (read : readValue files path = .ok value)
      (breaks : Breaks value fault) : FileBreaks files path fault

theorem unparsed_eq_fault_iff {found fault : Fault} :
    unparsed found = .fault fault ↔ found = fault ∧ fault ≠ .malformed ∧ fault ≠ .undefined := by
  cases found <;> cases fault <;> simp [unparsed]

theorem readValue_eq_fault_iff [Host] (files : Files) (path : String) (fault : Fault) :
    readValue files path = .error (.fault fault) ↔ ∃ text, files.read path = .ok text ∧
      (if isYaml path then Host.readYaml (Text.unifyBreaks text)
        else Json.parse (Text.unifyBreaks text)) = .error fault ∧
      fault ≠ .malformed ∧ fault ≠ .undefined := by
  unfold readValue
  cases files.read path with
  | error cause => simp
  | ok text =>
      simp only [Except.ok.injEq, exists_eq_left']
      split
      · next found parsed => simp [parsed, unparsed_eq_fault_iff]
      · next entries parsed => simp [parsed]
      · next value parsed => simp [parsed]

theorem load_eq_fault_iff [Host] (files : Files) (path : String) (before : List Notice)
    (fault : Fault) :
    (outcome (load files path) before).1 = .error (.fault fault) ↔ FileBreaks files path fault := by
  constructor
  · intro ended
    cases read : readValue files path with
    | error cause =>
        rw [outcome_load_of_error read] at ended
        cases ended
        obtain ⟨text, found, fails, escapes⟩ := (readValue_eq_fault_iff _ _ _).mp read
        by_cases isYaml : isYaml path = true
        · rw [if_pos isYaml] at fails
          exact .yaml isYaml found fails escapes
        · rw [if_neg isYaml] at fails
          obtain same | same | rfl := Json.of_parse_eq_error fails
          · exact absurd same escapes.1
          · exact absurd same escapes.2
          · exact .json (Bool.eq_false_iff.mpr isYaml) found fails
    | ok value =>
        refine .value read ((ofValue_eq_fault_iff value before fault).mp ?_)
        rw [outcome_load_of_ok read] at ended
        cases inner : (outcome (ofValue value) before).1 with
        | ok diagram => simp [inner, Except.mapError] at ended
        | error found =>
            rw [inner] at ended
            cases found with
            | format cause => simp [Except.mapError, inFile] at ended
            | fault cause => simpa [Except.mapError, inFile] using ended
  · rintro (⟨isJson, read, deep⟩ | ⟨isYaml, read, fails, escapes⟩ | ⟨read, breaks⟩)
    · have fails := (readValue_eq_fault_iff files path .tooDeep).mpr
        ⟨_, read, by rwa [isJson, if_neg Bool.false_ne_true], nofun, nofun⟩
      rw [outcome_load_of_error fails]
    · have fails := (readValue_eq_fault_iff files path fault).mpr
        ⟨_, read, by rwa [if_pos isYaml], escapes⟩
      rw [outcome_load_of_error fails]
    · rw [outcome_load_of_ok read, (ofValue_eq_fault_iff _ before _).mpr breaks]
      rfl

/-- A computation either ends with a fault or gives a result or a refusal. -/
theorem ends_iff_not {ε τ α : Type} {result : Except ε α} {refusal : τ → ε} {fault : Fault → ε}
    {bad : Fault → Prop}
    (kinds : ∀ found, (∃ cause, found = refusal cause) ∨ ∃ cause, found = fault cause)
    (different : ∀ cause other, refusal cause ≠ fault other)
    (faults : ∀ cause, result = .error (fault cause) ↔ bad cause) :
    ((∃ value, result = .ok value) ∨ ∃ cause, result = .error (refusal cause)) ↔
      ∀ cause, ¬ bad cause := by
  simp only [← faults]
  cases result with
  | ok value => simp
  | error found =>
      rcases kinds found with ⟨cause, rfl⟩ | ⟨cause, rfl⟩
      · simp [different]
      · simp [Ne.symm (different _ cause)]

/-- **Refusals.** Reading a value gives a diagram or an error of the format, and loading a file
gives a diagram or a problem with the file, unless they break off. The nesting of a text breaks
reading off if it opens too many lists and mappings: not with as many as may be open, but with one
list more than that, whatever follows. -/
theorem refusals [Host] (value : Value) (files : Files) (path : String) (before : List Notice) :
    (((∃ diagram, (outcome (ofValue value) before).1 = .ok diagram) ∨
        ∃ cause, (outcome (ofValue value) before).1 = .error (.format cause)) ↔
      ∀ fault, ¬ Breaks value fault) ∧
    (∀ fault, (outcome (ofValue value) before).1 = .error (.fault fault) ↔ Breaks value fault) ∧
    (((∃ diagram, (outcome (load files path) before).1 = .ok diagram) ∨
        ∃ cause, (outcome (load files path) before).1 = .error (.problem cause)) ↔
      ∀ fault, ¬ FileBreaks files path fault) ∧
    (∀ fault, (outcome (load files path) before).1 = .error (.fault fault) ↔
      FileBreaks files path fault) ∧
    (∀ text : String, Json.openings text.toList ≤ Host.jsonDepth →
      Json.parse text ≠ .error .tooDeep) ∧
    ∀ rest : List Char,
      Json.parse (String.ofList (List.replicate (Host.jsonDepth + 1) '[' ++ rest)) =
        .error .tooDeep := by
  refine ⟨?_, ofValue_eq_fault_iff value before, ?_, load_eq_fault_iff files path before,
    fun _ => Json.parse_ne_tooDeep, Json.parse_eq_tooDeep⟩
  · refine ends_iff_not ?_ ?_ (ofValue_eq_fault_iff value before)
    · rintro (cause | cause)
      · exact .inl ⟨cause, rfl⟩
      · exact .inr ⟨cause, rfl⟩
    · intro cause other same
      cases same
  · refine ends_iff_not ?_ ?_ (load_eq_fault_iff files path before)
    · rintro (cause | cause)
      · exact .inl ⟨cause, rfl⟩
      · exact .inr ⟨cause, rfl⟩
    · intro cause other same
      cases same

/-- A diagram whose only connection goes to a port that is infinite. -/
def infinitePort : Value :=
  .mapping [("connections", .list [.mapping [("from", .text "a"), ("to", .text "b"),
    ("toIndex", .float Binary64.infinity)]])]

theorem breaks_infinitePort [Host] : Breaks infinitePort .tooLarge := by
  have infinite : IsInfiniteAt [("from", .text "a"), ("to", .text "b"),
      ("toIndex", .float Binary64.infinity)] "toIndex" :=
    ⟨Binary64.infinity, rfl, by decide +kernel⟩
  exact .connection rfl .nil nofun rfl .nil (.port ⟨rfl, rfl, rfl⟩ (.inr ⟨0, rfl, infinite⟩))

/-- The text of such a diagram, in which the port is too large for a double. -/
def infinitePortText : String :=
  "\x7b\"connections\": [\x7b\"from\": \"a\", \"to\": \"b\", \"toIndex\": 1e400\x7d]\x7d"

def infinitePortFile : Files := .single "d.json" infinitePortText

open Host.Usual

theorem readValue_infinitePortFile : readValue infinitePortFile "d.json" = .ok infinitePort := by
  have read : infinitePortFile.read "d.json" = .ok infinitePortText :=
    Files.isPlain_json.read_single _
  refine readValue_of_read (by decide +kernel) read ?_ (by decide +kernel)
  exact Text.unifyBreaks_of_not_mem (by decide +kernel)

/-- Neither reading the diagram nor loading the file gives a diagram or refuses it. -/
theorem not_refused_infinitePort :
    (¬ ((∃ diagram, (outcome (ofValue infinitePort) []).1 = .ok diagram) ∨
      ∃ cause, (outcome (ofValue infinitePort) []).1 = .error (.format cause))) ∧
    ¬ ((∃ diagram, (outcome (load infinitePortFile "d.json") []).1 = .ok diagram) ∨
      ∃ cause, (outcome (load infinitePortFile "d.json") []).1 = .error (.problem cause)) := by
  have fault := (ofValue_eq_fault_iff infinitePort [] .tooLarge).mpr breaks_infinitePort
  have loadFault := (load_eq_fault_iff infinitePortFile "d.json" [] .tooLarge).mpr
    (.value readValue_infinitePortFile breaks_infinitePort)
  exact ⟨by simp [fault], by simp [loadFault]⟩

end Diagram

end SignalFlow
