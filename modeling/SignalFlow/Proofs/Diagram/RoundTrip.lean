import SignalFlow.Host.Usual
import SignalFlow.Proofs.Diagram.Reading
import SignalFlow.Proofs.JsonLines
import SignalFlow.Proofs.ValueEquality
import SignalFlow.Proofs.WrittenFiles

/-! # Writing and reading back

The written form of a diagram is read as the same diagram, and nothing is noted, provided that the
ids of its blocks are different and not empty (`completes_ofValue_toValue`); a diagram that was read
is such a one. Only the counter of fresh ids begins anew.
-/

namespace SignalFlow

namespace Diagram

variable {diagram : Diagram String} {value : Value} {before after log : List Notice}

/-! ## The written form -/

/-- The entry as which a block is read back. -/
def entryOf (block : Block String) : Entry := ⟨some block.id, .text block.type, block.params⟩

theorem isEntry_blockValue [Host] {block : Block String} (nonempty : block.id ≠ "") :
    IsEntry (blockValue .text block) (entryOf block) := by
  refine ⟨_, rfl, rfl, rfl, ?_⟩
  simp [explicitId, Entries.get?, Except.map, nonempty, entryOf]

theorem portAt_int {fields : List (String × Value)} {key : String} {port : Int}
    (found : Entries.get? fields key = some (.int port)) : portAt fields key = .ok port := by
  rw [portAt, found]
  by_cases zero : port = 0
  · simp [Value.isPresent, zero]
  · simp [Value.isPresent, zero, Value.toInt]

theorem isConnection_connectionValue [Host] (connection : Connection String) :
    IsConnection (connectionValue .text connection) connection :=
  ⟨_, .text connection.source, .text connection.target, ⟨rfl, rfl, rfl⟩, portAt_int rfl,
    portAt_int rfl, Value.toText_text _, Value.toText_text _⟩

/-- A setting that is not given is read as it is missing. -/
theorem get?_settings (runtime dt : Value) :
    (Entries.get? (setting "runtime" runtime ++ setting "dt" dt) "runtime").getD .null = runtime ∧
      ((Entries.get? (setting "runtime" runtime ++ setting "dt" dt) "dt").or
        (Entries.get? (setting "runtime" runtime ++ setting "dt" dt) "sampleTime")).getD .null =
          dt := by
  by_cases noRuntime : runtime = .null
  · by_cases noStep : dt = .null
    · simp [noRuntime, noStep, setting, Entries.get?]
    · simp [noRuntime, setting, Entries.get?]
  · by_cases noStep : dt = .null
    · simp [noStep, setting, Entries.get?]
    · simp [setting, Entries.get?]

theorem parts?_toValue (diagram : Diagram String) :
    parts? (diagram.toValue .text) =
      .ok ⟨diagram.blocks.map (blockValue .text), diagram.connections.map (connectionValue .text),
        diagram.vars, diagram.runtime, diagram.dt⟩ := by
  obtain ⟨runtime, dt⟩ := get?_settings diagram.runtime diagram.dt
  rw [parts?_eq_ok_iff]
  exact ⟨_, rfl, rfl, rfl, rfl, runtime.symm, dt.symm⟩

/-! ## Reading it back -/

/-- Blocks under new ids are added one after the other, and nothing is noted. -/
theorem completes_addEntries_own [Host] (reserved : List String) (blocks : List (Block String))
    (diagram : Diagram String) (nodup : (diagram.ids ++ blocks.map (·.id)).Nodup)
    (log : List Notice) :
    Completes ((blocks.map entryOf).foldlM (addEntry reserved) diagram) log
      { diagram with blocks := diagram.blocks ++ blocks } log := by
  induction blocks generalizing diagram with
  | nil =>
      rw [List.append_nil]
      exact completes_pure.mpr ⟨rfl, rfl⟩
  | cons block rest ih =>
      have free : block.id ∉ diagram.ids := by
        intro member
        exact List.disjoint_of_nodup_append nodup member (by simp)
      have others := ih (diagram.withBlock block) (by simpa [ids_withBlock] using nodup)
      rw [List.map_cons, List.foldlM_cons, completes_bind]
      refine ⟨_, log,
        completes_addEntry_own free reserved (Value.toText_text _) block.params log, ?_⟩
      simpa [withBlock] using others

theorem completes_ofValue_toValue [Host] (nodup : diagram.ids.Nodup) (nonempty : "" ∉ diagram.ids)
    (log : List Notice) :
    Completes (ofValue (diagram.toValue .text)) log { diagram with nextId := 1 } log := by
  rw [completes_ofValue_iff]
  refine ⟨_, diagram.blocks.map entryOf, diagram.connections, _, parts?_toValue diagram, ?_, ?_,
    completes_addEntries_own _ diagram.blocks _ ?_ log, ?_⟩
  · rw [List.forall₂_map_left_iff, List.forall₂_map_right_iff, List.forall₂_same]
    intro block member
    refine isEntry_blockValue fun isEmpty => nonempty ?_
    rw [← isEmpty]
    exact List.mem_map_of_mem member
  · rw [List.forall₂_map_left_iff, List.forall₂_same]
    exact fun connection _ => isConnection_connectionValue connection
  · simpa [Parts.frame, empty, ids] using nodup
  · simp [Parts.frame, empty]

/-- A diagram that was read is written and read back as it is. -/
theorem ids_of_completes [Host] (completes : Completes (ofValue value) before diagram after) :
    diagram.ids.Nodup ∧ "" ∉ diagram.ids := by
  obtain ⟨_, _, _, _, _, _, _, _, loaded, _⟩ := exists_isLoaded completes
  exact ⟨loaded.nodup, loaded.nonempty⟩

/-! ## Files -/

variable {files written : Files} {path : String}

theorem completes_load [Host] (hasValue : readValue files path = .ok value)
    (completes : Completes (ofValue value) before diagram after) :
    Completes (load files path) before diagram after := by
  rw [Completes, outcome_load_of_ok hasValue, completes]
  rfl

/-- The text of a file in JSON. -/
theorem eq_of_fileText [Host] {text : String} (isJson : isYaml path = false)
    (made : fileText path value = .ok text) : text = Json.indented 4 value := by
  rw [fileText, isJson, if_neg Bool.false_ne_true] at made
  cases checked : Json.checkWritten value with
  | error fault =>
      rw [checked] at made
      cases made
  | ok _ =>
      rw [checked] at made
      cases made
      rfl

/-- A diagram is loaded from a file as which it was saved. -/
theorem completes_load_of_save [Host] (nodup : diagram.ids.Nodup) (nonempty : "" ∉ diagram.ids)
    (isJson : isYaml path = false)
    (inverse : Json.parse (Json.indented 4 (diagram.toValue .text)) =
      .ok (diagram.toValue .text))
    (saved : diagram.save files path = .ok written) (log : List Notice) :
    Completes (load written path) log { diagram with nextId := 1 } log := by
  have wrote : files.writeDeep path (Json.indented 4 (diagram.toValue .text)) = .ok written := by
    obtain ⟨result, made, saved⟩ := bind_eq_ok_iff.mp saved
    obtain ⟨text, isText, saved⟩ := bind_eq_ok_iff.mp saved
    cases saved
    rw [mapError_eq_ok_iff] at made isText
    rw [isText, Except.toOption, Option.getD_some] at made
    rwa [← eq_of_fileText isJson isText]
  exact completes_load (readValue_of_read isJson (Files.read_of_writeDeep wrote)
    (Json.unifyBreaks_indented 4 _) inverse) (completes_ofValue_toValue nodup nonempty log)

/-- **Round trip.** A diagram whose ids are different and not empty is read back as it was written,
without a notice; writing a diagram that was read, reading it and writing it again changes nothing;
and a diagram is loaded as it was saved if its JSON text is read as what was written. -/
theorem roundTrip [Host] (diagram : Diagram String) (log : List Notice) :
    (diagram.ids.Nodup → "" ∉ diagram.ids →
      Completes (ofValue (diagram.toValue .text)) log { diagram with nextId := 1 } log) ∧
    (∀ (value : Value) (before after : List Notice),
      Completes (ofValue value) before diagram after →
        ∃ again, Completes (ofValue (diagram.toValue .text)) log again log ∧
          again.toValue .text = diagram.toValue .text) ∧
    ∀ (files written : Files) (path : String),
      diagram.ids.Nodup → "" ∉ diagram.ids → isYaml path = false →
      Json.parse (Json.indented 4 (diagram.toValue .text)) = .ok (diagram.toValue .text) →
      diagram.save files path = .ok written →
        Completes (load written path) log { diagram with nextId := 1 } log := by
  refine ⟨fun nodup nonempty => completes_ofValue_toValue nodup nonempty log, ?_, ?_⟩
  · intro value before after completes
    obtain ⟨nodup, nonempty⟩ := ids_of_completes completes
    exact ⟨_, completes_ofValue_toValue nodup nonempty log, rfl⟩
  · intro files written path nodup nonempty isJson inverse saved
    exact completes_load_of_save nodup nonempty isJson inverse saved log

/-- A diagram with a negative port, a variable and a run setting that do not count as present, and a
counter that has gone on. -/
def storedDiagram : Diagram String where
  blocks := [⟨"b7", "gain", [("gain", .int 2)]⟩]
  connections := [⟨"b7", "b1", 0, -1⟩]
  vars := [("k", .null)]
  runtime := .int 0
  dt := .null
  nextId := 9

open Host.Usual

theorem parse_storedDiagram :
    Json.parse (Json.indented 4 (storedDiagram.toValue .text)) =
      .ok (storedDiagram.toValue .text) := by
  -- The characters are found by rewriting: to decode them from the text itself takes long.
  refine Json.parse_of_toList ?characters ?same ?read
  case same =>
    simp only [storedDiagram, toValue, blockValue, connectionValue, setting, Json.indented,
      Json.indentedAt, Json.indentedItems, Json.indentedEntries, Json.leafText, Json.textLiteral,
      Json.breakLine, Value.quoted, Decimal.digitsOf, List.map, List.cons_append, List.nil_append,
      List.append_nil, String.toList_append, String.toList_ofList, String.intercalate_cons_cons,
      String.intercalate_singleton, apply_ite String.toList]
    rfl
  case read => decide +kernel

theorem roundTrip_storedDiagram :
    Completes (ofValue (storedDiagram.toValue .text)) [] { storedDiagram with nextId := 1 } [] ∧
    (∃ again, Completes (ofValue (storedDiagram.toValue .text)) [] again [] ∧
      again.toValue .text = storedDiagram.toValue .text) ∧
    ∃ written, storedDiagram.save Files.empty "d.json" = .ok written ∧
      Completes (load written "d.json") [] { storedDiagram with nextId := 1 } [] := by
  have nodup : storedDiagram.ids.Nodup := by decide
  have nonempty : "" ∉ storedDiagram.ids := by decide
  have isJson : isYaml "d.json" = false := by decide +kernel
  have saved : storedDiagram.save Files.empty "d.json" =
      .ok (.single "d.json" (Json.indented 4 (storedDiagram.toValue .text))) := by
    have text : fileText "d.json" (storedDiagram.toValue .text) =
        .ok (Json.indented 4 (storedDiagram.toValue .text)) := by
      have unhindered :
          (storedDiagram.toValue .text).obstacle? (Host.jsonTextDepth + 1) = none := by
        decide +kernel
      rw [fileText, isJson, Json.checkWritten, unhindered]
      rfl
    simp [save, text, Files.isPlain_json.writeDeep_empty, Except.mapError, Except.toOption, bind,
      Except.bind, pure, Except.pure]
  obtain ⟨reads, -, loads⟩ := roundTrip storedDiagram []
  have read := reads nodup nonempty
  exact ⟨read, (roundTrip { storedDiagram with nextId := 1 } []).2.1 _ [] [] read, _, saved,
    loads _ _ _ nodup nonempty isJson parse_storedDiagram saved⟩

end Diagram

end SignalFlow
