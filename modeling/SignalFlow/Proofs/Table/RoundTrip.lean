import SignalFlow.Host.Usual
import SignalFlow.Proofs.Code.Containment
import SignalFlow.Proofs.Doubles.Places
import SignalFlow.Proofs.LabelResolution
import SignalFlow.Proofs.RunLength
import SignalFlow.Proofs.Table.Cells
import SignalFlow.Proofs.Table.Reading

/-! # Tables read back

A table of series that is written can be read again (`Table.exists_completes_series_text`): it has the
same columns and a row for each time, and every number is read as what six places of it denote. The
outputs of a run make up such a table unless one of them has the name of the times, or a name that is
too long for a cell (`Engine.rereads_of_run`).
-/

namespace SignalFlow

namespace Table

/-! ## Writing -/

/-- Series that can be written over some times and read again: each has a value for each time, under a
name of its own, other than that of the times, that a cell can hold. -/
structure IsWritable (times : List Float) (columns : List (String × List Float)) : Prop where
  length_eq {column : String × List Float} : column ∈ columns → column.2.length = times.length
  distinct : (columns.map (·.1)).Nodup
  untimed : "t" ∉ columns.map (·.1)
  kept {column : String × List Float} : column ∈ columns → Csv.IsKept column.1
  fits {column : String × List Float} : column ∈ columns → column.1.length ≤ Csv.cellLimit

/-- The row of a time. -/
def writtenRow (columns : List (String × List Float)) (timed : Float × Nat) : List String :=
  number timed.1 :: columns.map fun column => number (column.2.getD timed.2 0.0)

/-- The rows of some times. -/
def writtenRows (times : List Float) (columns : List (String × List Float)) : List (List String) :=
  times.zipIdx.map (writtenRow columns)

theorem rowsFrom_eq {columns : List (String × List Float)} {times : List Float} {tick : Nat}
    (long : ∀ column ∈ columns, tick + times.length ≤ column.2.length) :
    rowsFrom columns tick times = .ok ((times.zipIdx tick).map (writtenRow columns)) := by
  induction times generalizing tick with
  | nil => rfl
  | cons time rest ih =>
      simp only [List.length_cons] at long
      have others := @ih (tick + 1) fun column member => by
        have := long column member
        omega
      refine bind_eq_ok_iff.mpr ⟨columns.map fun column => column.2.getD tick 0.0, ?_,
        bind_eq_ok_iff.mpr ⟨_, others, ?_⟩⟩
      · rw [mapM_eq_ok_iff, List.forall₂_map_right_iff]
        refine List.forall₂_same.mpr fun column member => ?_
        have inside : tick < column.2.length := by
          have := long column member
          omega
        simp [inside]
      · simp [writtenRow, Function.comp_def, pure, Except.pure]

/-- The rows of a table: its header, and one row for each time. -/
def written (times : List Float) (columns : List (String × List Float)) : List (List String) :=
  ("t" :: columns.map (·.1)) :: writtenRows times columns

section

variable {times : List Float} {columns : List (String × List Float)}
  (writable : IsWritable times columns)
include writable

/-- Writing does not break off. -/
theorem text_eq : text times columns = .ok (String.join ((written times columns).map Csv.line)) := by
  have rows := @rowsFrom_eq columns times 0 fun column member => by
    rw [writable.length_eq member, Nat.zero_add]
  rw [text, rows]
  rfl

/-- Every cell of a written table is kept, and none is too long. -/
theorem cells_written {row : List String} (listed : row ∈ written times columns) {cell : String}
    (member : cell ∈ row) : Csv.IsKept cell ∧ cell.length ≤ Csv.cellLimit := by
  have numbers (x : Float) : Csv.IsKept (number x) ∧ (number x).length ≤ Csv.cellLimit := by
    refine ⟨fun returns => ?_, (Decimal.length_fixed_six_le x).trans (by decide)⟩
    exact absurd (Decimal.isVisible_fixed_six x _ returns).1 (by decide)
  rcases List.mem_cons.mp listed with rfl | below
  · rcases List.mem_cons.mp member with rfl | named
    · exact ⟨fun returns => absurd returns (by decide), by decide⟩
    · obtain ⟨column, among, rfl⟩ := List.mem_map.mp named
      exact ⟨writable.kept among, writable.fits among⟩
  · obtain ⟨timed, -, rfl⟩ := List.mem_map.mp below
    rcases List.mem_cons.mp member with rfl | value
    · exact numbers timed.1
    · obtain ⟨column, -, rfl⟩ := List.mem_map.mp value
      exact numbers _

/-- The rows are read as they have been written. -/
theorem rows_text : Csv.rows (String.join ((written times columns).map Csv.line)) =
    written times columns := by
  refine Csv.rows_join_line ?_ fun row listed cell member =>
    (cells_written writable listed member).1
  intro row listed
  rcases List.mem_cons.mp listed with rfl | below
  · exact List.cons_ne_nil _ _
  · obtain ⟨timed, -, rfl⟩ := List.mem_map.mp below
    exact List.cons_ne_nil _ _

end

/-! ## Reading -/

/-- In a table whose columns differ the cell under a name is the one of its column. -/
theorem cellUnder_of_mem {header row : List String} (distinct : header.Nodup)
    (length_eq : row.length = header.length) {name cell : String}
    (member : (name, cell) ∈ header.zip row) : cellUnder header row name = some cell := by
  have padded : row.map some ++ List.replicate (header.length - row.length) none =
      row.map some := by
    rw [length_eq, Nat.sub_self, List.replicate_zero, List.append_nil]
  have names : (header.zip (row.map some)).map (·.1) = header := by
    rw [← List.unzip_fst, List.unzip_zip_left (by rw [List.length_map, length_eq])]
  have place : (name, some cell) ∈ header.zip (row.map some) := by
    rw [List.zip_map_right]
    exact List.mem_map.mpr ⟨(name, cell), member, rfl⟩
  unfold cellUnder
  dsimp only
  rw [padded]
  have found : (name, some cell) ∈ (header.zip (row.map some)).filter (·.1 == name) :=
    List.mem_filter.mpr ⟨place, beq_self_eq_true name⟩
  have nonempty := List.ne_nil_of_mem found
  have last := List.mem_filter.mp (List.getLast_mem nonempty)
  have only : ((header.zip (row.map some)).filter (·.1 == name)).getLast nonempty =
      (name, some cell) :=
    List.inj_on_of_nodup_map (names.symm ▸ distinct) last.1 place (beq_iff_eq.mp last.2)
  rw [List.getLast?_eq_some_getLast nonempty, only]
  rfl

/-- The cell of a value holds what six places of it denote. -/
theorem cell_number (x : Float) : cell (some (number x)) = Binary64.sixPlaces x := by
  rw [cell, number, Number.readFloat?_fixed_six, Option.getD_some]

/-- The series of a table that has been written: what six places of the times and of the values
denote. -/
def reread (times : List Float) (columns : List (String × List Float)) : InputSeries Float :=
  ⟨(times.map Binary64.sixPlaces).toArray,
    columns.map fun column => (column.1, (column.2.map Binary64.sixPlaces).toArray)⟩

section

variable {times : List Float} {columns : List (String × List Float)}
  (writable : IsWritable times columns)
include writable

theorem cellUnder_writtenRow (timed : Float × Nat) {name cell : String}
    (member : (name, cell) ∈ ("t", number timed.1) ::
      columns.map fun column => (column.1, number (column.2.getD timed.2 0.0))) :
    cellUnder ("t" :: columns.map (·.1)) (writtenRow columns timed) name = some cell := by
  apply cellUnder_of_mem (List.nodup_cons.mpr ⟨writable.untimed, writable.distinct⟩)
  · simp [writtenRow]
  · rwa [writtenRow, List.zip_cons_cons, List.zip_map']

theorem header_text : header (String.join ((written times columns).map Csv.line)) =
    "t" :: columns.map (·.1) := by
  rw [header, rows_text writable]
  rfl

theorem dataRows_text : dataRows (String.join ((written times columns).map Csv.line)) =
    writtenRows times columns := by
  rw [dataRows, rows_text writable]
  refine List.filter_eq_self.mpr fun row listed => ?_
  obtain ⟨timed, -, rfl⟩ := List.mem_map.mp listed
  rfl

theorem isReadable_text : IsReadable (String.join ((written times columns).map Csv.line)) "t" where
  times := by
    rw [header_text writable]
    simp [timeColumn?, timeColumns]
  header_fits := by
    rw [header_text writable]
    exact List.all_eq_true.mpr fun cell member =>
      decide_eq_true (cells_written writable List.mem_cons_self member).2
  rows_fit := by
    intro row listed
    rw [dataRows_text writable] at listed
    exact List.all_eq_true.mpr fun cell member =>
      decide_eq_true (cells_written writable (List.mem_cons_of_mem _ listed) member).2

theorem keptNames_text : keptNames (String.join ((written times columns).map Csv.line)) "t" none =
    columns.map (·.1) := by
  rw [keptNames, header_text writable, Option.getD_none, List.filter_cons_of_neg (by simp)]
  refine List.filter_eq_self.mpr fun name member => ?_
  rw [bne_iff_ne]
  rintro rfl
  exact writable.untimed member

/-- The values of a column are read as what six places of them denote. -/
theorem values_writtenRows {column : String × List Float} (listed : column ∈ columns) :
    (writtenRows times columns).map
        (fun row => cell (cellUnder ("t" :: columns.map (·.1)) row column.1)) =
      column.2.map Binary64.sixPlaces := by
  have length_eq := writable.length_eq listed
  refine List.ext_getElem (by simp [writtenRows, length_eq]) fun tick inside other => ?_
  have inColumn : tick < column.2.length := by simpa using other
  simp only [writtenRows, List.getElem_map, List.getElem_zipIdx, Nat.zero_add]
  rw [cellUnder_writtenRow writable _ (List.mem_cons_of_mem _ (List.mem_map_of_mem listed)),
    cell_number, List.getD_eq_getElem _ _ inColumn]

/-- The times are read as what six places of them denote. -/
theorem times_writtenRows : (writtenRows times columns).map
    (fun row => cell (cellUnder ("t" :: columns.map (·.1)) row "t")) =
      times.map Binary64.sixPlaces := by
  refine List.ext_getElem (by simp [writtenRows]) fun tick inside other => ?_
  simp only [writtenRows, List.getElem_map, List.getElem_zipIdx]
  rw [cellUnder_writtenRow writable _ List.mem_cons_self, cell_number]

/-- **A table that is written is read again**: it has the same columns, a row for each time, and
every number is what six places of it denote. -/
theorem exists_completes_series_text (before : List Notice) :
    ∃ after, Completes (series (String.join ((written times columns).map Csv.line)) none) before
      (reread times columns) after := by
  obtain ⟨after, completes⟩ := exists_completes_series (isReadable_text writable)
    (.inr (keptNames_text writable ▸ writable.distinct)) before
  refine ⟨after, ?_⟩
  have same : seriesOf (String.join ((written times columns).map Csv.line)) "t" none =
      reread times columns := by
    rw [seriesOf, reread, Table.times, Table.columns, keptNames_text writable, header_text writable,
      dataRows_text writable, eraseDups_of_nodup writable.distinct, times_writtenRows writable,
      List.map_map, List.map_map]
    congr 1
    refine List.map_congr_left fun column listed => ?_
    have once := List.count_eq_one_of_mem writable.distinct (List.mem_map_of_mem listed)
    have single (read : List String → Float) : (writtenRows times columns).flatMap
        (fun row => List.replicate 1 (read row)) = (writtenRows times columns).map read :=
      List.map_eq_flatMap.symm
    simp only [Function.comp_apply]
    rw [once, single, values_writtenRows writable listed]
  rwa [same] at completes

end

end Table

/-! ## Results -/

section Result

variable {diagram : Diagram String} {defaultDt defaultRuntime : Setting Float}
  {before after : List Notice}

theorem Compiled.nodup_outputNames [Host] {compiled : Compiled Float}
    (compiles : Completes (ofDiagram diagram defaultDt defaultRuntime) before compiled after) :
    compiled.outputNames.Nodup := by
  obtain ⟨constants, dt, runtime, payloads, resolved, rfl⟩ :=
    completes_ofDiagram_iff.mp ⟨after, compiles⟩
  rw [outputNames_assemble resolved.payloads_eq.length_eq.symm]
  exact nodup_eraseDups _

theorem Csv.isKept_of_isWord {name : String} (word : IsWord name) : IsKept name := by
  intro returns
  have inside := word _ returns
  exact absurd inside (by decide)

/-- The outputs of a simulation can be written and read again, but for an output with the name of the
times or with an overlong one. -/
theorem Table.isWritable_of_simulate [Host] {compiled : Compiled Float} {limit : Nat}
    {given : List (List (String × Float))} {ticks : List (TickResult Float × RunState Float)}
    (compiles : Completes (Compiled.ofDiagram diagram defaultDt defaultRuntime) before compiled after)
    (simulated : compiled.simulate limit given = .ok ticks) (untimed : "t" ∉ compiled.outputNames)
    (fits : ∀ name ∈ compiled.outputNames, name.length ≤ Csv.cellLimit) :
    IsWritable (RunResult.ofTicks compiled (ticks.map (·.1))).times
      (RunResult.ofTicks compiled (ticks.map (·.1))).outputs := by
  have names : (RunResult.ofTicks compiled (ticks.map (·.1))).outputs.map (·.1) =
      compiled.outputNames := by
    rw [RunResult.ofTicks, List.map_map]
    exact List.map_id _
  have listed {column : String × List Float}
      (member : column ∈ (RunResult.ofTicks compiled (ticks.map (·.1))).outputs) :
      column.1 ∈ compiled.outputNames := names ▸ List.mem_map_of_mem member
  refine ⟨fun member => ?_, names ▸ Compiled.nodup_outputNames compiles, names ▸ untimed,
    fun member => ?_, fun member => fits _ (listed member)⟩
  · have wellFormed := Compiled.wellFormed_of_completes compiles
    rw [Compiled.length_of_mem_outputs wellFormed simulated member]
    simp [RunResult.ofTicks]
  · exact Csv.isKept_of_isWord (Code.isWord_of_mem_outputNames compiles (listed member))

/-- **The outputs of every run can be written and read again**, unless one has the name of the times
or a name too long for a cell. What is read has the names of the outputs in order and a row for each
tick, and every time and value is read as the double that six places of it denote. -/
theorem Engine.rereads_of_run [Host] {engine left : Engine Float} {duration : Option Float}
    {series : Option (InputSeries Float)} {result : RunResult Float} {notices told : List Notice}
    (compiles : Completes (Compiled.ofDiagram diagram defaultDt defaultRuntime) before
      engine.compiled after)
    (ended : ending (run duration series) engine notices = ((.ok result, left), told))
    (untimed : "t" ∉ engine.compiled.outputNames)
    (fits : ∀ name ∈ engine.compiled.outputNames, name.length ≤ Csv.cellLimit)
    (heard : List Notice) :
    ∃ ticks text made later,
      engine.compiled.simulate engine.limit
        (result.times.map (InputSeries.inputsAt series)) = .ok ticks ∧
      Table.outputs result.times result.outputs none = .ok text ∧
      Completes (Table.series text none) heard made later ∧
      made.names = engine.compiled.outputNames ∧
      made.times.size = ticks.length ∧
      (∀ column ∈ made.columns, column.2.size = ticks.length) ∧
      made = Table.reread result.times result.outputs ∧
      ∀ x, Number.readFloat? (Table.number x) = some (Binary64.sixPlaces x) := by
  have wellFormed := Compiled.wellFormed_of_completes compiles
  obtain ⟨ticks, simulated, rfl⟩ := exists_simulate_of_run wellFormed ended
  have writable := Table.isWritable_of_simulate compiles simulated untimed fits
  obtain ⟨later, reads⟩ := Table.exists_completes_series_text writable heard
  refine ⟨ticks, _, _, later, simulated, Table.text_eq writable, reads, ?_, ?_, ?_, rfl,
    Number.readFloat?_fixed_six⟩
  · rw [InputSeries.names, Table.reread, List.map_map, RunResult.ofTicks, List.map_map]
    exact List.map_id _
  · simp [Table.reread, RunResult.ofTicks]
  · intro column member
    obtain ⟨output, listed, rfl⟩ := List.mem_map.mp member
    simpa using Compiled.length_of_mem_outputs wellFormed simulated listed

end Result

/-- A constant with seven places. -/
def preciseDiagram : Diagram String where
  blocks := [⟨"c", "constant", [("value", .float 0.1234567)]⟩,
    ⟨"y", "labelSink", [("name", .text "y")]⟩]
  connections := [⟨"c", "y", 0, 0⟩]
  vars := []
  runtime := .null
  dt := .int 1
  nextId := 1

open Host.Usual

/-- Of the seven places six are read again, in both ticks. -/
theorem Engine.rereads_of_run_preciseDiagram :
    ∃ (engine : Engine Float) (result : RunResult Float) (text : String)
      (made : InputSeries Float) (later : List Notice),
      (ending (run (some 1.0) none) engine []).1.1 = .ok result ∧
      result.outputs = [("y", [0.1234567, 0.1234567])] ∧
      Table.outputs result.times result.outputs none = .ok text ∧
      Completes (Table.series text none) [] made later ∧
      made.times = #[0.0, 1.0] ∧ made.columns = [("y", #[0.123457, 0.123457])] := by
  let engineOf (compiled : Compiled Float) : Engine Float :=
    ⟨compiled, 50, .text "ignore", none, false⟩
  have runs : (outcome (Compiled.ofDiagram preciseDiagram (Compiled.standardDt : Setting Float)
      Compiled.standardRuntime) []).1.toOption.any (fun compiled =>
        (compiled.outputNames == ["y"]) &&
        (ending (run (some 1.0) none) (engineOf compiled) []).1.1.toOption.any fun result =>
          decide (result.times = [0.0, 1.0]) &&
            decide (result.outputs = [("y", [0.1234567, 0.1234567])])) = true := by
    decide +kernel
  obtain ⟨compiled, after, compiles, runs⟩ := exists_completes_of_any runs
  rw [Bool.and_eq_true, beq_iff_eq] at runs
  obtain ⟨names, runs⟩ := runs
  obtain ⟨result, ended, shows⟩ := exists_of_toOption_any runs
  rw [Bool.and_eq_true, decide_eq_true_eq, decide_eq_true_eq] at shows
  obtain ⟨times, outputs⟩ := shows
  have runsSo : ending (run (some 1.0) none) (engineOf compiled) [] = ((.ok result, _), _) :=
    Prod.ext (Prod.ext ended rfl) rfl
  have untimed : "t" ∉ (engineOf compiled).compiled.outputNames := by
    rw [show (engineOf compiled).compiled.outputNames = ["y"] from names]
    decide
  have fits : ∀ name ∈ (engineOf compiled).compiled.outputNames,
      name.length ≤ Csv.cellLimit := by
    rw [show (engineOf compiled).compiled.outputNames = ["y"] from names]
    decide
  obtain ⟨-, text, made, later, -, writes, reads, -, -, -, same, -⟩ :=
    rereads_of_run compiles runsSo untimed fits []
  rw [times, outputs] at same
  refine ⟨engineOf compiled, result, text, made, later, ended, outputs, writes, reads, ?_, ?_⟩
  · rw [same]
    decide +kernel
  · rw [same]
    decide +kernel

/-- A label sink of a name. -/
def publishedDiagram (name : String) : Diagram String where
  blocks := [⟨"y", "labelSink", [("name", .text name)]⟩]
  connections := []
  vars := []
  runtime := .null
  dt := .int 1
  nextId := 1

theorem sanitize_eq_self {name : String} (word : IsWord name) : sanitize name = name := by
  have same : (name.toList.map fun c =>
      if c.toNat < 128 && (c.isAlphanum || c == '_') then c else '_') = name.toList := by
    conv_rhs => rw [← List.map_id name.toList]
    exact List.map_congr_left fun c member => if_pos (word c member)
  rw [sanitize, same, String.ofList_toList]

theorem IsWord.isVisible {name : String} (word : IsWord name) : Text.IsVisible name.toList := by
  intro c member
  have character := word c member
  simp only [isWordCharacter, Char.isAlphanum, Char.isAlpha, Char.isUpper, Char.isLower,
    Char.isDigit, Bool.and_eq_true, Bool.or_eq_true, decide_eq_true_eq, beq_iff_eq, ge_iff_le,
    UInt32.le_iff_toNat_le] at character
  change 33 ≤ c.val.toNat ∧ c.val.toNat ≤ 126
  rcases character.2 with ((range | range) | range) | rfl
  · exact ⟨le_trans (by decide) range.1, le_trans range.2 (by decide)⟩
  · exact ⟨le_trans (by decide) range.1, le_trans range.2 (by decide)⟩
  · exact ⟨le_trans (by decide) range.1, le_trans range.2 (by decide)⟩
  · decide

/-- A label sink publishes its name, if it is a word. -/
theorem Compiled.exists_publishes [Host] {name : String} (word : IsWord name)
    (nonempty : name ≠ "") :
    ∃ compiled : Compiled Float,
      (∃ after, Completes (ofDiagram (publishedDiagram name) standardDt standardRuntime) [] compiled
        after) ∧
      compiled.outputNames = [name] ∧ compiled.dt.number = .ok 1.0 ∧
      ∃ start, RunState.create compiled = .ok start := by
  have resolved : IsResolved (publishedDiagram name) (standardDt : Setting Float) standardRuntime
      Constants.standard (.ofFloat 1.0) standardRuntime [.labelSink name] := by
    refine ⟨rfl, ?_, ?_, .cons rfl .nil⟩
    · change settingOf Constants.standard (.int 1) (standardDt : Setting Float) = _
      rfl
    · change settingOf Constants.standard .null (standardRuntime : Setting Float) = _
      rfl
  have label : labelName ⟨"y", "labelSink", [("name", .text name)]⟩ = name := by
    change sanitize (if (Text.trim name).isEmpty then Text.trim "y" else Text.trim name) = name
    rw [word.isVisible.trim_eq, if_neg (by simpa using nonempty), sanitize_eq_self word]
  refine ⟨_, completes_ofDiagram_iff.mpr ⟨_, _, _, _, resolved, rfl⟩, ?_, rfl, ?_⟩
  · rw [outputNames_assemble rfl]
    change [labelName ⟨"y", "labelSink", [("name", .text name)]⟩].eraseDups = [name]
    rw [label]
    rfl
  · obtain ⟨node, nodes_eq, payload_eq⟩ : ∃ node, (assemble (publishedDiagram name)
        Constants.standard (.ofFloat 1.0) standardRuntime
        [(.labelSink name : Payload Float)]).nodes = #[node] ∧
          node.payload = .labelSink name := ⟨_, rfl, rfl⟩
    have memories : #[node].mapM (·.payload.start) = .ok #[Memory.empty] := by
      simp only [List.mapM_toArray, List.mapM_cons, List.mapM_nil, payload_eq]
      rfl
    rw [RunState.create, nodes_eq, memories]
    exact ⟨_, rfl⟩

/-- A name of one character more than a cell may have. -/
def overlongName : String := String.ofList (List.replicate (Csv.cellLimit + 1) 'a')

theorem length_overlongName : overlongName.length = Csv.cellLimit + 1 := by
  rw [← String.length_toList, overlongName, String.toList_ofList, List.length_replicate]

theorem isWord_overlongName : IsWord overlongName := by
  intro c member
  rw [overlongName, String.toList_ofList] at member
  rw [List.eq_of_mem_replicate member]
  decide

theorem overlongName_ne {name : String} (fits : name.length ≤ Csv.cellLimit) :
    name ≠ overlongName := by
  rintro rfl
  rw [length_overlongName] at fits
  exact Nat.not_succ_le_self _ fits

/-- The header of an overlong name cannot be read. -/
theorem Table.outcome_series_overlongName (before : List Notice) :
    outcome (series (String.join ([["t", overlongName]].map Csv.line)) none) before =
      (.error (.problem .malformed), before) := by
  have rows : Csv.rows (String.join ([["t", overlongName]].map Csv.line)) =
      [["t", overlongName]] := by
    refine Csv.rows_join_line (by simp) fun row listed cell member => ?_
    rw [List.mem_singleton.mp listed, List.mem_pair] at member
    rcases member with rfl | rfl
    · exact fun returns => absurd returns (by decide)
    · exact Csv.isKept_of_isWord isWord_overlongName
  have unfit : ¬ Csv.fits ["t", overlongName] = true := by
    simp [Csv.fits, length_overlongName]
  rw [outcome_series, header, rows, List.headD_cons, if_neg unfit]

/-- What is written for a run that publishes an overlong name, before its first tick, is refused. -/
theorem Engine.not_rereads_overlongName :
    ∃ (engine : Engine Float) (after : List Notice) (result : RunResult Float) (text : String),
      Completes (Compiled.ofDiagram (publishedDiagram overlongName) Compiled.standardDt
        Compiled.standardRuntime) [] engine.compiled after ∧
      (ending (run (some (-1.0)) none) engine []).1.1 = .ok result ∧
      engine.compiled.outputNames = [overlongName] ∧ "t" ∉ engine.compiled.outputNames ∧
      result.times = [] ∧ result.outputs = [(overlongName, [])] ∧
      Table.outputs result.times result.outputs none = .ok text ∧
      outcome (Table.series text none) [] = (.error (.problem .malformed), []) := by
  obtain ⟨compiled, ⟨after, compiles⟩, names, number, start, created⟩ :=
    Compiled.exists_publishes isWord_overlongName (overlongName_ne (by decide)).symm
  have ended := @result_run _ _ ⟨compiled, 50, .text "ignore", none, false⟩ 1.0 (-1.0) _ 0
    (Compiled.wellFormed_of_completes compiles) number (fun tick before => absurd before (by omega))
    (by decide +kernel) (Nat.zero_le _) none []
  have noTicks : compiled.simulate 50 [] = .ok [] := by
    rw [Compiled.simulate, created]
    rfl
  change _ = (compiled.simulate 50 []).map _ at ended
  rw [noTicks] at ended
  have outputs : (RunResult.ofTicks compiled ([] : List (TickResult Float))).outputs =
      [(overlongName, [])] := by
    rw [RunResult.ofTicks, names]
    rfl
  refine ⟨_, after, _, _, compiles, ended, names, ?_, rfl, outputs, ?_,
    Table.outcome_series_overlongName []⟩
  · rw [names, List.mem_singleton]
    exact overlongName_ne (by decide)
  · change Table.text [] (RunResult.ofTicks compiled ([] : List (TickResult Float))).outputs = _
    rw [outputs]
    rfl

end SignalFlow
