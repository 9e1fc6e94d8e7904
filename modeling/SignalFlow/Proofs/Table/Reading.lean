import SignalFlow.Engine.Table
import SignalFlow.Proofs.InputRows
import SignalFlow.Proofs.WrittenFiles

/-! # Reading tables

A table with a column of times and without overlong cells can be read (`Table.IsReadable`). If the
columns that are kept differ, its input series has one value in each of them for every row below the
header (`Table.completes_series`), whatever the header is and however short or long the rows are. If
all columns are kept and the header repeats one, each row fills this column several times, and the
columns do not fit their times (`Table.load_ends`).
-/

namespace SignalFlow

namespace Table

variable {text timeName : String} {names : Option (List String)} {before : List Notice}

/-! ## Tables -/

/-- The names of the columns. -/
def header (text : String) : List String := (Csv.rows text).headD []

/-- The rows below the header, without those that are blank. -/
def dataRows (text : String) : List (List String) := (Csv.rows text).tail.filter (!·.isEmpty)

/-- The columns to keep, by default all but the column of times. -/
def keptNames (text timeName : String) (names : Option (List String)) : List String :=
  names.getD ((header text).filter (· != timeName))

/-- A table has a column of times, and none of its cells is too long. -/
structure IsReadable (text timeName : String) : Prop where
  times : timeColumn? (header text) = some timeName
  header_fits : Csv.fits (header text) = true
  rows_fit : ∀ row ∈ dataRows text, Csv.fits row = true

/-- The times of a table. -/
def times (text timeName : String) : List Float :=
  (dataRows text).map fun row => cell (cellUnder (header text) row timeName)

/-- The cause for which the making of a series breaks off becomes a cause of reading. -/
theorem outcome_made (made : Noted Fault (InputSeries Float)) (before : List Notice) :
    outcome (ExceptT.mk do
        match ← made.run with
        | .ok series => return .ok series
        | .error cause => return .error (.fault cause) : Noted InputError (InputSeries Float)) before =
      match outcome made before with
      | (.ok series, after) => (.ok series, after)
      | (.error cause, after) => (.error (.fault cause), after) := by
  change (match outcome made before with
    | (value, after) => ((match value with
      | .ok series => pure (.ok series)
      | .error cause => pure (.error (.fault cause)) :
        StateM (List Notice) (Except InputError (InputSeries Float)))).run after) = _
  rcases outcome made before with ⟨cause | series, after⟩ <;> rfl

/-- How reading a table ends: with what is wrong with it, or as making the series of its columns. -/
theorem outcome_series (text : String) (names : Option (List String)) (before : List Notice) :
    outcome (series text names) before =
      if Csv.fits (header text) then
        match timeColumn? (header text) with
        | some timeName =>
            if (dataRows text).all Csv.fits then
              match outcome (InputSeries.make (times text timeName)
                (columns (header text) (dataRows text) (keptNames text timeName names))) before with
              | (.ok series, after) => (.ok series, after)
              | (.error cause, after) => (.error (.fault cause), after)
            else (.error (.problem .malformed), before)
        | none => (.error (.problem .noTimes), before)
      else (.error (.problem .malformed), before) := by
  unfold series times keptNames dataRows header
  dsimp only
  generalize (Csv.rows text).headD [] = header
  generalize (Csv.rows text).tail.filter (!·.isEmpty) = rows
  by_cases headerFits : Csv.fits header = true
  · rw [if_pos headerFits, if_pos headerFits]
    rcases timeColumn? header with _ | timeName
    · rfl
    · dsimp only
      by_cases rowsFit : rows.all Csv.fits = true
      · rw [if_pos rowsFit, if_pos rowsFit]
        exact outcome_made _ _
      · rw [if_neg rowsFit, if_neg rowsFit]
        rfl
  · rw [if_neg headerFits, if_neg headerFits]
    rfl

/-! ## Columns -/

section Columns

variable {rows : List (List String)} {columnNames wanted : List String}
  {column : String × List Float}

theorem names_columns (columnNames : List String) (rows : List (List String))
    (wanted : List String) : (columns columnNames rows wanted).map (·.1) = wanted.eraseDups := by
  rw [columns, List.map_map]
  exact List.map_id _

/-- A column has as many values for each row as it is kept times. -/
theorem length_of_mem_columns (member : column ∈ columns columnNames rows wanted) :
    column.1 ∈ wanted ∧ column.2.length = rows.length * wanted.count column.1 := by
  obtain ⟨name, listed, rfl⟩ := List.mem_map.mp member
  refine ⟨List.mem_eraseDups.mp listed, ?_⟩
  simp [List.length_flatMap]

/-- The columns fit a list with one time for each row unless one of them is kept several times. -/
theorem columns_fit_iff (columnNames : List String) (rows : List (List String))
    (wanted : List String) :
    (∀ column ∈ columns columnNames rows wanted, column.2.length = rows.length) ↔
      rows = [] ∨ wanted.Nodup := by
  constructor
  · intro fits
    by_cases empty : rows = []
    · exact .inl empty
    · refine .inr (List.nodup_iff_count_le_one.mpr fun name => ?_)
      by_cases listed : name ∈ wanted
      · obtain ⟨column, member, rfl⟩ : ∃ column ∈ columns columnNames rows wanted,
            column.1 = name := by
          apply List.mem_map.mp
          rw [names_columns]
          exact List.mem_eraseDups.mpr listed
        have length_eq := (length_of_mem_columns member).2
        rw [fits column member] at length_eq
        exact Nat.le_of_eq (Nat.eq_of_mul_eq_mul_left (List.length_pos_of_ne_nil empty)
          (length_eq.symm.trans (Nat.mul_one _).symm))
      · rw [List.count_eq_zero_of_not_mem listed]
        exact Nat.zero_le 1
  · rintro (rfl | distinct) column member
    · simpa using (length_of_mem_columns member).2
    · obtain ⟨listed, length_eq⟩ := length_of_mem_columns member
      rw [length_eq, List.count_eq_one_of_mem distinct listed, Nat.mul_one]

end Columns

/-! ## Series -/

/-- The series of the columns of a table that are kept. -/
def seriesOf (text timeName : String) (names : Option (List String)) : InputSeries Float :=
  ⟨(times text timeName).toArray,
    (columns (header text) (dataRows text) (keptNames text timeName names)).map
      fun column => (column.1, column.2.toArray)⟩

theorem length_times (text timeName : String) :
    (times text timeName).length = (dataRows text).length := List.length_map _

/-- A series has a time for each row of a table, and in each of the columns that are kept one value
for each row. -/
structure IsFilled (series : InputSeries Float) (text timeName : String)
    (names : Option (List String)) : Prop where
  names_eq : series.names = (keptNames text timeName names).eraseDups
  times_size : series.times.size = (dataRows text).length
  column_size : ∀ column ∈ series.columns, column.2.size = (dataRows text).length

/-- If the columns that are kept differ, or there are no rows, the series has one value in each
column for every row. -/
theorem isFilled_seriesOf (distinct : dataRows text = [] ∨ (keptNames text timeName names).Nodup) :
    IsFilled (seriesOf text timeName names) text timeName names where
  names_eq := by
    rw [InputSeries.names, seriesOf, List.map_map]
    exact names_columns _ _ _
  times_size := by rw [seriesOf, List.size_toArray, length_times]
  column_size := by
    intro column member
    obtain ⟨kept, listed, rfl⟩ := List.mem_map.mp member
    rw [List.size_toArray]
    exact (columns_fit_iff _ _ _).mpr distinct kept listed

/-- A table that cannot be read is refused. -/
theorem exists_problem (unreadable : ¬ ∃ timeName, IsReadable text timeName)
    (names : Option (List String)) (before : List Notice) :
    ∃ problem, outcome (series text names) before = (.error (.problem problem), before) := by
  rw [outcome_series]
  by_cases headerFits : Csv.fits (header text) = true
  · rw [if_pos headerFits]
    rcases timed : timeColumn? (header text) with _ | timeName
    · exact ⟨.noTimes, rfl⟩
    · have rowsUnfit : ¬ (dataRows text).all Csv.fits = true := fun rowsFit =>
        unreadable ⟨timeName, timed, headerFits, List.all_eq_true.mp rowsFit⟩
      exact ⟨.malformed, if_neg rowsUnfit⟩
  · exact ⟨.malformed, if_neg headerFits⟩

/-- Reading a table that can be read is making the series of its columns. -/
theorem outcome_series_of_isReadable (readable : IsReadable text timeName)
    (names : Option (List String)) (before : List Notice) :
    outcome (series text names) before =
      match outcome (InputSeries.make (times text timeName)
        (columns (header text) (dataRows text) (keptNames text timeName names))) before with
      | (.ok series, after) => (.ok series, after)
      | (.error cause, after) => (.error (.fault cause), after) := by
  rw [outcome_series, if_pos readable.header_fits, readable.times]
  exact if_pos (List.all_eq_true.mpr readable.rows_fit)

/-- A table that can be read gives the series of its columns, if those that are kept differ or there
are no rows. -/
theorem exists_completes_series (readable : IsReadable text timeName)
    (distinct : dataRows text = [] ∨ (keptNames text timeName names).Nodup)
    (before : List Notice) :
    ∃ after, Completes (series text names) before (seriesOf text timeName names) after := by
  have fits := (columns_fit_iff (header text) _ _).mpr distinct
  rw [← length_times text timeName] at fits
  obtain ⟨after, makes⟩ : ∃ after, Completes (InputSeries.make (times text timeName)
      (columns (header text) (dataRows text) (keptNames text timeName names))) before
      (seriesOf text timeName names) after :=
    ⟨_, InputSeries.completes_make_iff.mpr ⟨fits, rfl, rfl⟩⟩
  refine ⟨after, ?_⟩
  rw [Completes, outcome_series_of_isReadable readable, makes]

/-- If there are rows and a column is kept several times, it has several values for each row. -/
theorem exists_columnLength (readable : IsReadable text timeName) (names : Option (List String))
    (nonempty : dataRows text ≠ []) (repeated : ¬ (keptNames text timeName names).Nodup)
    (before : List Notice) :
    ∃ name, 2 ≤ (keptNames text timeName names).count name ∧
      outcome (series text names) before =
        (.error (.fault (.columnLength name
          ((dataRows text).length * (keptNames text timeName names).count name)
          (dataRows text).length)), before) := by
  have misfit := (columns_fit_iff (header text) _ _).not.mpr (not_or.mpr ⟨nonempty, repeated⟩)
  rw [← length_times text timeName] at misfit
  obtain ⟨column, member, differs, ended⟩ := InputSeries.exists_outcome_make misfit before
  obtain ⟨kept, length_eq⟩ := length_of_mem_columns member
  rw [length_times, length_eq] at differs ended
  refine ⟨column.1, ?_, ?_⟩
  · have positive := List.count_pos_iff.mpr kept
    have notOnce : (keptNames text timeName names).count column.1 ≠ 1 := fun once =>
      differs (by rw [once, Nat.mul_one])
    omega
  · rw [outcome_series_of_isReadable readable, ended]

/-- All columns of a table are kept, and its header repeats one, besides that of the times, above some
rows. -/
def Overfills (text : String) (names : Option (List String)) : Prop :=
  names = none ∧ dataRows text ≠ [] ∧
    ∃ timeName, IsReadable text timeName ∧ ¬ ((header text).filter (· != timeName)).Nodup

/-- **How loading an input series ends**, whatever the text of the file is, for all columns or for
names that differ. Unless all columns are kept and the header repeats one, it ends with a problem of
the file, or with a series that has one value in each column for every row. If the header does repeat
one, the column is longer than the list of times, and loading breaks off with that. -/
theorem load_ends (files : Files) (path : String) (names : Option (List String))
    (distinct : ∀ kept, names = some kept → kept.Nodup) (before : List Notice) :
    ((¬ ∃ text, files.read path = .ok text ∧ Overfills text names) →
      (∃ problem, outcome (load files path names) before = (.error (.problem problem), before)) ∨
      ∃ text timeName made after, files.read path = .ok text ∧
        Completes (load files path names) before made after ∧ IsFilled made text timeName names) ∧
    ∀ text, files.read path = .ok text → Overfills text names →
      ∃ name values, (dataRows text).length < values ∧ outcome (load files path names) before =
        (.error (.fault (.columnLength name values (dataRows text).length)), before) := by
  unfold load
  rcases files.read path with problem | text
  · refine ⟨fun _ => .inl ⟨.unreadable, rfl⟩, fun text absent => ?_⟩
    cases absent
  · constructor
    · intro single
      by_cases readable : ∃ timeName, IsReadable text timeName
      · obtain ⟨timeName, readable⟩ := readable
        have fills : dataRows text = [] ∨ (keptNames text timeName names).Nodup := by
          rcases names with _ | kept
          · by_contra overfills
            obtain ⟨nonempty, repeated⟩ := not_or.mp overfills
            exact single ⟨text, rfl, rfl, nonempty, timeName, readable, repeated⟩
          · exact .inr (distinct kept rfl)
        obtain ⟨after, completes⟩ := exists_completes_series readable fills before
        exact .inr ⟨text, timeName, _, after, rfl, completes, isFilled_seriesOf fills⟩
      · exact .inl (exists_problem readable names before)
    · rintro _ ⟨⟩ ⟨rfl, nonempty, timeName, readable, repeated⟩
      obtain ⟨name, several, ended⟩ :=
        exists_columnLength readable none nonempty repeated before
      refine ⟨name, _, ?_, ended⟩
      exact (Nat.lt_mul_iff_one_lt_right (List.length_pos_of_ne_nil nonempty)).mpr several

theorem isPlain_csv : Files.IsPlain "in.csv" :=
  Files.isPlain_of_splitOn (by simp +decide [String.splitOn, String.splitOnAux]) (by decide)
    (by decide +kernel)

/-- A table with two columns that may hold the times, one of which is repeated, and with a row that
is too short and one that is too long. -/
def raggedTable : String := "time,t,t,u\n0,1,2\n\n4,5,6,x,8\n"

/-- Of this table an input that it has and one that it does not have are read. -/
theorem load_ends_raggedTable :
    ∃ made after,
      Completes (load (.single "in.csv" raggedTable) "in.csv" (some ["u", "v"])) [] made after ∧
      made.names = ["u", "v"] ∧ made.times.size = 2 ∧
        ∀ column ∈ made.columns, column.2.size = 2 := by
  have readable :
      (outcome (load (.single "in.csv" raggedTable) "in.csv" (some ["u", "v"])) []).1.isOk := by
    rw [load, isPlain_csv.read_single]
    decide +kernel
  have rows : (dataRows raggedTable).length = 2 := by decide +kernel
  obtain ⟨ends, -⟩ := load_ends (.single "in.csv" raggedTable) "in.csv" (some ["u", "v"])
    (fun kept given => by cases given; decide) []
  obtain ⟨problem, ended⟩ | ⟨text, timeName, made, after, present, completes, filled⟩ :=
    ends fun ⟨text, present, all, rest⟩ => by cases all
  · rw [ended] at readable
    cases readable
  · obtain rfl : raggedTable = text :=
      Except.ok.inj ((isPlain_csv.read_single raggedTable).symm.trans present)
    obtain ⟨names_eq, times_size, column_size⟩ := filled
    rw [rows] at times_size column_size
    exact ⟨made, after, completes, names_eq, times_size, column_size⟩

/-- A header that repeats a column, above one row. -/
def repeatedTable : String := "t,u,u\n0,1,2\n"

/-- The repeated column gets two values for the row, which breaks the reading off. -/
theorem not_isFilled_repeatedTable :
    (dataRows repeatedTable).length = 1 ∧
      outcome (load (.single "in.csv" repeatedTable) "in.csv" none) [] =
        (.error (.fault (.columnLength "u" 2 1)), []) := by
  have header_eq : header repeatedTable = ["t", "u", "u"] := by decide +kernel
  have rows_eq : dataRows repeatedTable = [["0", "1", "2"]] := by decide +kernel
  have readable : IsReadable repeatedTable "t" := by
    refine ⟨?_, ?_, ?_⟩
    · rw [header_eq]
      decide
    · rw [header_eq]
      decide
    · rw [rows_eq]
      decide
  refine ⟨by rw [rows_eq]; rfl, ?_⟩
  have kept : keptNames repeatedTable "t" none = ["u", "u"] := by
    rw [keptNames, header_eq]
    decide
  obtain ⟨name, several, ended⟩ :=
    exists_columnLength readable none (by simp [rows_eq]) (by simp [kept]) []
  obtain rfl : name = "u" := by
    by_contra other
    simp [kept, Ne.symm other] at several
  rw [load, isPlain_csv.read_single]
  rw [kept, rows_eq] at ended
  exact ended

end Table

end SignalFlow
