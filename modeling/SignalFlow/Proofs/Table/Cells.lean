import Mathlib.Data.List.Basic
import SignalFlow.Store.Csv

/-! # Rows read back

Rows that are written can be read again (`Csv.rows_join_line`): commas, quotes and line feeds in a
cell are kept by the quotes around it. Only a carriage return is not enough to put a cell in quotes,
so there it ends the row (`Csv.IsKept`).
-/

namespace SignalFlow.Csv

/-- A cell is kept when it is written and read: if it holds a carriage return then it is in quotes
for something else. -/
def IsKept (cell : String) : Prop := '\r' ∈ cell.toList → needsQuotes cell = true

/-- The quotes of a text are written twice. -/
def doubled (text : List Char) : List Char :=
  text.flatMap fun c => if c == '"' then ['"', '"'] else [c]

theorem toList_cellText_of_needsQuotes {cell : String} (needs : needsQuotes cell = true) :
    (cellText cell).toList = '"' :: (doubled cell.toList ++ ['"']) := by
  have inner : (String.join (cell.toList.map fun c => if c == '"' then "\"\"" else c.toString)).toList =
      doubled cell.toList := by
    rw [String.toList_join, List.flatMap_map, doubled]
    refine List.flatMap_congr fun c _ => ?_
    split
    · rfl
    · change (String.singleton c).toList = [c]
      exact String.toList_singleton c
  rw [cellText, if_pos needs, String.toList_append, String.toList_append, inner]
  rfl

section Reading

variable (cells : List String) (seen rest : List Char)

/-- Characters that are nothing special are read one by one. -/
theorem rowsFrom_plain {text : List Char} (solid : ∀ c ∈ text, c ∉ [',', '"', '\n', '\r']) :
    rowsFrom .plain cells seen (text ++ rest) = rowsFrom .plain cells (text.reverse ++ seen) rest := by
  induction text generalizing seen with
  | nil => rfl
  | cons c text ih =>
      obtain ⟨first, others⟩ := List.forall_mem_cons.mp solid
      have step : rowsFrom .plain cells seen (c :: (text ++ rest)) =
          rowsFrom .plain cells (c :: seen) (text ++ rest) := by
        simp at first
        simp [rowsFrom, first]
      rw [List.cons_append, step, ih _ others, List.reverse_cons, List.append_assoc]
      rfl

/-- In quotes every character is read, and two quotes as one. -/
theorem rowsFrom_quoted (text : List Char) :
    rowsFrom .quoted cells seen (doubled text ++ '"' :: rest) =
      rowsFrom .quote cells (text.reverse ++ seen) rest := by
  induction text generalizing seen with
  | nil => simp [doubled, rowsFrom]
  | cons c text ih =>
      have step : rowsFrom .quoted cells seen (doubled (c :: text) ++ '"' :: rest) =
          rowsFrom .quoted cells (c :: seen) (doubled text ++ '"' :: rest) := by
        by_cases quote : c = '"'
        · subst quote
          simp [doubled, rowsFrom]
        · simp [doubled, rowsFrom, quote]
      rw [step, ih, List.reverse_cons, List.append_assoc]
      rfl

variable {place : Place}

/-- A comma ends a cell that is not in quotes. -/
theorem rowsFrom_comma (notQuoted : place ≠ .quoted) :
    rowsFrom place cells seen (',' :: rest) = rowsFrom .cell (close seen :: cells) [] rest := by
  cases place with
  | quoted => exact absurd rfl notQuoted
  | _ => simp [rowsFrom]

/-- A line feed ends a row that has begun. -/
theorem rowsFrom_lineFeed (notQuoted : place ≠ .quoted) (begun : place ≠ .row) :
    rowsFrom place cells seen ('\n' :: rest) =
      (close seen :: cells).reverse :: rowsFrom .row [] [] rest := by
  cases place with
  | quoted => exact absurd rfl notQuoted
  | row => exact absurd rfl begun
  | _ => simp [rowsFrom]

/-- A cell is read as it has been written. Behind it the reader stands in the cell or behind its
quotes, or where it has been if nothing is written. -/
theorem exists_rowsFrom_cellText {start : Place} (starts : start = .row ∨ start = .cell)
    {cell : String} (kept : IsKept cell) :
    ∃ place, place ≠ .quoted ∧ (place = .row → start = .row ∧ cell = "") ∧
      rowsFrom start cells [] ((cellText cell).toList ++ rest) =
        rowsFrom place cells cell.toList.reverse rest := by
  by_cases needs : needsQuotes cell = true
  · refine ⟨.quote, by decide, by simp, ?_⟩
    have enters (more : List Char) :
        rowsFrom start cells [] ('"' :: more) = rowsFrom .quoted cells [] more := by
      rcases starts with rfl | rfl <;> simp [rowsFrom]
    rw [toList_cellText_of_needsQuotes needs, List.cons_append, enters, List.append_assoc,
      List.singleton_append, rowsFrom_quoted, List.append_nil]
  · have solid : ∀ c ∈ cell.toList, c ∉ [',', '"', '\n', '\r'] := by
      intro c member special
      have plain : ∀ c ∈ cell.toList, ¬ (c = ',' ∨ c = '"' ∨ c = '\n') := by
        simpa [needsQuotes, not_or, and_assoc] using needs
      have others : c = '\r' := by
        simp only [List.mem_cons, List.not_mem_nil, or_false] at special
        have := plain c member
        tauto
      exact needs (kept (others ▸ member))
    rw [cellText, if_neg needs]
    cases characters : cell.toList with
    | nil =>
        exact ⟨start, by rcases starts with rfl | rfl <;> decide,
          fun row => ⟨row, String.toList_eq_nil_iff.mp characters⟩, rfl⟩
    | cons c more =>
        rw [characters] at solid
        obtain ⟨first, others⟩ := List.forall_mem_cons.mp solid
        have enters : rowsFrom start cells [] (c :: (more ++ rest)) =
            rowsFrom .plain cells [c] (more ++ rest) := by
          simp at first
          rcases starts with rfl | rfl <;> simp [rowsFrom, first]
        refine ⟨.plain, by decide, by simp, ?_⟩
        rw [List.cons_append, enters, rowsFrom_plain _ _ _ others, List.reverse_cons]

/-- The cells of a row are read as they have been written, unless nothing is written for them. -/
theorem rowsFrom_row {start : Place} (starts : start = .row ∨ start = .cell) {row : List String}
    (kept : ∀ cell ∈ row, IsKept cell) (nonempty : row ≠ []) (notBlank : row = [""] → start = .cell) :
    rowsFrom start cells [] ((",".intercalate (row.map cellText)).toList ++ '\n' :: rest) =
      (cells.reverse ++ row) :: rowsFrom .row [] [] rest := by
  induction row generalizing cells start with
  | nil => exact absurd rfl nonempty
  | cons cell more ih =>
      obtain ⟨first, others⟩ := List.forall_mem_cons.mp kept
      cases more with
      | nil =>
          obtain ⟨place, notQuoted, blank, reads⟩ :=
            exists_rowsFrom_cellText cells ('\n' :: rest) starts first
          have begun : place ≠ .row := by
            intro row
            obtain ⟨rfl, rfl⟩ := blank row
            cases notBlank rfl
          rw [List.map_singleton, String.intercalate_singleton, reads,
            rowsFrom_lineFeed _ _ _ notQuoted begun, close, List.reverse_reverse, String.ofList_toList,
            List.reverse_cons]
      | cons next more =>
          have reads := ih (cell :: cells) (.inr rfl) others (List.cons_ne_nil _ _) fun _ => rfl
          have written : ((next :: more).map cellText) ≠ [] := List.cons_ne_nil _ _
          rw [List.map_cons, String.intercalate_cons_of_ne_nil written,
            String.toList_append, String.toList_append, List.append_assoc, List.append_assoc]
          obtain ⟨place, notQuoted, -, begins⟩ := exists_rowsFrom_cellText cells
            (",".toList ++ ((",".intercalate ((next :: more).map cellText)).toList ++ '\n' :: rest))
            starts first
          rw [begins, show ",".toList = [','] from rfl, List.singleton_append,
            rowsFrom_comma _ _ _ notQuoted, close, List.reverse_reverse, String.ofList_toList, reads,
            List.reverse_cons, List.append_assoc]
          rfl

end Reading

/-- A row is read as it has been written. -/
theorem rowsFrom_line {row : List String} (kept : ∀ cell ∈ row, IsKept cell) (nonempty : row ≠ [])
    (rest : List Char) :
    rowsFrom .row [] [] ((line row).toList ++ rest) = row :: rowsFrom .row [] [] rest := by
  by_cases blank : row = [""]
  · subst blank
    change rowsFrom .row [] [] ('"' :: '"' :: '\n' :: rest) = _
    simp [rowsFrom, close]
  · have text : line row = ",".intercalate (row.map cellText) ++ "\n" := by
      unfold line
      split
      · exact absurd rfl blank
      · rfl
    rw [text, String.toList_append, List.append_assoc]
    exact rowsFrom_row [] rest (.inl rfl) kept nonempty fun same => absurd same blank

/-- **Rows are read as they have been written.** -/
theorem rows_join_line {table : List (List String)} (nonempty : ∀ row ∈ table, row ≠ [])
    (kept : ∀ row ∈ table, ∀ cell ∈ row, IsKept cell) :
    rows (String.join (table.map line)) = table := by
  rw [rows, String.toList_join]
  induction table with
  | nil => rfl
  | cons row table ih =>
      obtain ⟨first, others⟩ := List.forall_mem_cons.mp nonempty
      obtain ⟨firstKept, othersKept⟩ := List.forall_mem_cons.mp kept
      rw [List.map_cons, List.flatMap_cons, rowsFrom_line firstKept first, ih others othersKept]

end SignalFlow.Csv
