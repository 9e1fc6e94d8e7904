import SignalFlow.Proofs.Bisection
import SignalFlow.Proofs.Completion
import SignalFlow.Proofs.Doubles.Sums

/-! # Rows of input series

Which row of an input series applies at a time (`InputSeries.rowAt`). If the times do not descend, it
is the last one up to the time, or the first one (`InputSeries.applies_rowAt`), and it never moves
back while the time advances (`InputSeries.rowAt_mono`). In a series that descends somewhere, rows
out of order are selected as well (`InputSeries.selects_of_completes`).
-/

namespace SignalFlow

namespace InputSeries

open Binary64

/-! ## Making series -/

section Making

variable {α : Type} [Scalar α] {times : List α} {columns : List (String × List α)}
  {before after : List Notice}

omit [Scalar α] in
theorem completes_checks_iff {length : Nat} :
    Completes (columns.forM fun (name, values) =>
      if values.length == length then pure ()
      else throw (.columnLength name values.length length) : Noted Fault Unit) before () after ↔
      (∀ column ∈ columns, column.2.length = length) ∧ after = before := by
  rw [List.forM_eq_forM]
  induction columns with
  | nil =>
      rw [List.forM_nil]
      simp
  | cons column rest ih =>
      obtain ⟨name, values⟩ := column
      rw [List.forM_cons, completes_bind, List.forall_mem_cons]
      dsimp only
      by_cases fits : values.length = length
      · simp only [fits, beq_self_eq_true, ↓reduceIte, completes_pure, true_and]
        rw [← ih]
        constructor
        · rintro ⟨-, between, rfl, completes⟩
          exact completes
        · intro completes
          exact ⟨(), before, rfl, completes⟩
      · simp [fits]

/-- A series is made of columns that are as long as its list of times, and descending times are
noted. -/
theorem completes_make_iff {series : InputSeries α} :
    Completes (make times columns) before series after ↔
      (∀ column ∈ columns, column.2.length = times.length) ∧
        series = ⟨times.toArray, columns.map fun column => (column.1, column.2.toArray)⟩ ∧
        after = if hasDescent times then before ++ [.unorderedTimes] else before := by
  rw [make, completes_bind]
  constructor
  · rintro ⟨⟨⟩, between, checks, rest⟩
    obtain ⟨fits, rfl⟩ := completes_checks_iff.mp checks
    refine ⟨fits, ?_⟩
    split at rest
    · rename_i descends
      simp only [note, completes_bind, completes_modify, completes_pure] at rest
      obtain ⟨_, _, rfl, rfl, rfl⟩ := rest
      exact ⟨rfl, (if_pos descends).symm⟩
    · rename_i ascends
      simp only [completes_pure] at rest
      exact ⟨rest.1, rest.2.trans (if_neg ascends).symm⟩
  · rintro ⟨fits, rfl, rfl⟩
    refine ⟨(), before, completes_checks_iff.mpr ⟨fits, rfl⟩, ?_⟩
    split
    · exact completes_bind.mpr ⟨(), _, completes_modify.mpr rfl, completes_pure.mpr ⟨rfl, rfl⟩⟩
    · simp

/-- A column that is not as long as the list of times breaks the making of a series off. -/
theorem exists_outcome_make (misfit : ¬ ∀ column ∈ columns, column.2.length = times.length)
    (before : List Notice) :
    ∃ column ∈ columns, column.2.length ≠ times.length ∧
      outcome (make times columns) before =
        (.error (.columnLength column.1 column.2.length times.length), before) := by
  have checks : ∃ column ∈ columns, column.2.length ≠ times.length ∧
      outcome (columns.forM fun (name, values) =>
        if values.length == times.length then pure ()
        else throw (.columnLength name values.length times.length) : Noted Fault Unit) before =
          (.error (.columnLength column.1 column.2.length times.length), before) := by
    rw [List.forM_eq_forM]
    induction columns with
    | nil => exact absurd (fun _ member => absurd member List.not_mem_nil) misfit
    | cons column rest ih =>
        obtain ⟨name, values⟩ := column
        rw [List.forM_cons]
        dsimp only
        by_cases fits : values.length = times.length
        · obtain ⟨found, member, differs, ended⟩ :=
            ih fun others => misfit (List.forall_mem_cons.mpr ⟨fits, others⟩)
          refine ⟨found, List.mem_cons_of_mem _ member, differs, ?_⟩
          rw [if_pos (beq_iff_eq.mpr fits)]
          exact ended
        · refine ⟨(name, values), List.mem_cons_self, fits, ?_⟩
          rw [if_neg (by simpa using fits)]
          rfl
  obtain ⟨column, member, differs, ended⟩ := checks
  refine ⟨column, member, differs, ?_⟩
  rw [make, outcome_bind, ended]

end Making

/-! ## Rows in order -/

variable {series : InputSeries Float} {t : Float} {row : Nat}

/-- The time of a row. -/
def time (series : InputSeries Float) (row : Nat) : Float := series.times.getD row 0.0

/-- The last time up to which rows apply at a time. -/
def limit (t : Float) : Float := t + 1e-9

/-- No time is a missing number. -/
def IsTimed (series : InputSeries Float) : Prop :=
  ∀ row < series.times.size, (series.time row).isNaN = false

/-- No row lies below one before it. -/
def IsAscending (series : InputSeries Float) : Prop :=
  ∀ earlier later, earlier < later → later < series.times.size →
    series.time earlier ≤ series.time later

/-- A row lies below one before it. -/
def IsOutOfOrder (series : InputSeries Float) (row : Nat) : Prop :=
  ∃ earlier < row, series.time row < series.time earlier

/-- The row of a series that applies at a time: the last one up to the limit, and the first one if
there is none. -/
def Applies (series : InputSeries Float) (t : Float) (row : Nat) : Prop :=
  row < series.times.size ∧
    ((series.time row ≤ limit t ∧
      ∀ later, row < later → later < series.times.size → ¬ series.time later ≤ limit t) ∨
    (row = 0 ∧ ∀ other < series.times.size, ¬ series.time other ≤ limit t))

/-- A row may be selected at a time: it is up to the limit and the one behind it exceeds the limit,
or it is the first row and exceeds the limit itself. -/
def IsSelectable (series : InputSeries Float) (t : Float) (row : Nat) : Prop :=
  row < series.times.size ∧
    ((series.time row ≤ limit t ∧
      (row + 1 < series.times.size → limit t < series.time (row + 1))) ∨
    (row = 0 ∧ limit t < series.time 0))

/-- The rows up to one are up to a time, and those behind it exceed the time. -/
structure IsSplitAt (series : InputSeries Float) (row : Nat) (time : Float) : Prop where
  upTo : ∀ earlier ≤ row, series.time earlier ≤ time
  behind : ∀ later, row < later → later < series.times.size → time < series.time later

/-- All times differ. -/
def IsDistinct (series : InputSeries Float) : Prop :=
  ∀ earlier later, earlier < later → later < series.times.size →
    series.time earlier < series.time later ∨ series.time later < series.time earlier

theorem isNaN_limit (isNumber : t.isNaN = false) : (limit t).isNaN = false :=
  isNaN_add (by decide +kernel) isNumber

theorem limit_mono {first second : Float} (le : first ≤ second) : limit first ≤ limit second :=
  Binary64.add_le_add_right (by decide +kernel) le

/-- A row does not exceed the limit of a time if its time is up to it. -/
theorem not_exceeds_iff (timed : series.IsTimed) (isNumber : t.isNaN = false)
    (inside : row < series.times.size) :
    ¬ Exceeds series.times (limit t) row ↔ series.time row ≤ limit t :=
  not_lt_iff (isNaN_limit isNumber) (timed row inside)

/-- The row found lies before a boundary, unless there is no row before it. -/
theorem rowAt_cases (series : InputSeries Float) (t : Float) :
    (rowsBetween series.times (limit t) 0 series.times.size = 0 ∧ series.rowAt t = 0) ∨
      rowsBetween series.times (limit t) 0 series.times.size = series.rowAt t + 1 := by
  have same : series.rowAt t = rowsBetween series.times (limit t) 0 series.times.size - 1 := rfl
  omega

theorem isBoundary_rowAt (series : InputSeries Float) (t : Float) :
    IsBoundary series.times (limit t) 0 series.times.size
      (rowsBetween series.times (limit t) 0 series.times.size) :=
  isBoundary_rowsBetween (Nat.zero_le _)

/-- Whatever the order of the rows, the row found may be selected. -/
theorem isSelectable_rowAt (timed : series.IsTimed) (isNumber : t.isNaN = false)
    (rows : 0 < series.times.size) : series.IsSelectable t (series.rowAt t) := by
  obtain ⟨-, le_size, before, behind⟩ := isBoundary_rowAt series t
  rcases rowAt_cases series t with ⟨none, first⟩ | found
  · rw [first]
    rw [none] at behind
    exact ⟨rows, .inr ⟨rfl, behind rows⟩⟩
  · rw [found] at le_size before behind
    rw [Nat.add_sub_cancel, not_exceeds_iff timed isNumber (by omega)] at before
    exact ⟨by omega, .inl ⟨before (by omega), behind⟩⟩

/-- In ascending times the row found is the one that applies. -/
theorem applies_rowAt (timed : series.IsTimed) (ascending : series.IsAscending)
    (isNumber : t.isNaN = false) (rows : 0 < series.times.size) :
    series.Applies t (series.rowAt t) := by
  have limitIsNumber := isNaN_limit isNumber
  -- With one row all rows behind it exceed the limit.
  have later_exceeds {first later : Nat} (exceeds : limit t < series.time first)
      (behind : first ≤ later) (inside : later < series.times.size) :
      ¬ series.time later ≤ limit t := by
    rw [not_le_iff (timed later inside) limitIsNumber]
    rcases Nat.lt_or_eq_of_le behind with less | rfl
    · exact Binary64.lt_of_lt_of_le exceeds (ascending first later less inside)
    · exact exceeds
  obtain ⟨inside, ⟨upTo, behind⟩ | ⟨first, exceeds⟩⟩ := isSelectable_rowAt timed isNumber rows
  · exact ⟨inside, .inl ⟨upTo, fun later less laterInside =>
      later_exceeds (behind (by omega)) less laterInside⟩⟩
  · exact ⟨inside, .inr ⟨first, fun other otherInside =>
      later_exceeds exceeds (Nat.zero_le _) otherInside⟩⟩

/-- In ascending times a row behind the first one is up to the limit exactly if the row that applies
does not lie before it. -/
theorem time_le_limit_iff (timed : series.IsTimed) (ascending : series.IsAscending)
    (isNumber : t.isNaN = false) (inside : row + 1 < series.times.size) :
    series.time (row + 1) ≤ limit t ↔ row < series.rowAt t := by
  obtain ⟨found, ⟨upTo, behind⟩ | ⟨first, exceeds⟩⟩ :=
    applies_rowAt timed ascending isNumber (by omega)
  · constructor
    · intro due
      by_contra before
      exact behind (row + 1) (by omega) inside due
    · intro before
      rcases Nat.lt_or_eq_of_le (Nat.succ_le_of_lt before) with less | same
      · exact Binary64.le_trans (ascending _ _ less found) upTo
      · rwa [← same] at upTo
  · rw [first]
    exact iff_of_false (exceeds _ inside) (Nat.not_lt_zero _)

/-- While the time advances the row does not move back. -/
theorem rowAt_mono (timed : series.IsTimed) (ascending : series.IsAscending) {first second : Float}
    (le : first ≤ second) (rows : 0 < series.times.size) :
    series.rowAt first ≤ series.rowAt second := by
  obtain ⟨firstIsNumber, secondIsNumber⟩ := isNaN_of_le le
  by_contra back
  obtain ⟨inside, ⟨upTo, -⟩ | ⟨start, -⟩⟩ := applies_rowAt timed ascending firstIsNumber rows
  · have upToSecond : series.time (series.rowAt first) ≤ limit second :=
      Binary64.le_trans upTo (limit_mono le)
    obtain ⟨-, ⟨-, last⟩ | ⟨-, none⟩⟩ := applies_rowAt timed ascending secondIsNumber rows
    · exact last _ (by omega) inside upToSecond
    · exact none _ inside upToSecond
  · omega

/-! ## Series of a list of times -/

section Times

variable {times : List Float} {columns : List (String × Array Float)}

theorem time_eq (inside : row < times.length) :
    time ⟨times.toArray, columns⟩ row = times[row] := by
  simp [time, Array.getD_eq_getD_getElem?, inside]

theorem isTimed_iff : IsTimed ⟨times.toArray, columns⟩ ↔ ∀ time ∈ times, time.isNaN = false := by
  rw [List.forall_mem_iff_forall_getElem]
  refine forall_congr' fun row => ?_
  rw [List.size_toArray]
  exact forall_congr' fun inside => by rw [time_eq inside]

theorem isAscending_iff_pairwise :
    IsAscending ⟨times.toArray, columns⟩ ↔ times.Pairwise (· ≤ ·) := by
  rw [List.pairwise_iff_getElem]
  constructor
  · intro ascending earlier later earlierInside laterInside before
    have ordered := ascending earlier later before (by simpa using laterInside)
    rwa [time_eq earlierInside, time_eq laterInside] at ordered
  · intro ascending earlier later before inside
    rw [List.size_toArray] at inside
    rw [time_eq (by omega), time_eq inside]
    exact ascending earlier later _ _ before

/-- Times do not descend from one to the next if they ascend as a whole. -/
theorem hasDescent_eq_false_iff (numbers : ∀ time ∈ times, time.isNaN = false) :
    hasDescent times = false ↔ times.Pairwise (· ≤ ·) := by
  induction times with
  | nil => exact iff_of_true rfl .nil
  | cons first rest ih =>
      rw [List.forall_mem_cons] at numbers
      obtain ⟨firstIsNumber, numbers⟩ := numbers
      cases rest with
      | nil => exact iff_of_true rfl (List.pairwise_singleton _ _)
      | cons second rest =>
          have secondIsNumber := numbers second List.mem_cons_self
          have next : decide (second < first) = false ↔ first ≤ second := by
            rw [decide_eq_false_iff_not]
            exact not_lt_iff secondIsNumber firstIsNumber
          rw [hasDescent, Bool.or_eq_false_iff, ih numbers, List.pairwise_cons (l := second :: rest)]
          refine and_congr_left fun ascending => next.trans ?_
          constructor
          · intro ordered other member
            rcases List.mem_cons.mp member with rfl | behind
            · exact ordered
            · exact Binary64.le_trans ordered ((List.pairwise_cons.mp ascending).1 other behind)
          · intro ordered
            exact ordered second List.mem_cons_self

end Times

/-! ## Rows out of order -/

theorem isAscending_iff (timed : series.IsTimed) :
    series.IsAscending ↔ ∀ row < series.times.size, ¬ series.IsOutOfOrder row := by
  have ordered_iff {earlier later : Nat} (less : earlier < later)
      (inside : later < series.times.size) :
      series.time earlier ≤ series.time later ↔ ¬ series.time later < series.time earlier :=
    (not_lt_iff (timed later inside) (timed earlier (by omega))).symm
  constructor
  · rintro ascending row inside ⟨earlier, before, below⟩
    exact (ordered_iff before inside).mp (ascending earlier row before inside) below
  · intro inOrder earlier later before inside
    exact (ordered_iff before inside).mpr fun below => inOrder later inside ⟨earlier, before, below⟩

/-- A row at which the rows split is found, in order or not. -/
theorem rowAt_eq (timed : series.IsTimed) (isNumber : t.isNaN = false)
    (inside : row < series.times.size) (split : series.IsSplitAt row (limit t)) :
    series.rowAt t = row := by
  have found : rowsBetween series.times (limit t) 0 series.times.size = row + 1 := by
    refine rowsBetween_eq (Nat.zero_le _) inside (fun earlier before => ?_) split.behind
    rw [not_exceeds_iff timed isNumber (by omega)]
    exact split.upTo earlier (by omega)
  have := rowAt_cases series t
  omega

/-- Of some first rows one is as late as all of them. -/
theorem exists_latest (timed : series.IsTimed) (inside : row < series.times.size) :
    ∃ top ≤ row, ∀ earlier ≤ row, series.time earlier ≤ series.time top := by
  have reflexive {row : Nat} (inside : row < series.times.size) :
      series.time row ≤ series.time row :=
    Binary64.le_refl (timed row inside)
  induction row with
  | zero =>
      refine ⟨0, Nat.le_refl _, fun earlier before => ?_⟩
      obtain rfl := Nat.le_zero.mp before
      exact reflexive inside
  | succ row ih =>
      obtain ⟨top, before, latest⟩ := ih (by omega)
      by_cases upTo : series.time (row + 1) ≤ series.time top
      · refine ⟨top, by omega, fun earlier bound => ?_⟩
        rcases Nat.lt_or_eq_of_le bound with less | rfl
        · exact latest earlier (by omega)
        · exact upTo
      · rw [not_le_iff (timed (row + 1) inside) (timed top (by omega))] at upTo
        refine ⟨row + 1, Nat.le_refl _, fun earlier bound => ?_⟩
        rcases Nat.lt_or_eq_of_le bound with less | rfl
        · exact Binary64.le_trans (latest earlier (by omega)) (Binary64.le_of_lt upTo)
        · exact reflexive inside

/-- If all times differ and they descend somewhere, the rows split at the last row out of order, by
the time of an earlier one. -/
theorem exists_outOfOrder (timed : series.IsTimed) (distinct : series.IsDistinct)
    (descends : ¬ series.IsAscending) :
    ∃ row < series.times.size, series.IsOutOfOrder row ∧
      ∃ top < row, series.IsSplitAt row (series.time top) := by
  classical
  rw [isAscending_iff timed] at descends
  push Not at descends
  obtain ⟨some, someInside, someOut⟩ := descends
  let P (row : Nat) : Prop := row < series.times.size ∧ series.IsOutOfOrder row
  have last : P (Nat.findGreatest P series.times.size) :=
    Nat.findGreatest_spec someInside.le ⟨someInside, someOut⟩
  have inOrder {later : Nat} (behind : Nat.findGreatest P series.times.size < later)
      (inside : later < series.times.size) : ¬ series.IsOutOfOrder later := fun out =>
    Nat.findGreatest_is_greatest behind inside.le ⟨inside, out⟩
  generalize Nat.findGreatest P series.times.size = row at last inOrder
  obtain ⟨inside, out⟩ := last
  obtain ⟨top, bound, latest⟩ := exists_latest timed inside
  obtain ⟨earlier, before, below⟩ := out
  have apart : top ≠ row := by
    rintro rfl
    exact (not_lt_iff (timed top inside) (timed earlier (by omega))).mpr
      (latest earlier before.le) below
  refine ⟨row, inside, ⟨earlier, before, below⟩, top, by omega, latest, ?_⟩
  intro later behind laterInside
  refine (distinct top later (by omega) laterInside).resolve_right fun less => ?_
  exact inOrder behind laterInside ⟨top, by omega, less⟩

/-- The values of a row. -/
def valuesAt (series : InputSeries Float) (row : Nat) : List (String × Float) :=
  series.columns.map fun (name, values) => (name, values.getD row 0.0)

theorem sample_eq (series : InputSeries Float) (t : Float) (rows : 0 < series.times.size) :
    series.sample t = series.valuesAt (series.rowAt t) := by
  rw [sample, if_neg]
  · rfl
  · simpa using Nat.ne_of_gt rows

/-- The row found, if there are rows. -/
def row? (series : InputSeries Float) (t : Float) : Option Nat :=
  if 0 < series.times.size then some (series.rowAt t) else none

/-- What a sample is taken from: the row that applies, or nothing if there are no rows. -/
def IsSampledFrom (series : InputSeries Float) (t : Float) : Option Nat → Prop
  | none => series.times.size = 0 ∧ series.sample t = []
  | some row => series.Applies t row ∧ series.sample t = series.valuesAt row

theorem isSampledFrom_row? (timed : series.IsTimed) (ascending : series.IsAscending)
    (isNumber : t.isNaN = false) : series.IsSampledFrom t (series.row? t) := by
  by_cases rows : 0 < series.times.size
  · rw [row?, if_pos rows]
    exact ⟨applies_rowAt timed ascending isNumber rows, sample_eq series t rows⟩
  · have empty : series.times.size = 0 := Nat.eq_zero_of_not_pos rows
    rw [row?, if_neg rows]
    exact ⟨empty, if_pos (by simpa using empty)⟩

section Completes

variable {times : List Float} {columns : List (String × List Float)} {before after : List Notice}
  {series : InputSeries Float} (made : Completes (make times columns) before series after)
  (numbers : ∀ time ∈ times, time.isNaN = false)
include made numbers

theorem isTimed_of_completes : series.IsTimed := by
  obtain ⟨-, rfl, -⟩ := completes_make_iff.mp made
  exact isTimed_iff.mpr numbers

/-- Descending times are noted, and no others. -/
theorem notices_of_completes :
    after = before ∧ series.IsAscending ∨
      after = before ++ [.unorderedTimes] ∧ ¬ series.IsAscending := by
  obtain ⟨-, rfl, rfl⟩ := completes_make_iff.mp made
  rw [isAscending_iff_pairwise, ← hasDescent_eq_false_iff numbers]
  cases hasDescent times <;> simp

/-- **Which rows are selected.** A series notes that its times descend exactly if a row is out of
order. In order or not, the row that is selected is up to the limit of the time and is followed by
one beyond it, or it is the first row and exceeds the limit. If all times differ and it is noted that
they descend, there is a row out of order at which the rows split, by the time of a row before it,
and it is selected at each time by whose limit they split there. -/
theorem selects_of_completes :
    (after = before ∧ (∀ row < series.times.size, ¬ series.IsOutOfOrder row) ∨
      after = before ++ [.unorderedTimes] ∧ ∃ row < series.times.size, series.IsOutOfOrder row) ∧
    (∀ t, t.isNaN = false → 0 < series.times.size →
      series.sample t = series.valuesAt (series.rowAt t) ∧
        series.IsSelectable t (series.rowAt t)) ∧
    (series.IsDistinct → after ≠ before → ∃ row < series.times.size, series.IsOutOfOrder row ∧
      (∃ top < row, series.IsSplitAt row (series.time top)) ∧
        ∀ t, t.isNaN = false → series.IsSplitAt row (limit t) → series.rowAt t = row) := by
  have timed := isTimed_of_completes made numbers
  have noted := notices_of_completes made numbers
  refine ⟨?_, ?_, ?_⟩
  · rw [isAscending_iff timed] at noted
    push Not at noted
    exact noted
  · intro t isNumber rows
    exact ⟨sample_eq series t rows, isSelectable_rowAt timed isNumber rows⟩
  · intro distinct differs
    have descends := (noted.resolve_left fun same => differs same.1).2
    obtain ⟨row, inside, out, top, above, split⟩ := exists_outOfOrder timed distinct descends
    exact ⟨row, inside, out, ⟨top, above, split⟩, fun t isNumber => rowAt_eq timed isNumber inside⟩

end Completes

/-- A series whose third row lies below the second one. -/
def swappedRows : InputSeries Float :=
  ⟨#[0.0, 2.0, 1.0, 3.0], [("u", #[10.0, 12.0, 11.0, 13.0])]⟩

theorem completes_swappedRows :
    Completes (make [0.0, 2.0, 1.0, 3.0] [("u", [10.0, 12.0, 11.0, 13.0])]) [] swappedRows
      [.unorderedTimes] :=
  completes_make_iff.mpr ⟨by decide, rfl, (if_pos (by decide +kernel)).symm⟩

theorem selects_of_completes_swappedRows :
    (∃ row < 4, swappedRows.IsOutOfOrder row) ∧
      (swappedRows.sample 2.0 = swappedRows.valuesAt (swappedRows.rowAt 2.0) ∧
        swappedRows.IsSelectable 2.0 (swappedRows.rowAt 2.0)) ∧
      ∃ row < 4, swappedRows.IsOutOfOrder row ∧
        ∃ top < row, swappedRows.IsSplitAt row (swappedRows.time top) := by
  have distinct : ∀ later < 4, ∀ earlier < later,
      swappedRows.time earlier < swappedRows.time later ∨
        swappedRows.time later < swappedRows.time earlier := by
    decide +kernel
  obtain ⟨noted, selected, descends⟩ :=
    selects_of_completes completes_swappedRows (by decide +kernel)
  obtain ⟨row, inside, out, split, -⟩ :=
    descends (fun earlier later before inside => distinct later inside earlier before) (by simp)
  exact ⟨(noted.resolve_left (by simp)).2, selected 2.0 (by decide +kernel) (by decide), row, inside,
    out, split⟩

/-- The third row is out of order, and it is selected between the first one and the second one. -/
theorem selects_outOfOrder_swappedRows :
    Completes (make [0.0, 2.0, 1.0, 3.0] [("u", [10.0, 12.0, 11.0, 13.0])]) [] swappedRows
        [.unorderedTimes] ∧
      swappedRows.sample 1.5 = [("u", 11.0)] ∧ swappedRows.rowAt 1.5 = 2 ∧
        swappedRows.IsOutOfOrder 2 := by
  have found : swappedRows.rowAt 1.5 = 2 := by decide +kernel
  refine ⟨completes_swappedRows, ?_, found, 1, by decide, by decide +kernel⟩
  rw [sample_eq _ _ (by decide), found]
  rfl

end InputSeries

end SignalFlow
