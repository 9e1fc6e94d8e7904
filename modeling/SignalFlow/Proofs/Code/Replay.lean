import SignalFlow.Code.Generate
import SignalFlow.Proofs.InputRows

/-! # Running replays

What the statements of a replay do to its cursor and to the inputs of a tick (`ReplayRuns`), and what
a program reads tick after tick (`Replays`). A run breaks off where it reads a row beyond the last
one.

If the times of a table do not descend, a replay of ticks whose times do not descend either takes the
inputs of each tick from the row that applies (`replays_iff_of_completes`), although its cursor never
moves back: the row that applies does not move back either (`InputSeries.rowAt_mono`).
-/

namespace SignalFlow.Code

/-! ## Statements of a replay -/

section Runs

variable {α : Type} [Scalar α]

/-- Whether a test holds at a place of the cursor. -/
def ReplayTest.holds? (times : Array α) (t : α) (cursor : Nat) : ReplayTest → Option Bool
  | .hasRows => some (0 < times.size)
  | .hasNext => some (cursor + 1 < times.size)
  | .isNextDue => return (← times[cursor + 1]?) ≤ t + InputSeries.tolerance

/-- Whether all of some tests hold. Those behind one that does not hold are not asked. -/
def allHold? (times : Array α) (t : α) (cursor : Nat) : List ReplayTest → Option Bool
  | [] => some true
  | test :: rest => do
      if ← test.holds? times t cursor then allHold? times t cursor rest else some false

/-- A loop that moves the cursor while some tests hold. -/
inductive Advances (times : Array α) (t : α) (tests : List ReplayTest) : Nat → Nat → Prop where
  | stop {cursor : Nat} (ends : allHold? times t cursor tests = some false) :
      Advances times t tests cursor cursor
  | move {cursor last : Nat} (holds : allHold? times t cursor tests = some true)
      (rest : Advances times t tests (cursor + 1) last) : Advances times t tests cursor last

/-- Where the cursor of a replay stands, and the row from which the inputs are taken. -/
structure ReplayState where
  cursor : Nat
  row : Option Nat

/-- Before the first tick the cursor stands at the first row, and there are no inputs. -/
def ReplayState.start : ReplayState := ⟨0, none⟩

/-- Runs statements of a replay, one after the other. -/
inductive ReplayRuns (times : Array α) (t : α) :
    List ReplayStatement → ReplayState → ReplayState → Prop where
  | nil {state : ReplayState} : ReplayRuns times t [] state state
  | clear {rest : List ReplayStatement} {state final : ReplayState}
      (behind : ReplayRuns times t rest ⟨state.cursor, none⟩ final) :
      ReplayRuns times t (.clear :: rest) state final
  | advance {tests : List ReplayTest} {rest : List ReplayStatement} {state final : ReplayState}
      {place : Nat} (advances : Advances times t tests state.cursor place)
      (behind : ReplayRuns times t rest ⟨place, state.row⟩ final) :
      ReplayRuns times t (.advanceWhile tests :: rest) state final
  | take {rest : List ReplayStatement} {state final : ReplayState}
      (inside : state.cursor < times.size)
      (behind : ReplayRuns times t rest ⟨state.cursor, some state.cursor⟩ final) :
      ReplayRuns times t (.take :: rest) state final
  | enter {test : ReplayTest} {body rest : List ReplayStatement} {state between final : ReplayState}
      (holds : test.holds? times t state.cursor = some true)
      (within : ReplayRuns times t body state between)
      (behind : ReplayRuns times t rest between final) :
      ReplayRuns times t (.when test body :: rest) state final
  | skip {test : ReplayTest} {body rest : List ReplayStatement} {state final : ReplayState}
      (fails : test.holds? times t state.cursor = some false)
      (behind : ReplayRuns times t rest state final) :
      ReplayRuns times t (.when test body :: rest) state final

/-- Runs a replay tick after tick, with the rows from which the inputs of the ticks are taken. -/
inductive Replays (times : Array α) (program : List ReplayStatement) :
    ReplayState → List α → List (Option Nat) → Prop where
  | nil {state : ReplayState} : Replays times program state [] []
  | tick {state next : ReplayState} {t : α} {later : List α} {rows : List (Option Nat)}
      (runs : ReplayRuns times t program state next) (rest : Replays times program next later rows) :
      Replays times program state (t :: later) (next.row :: rows)

variable {times : Array α} {t : α}

theorem Advances.le {tests : List ReplayTest} {cursor place : Nat}
    (advances : Advances times t tests cursor place) : cursor ≤ place := by
  induction advances with
  | stop => exact Nat.le_refl _
  | move _ _ ih => exact Nat.le_of_succ_le ih

/-- The cursor never moves back. -/
theorem ReplayRuns.cursor_le {program : List ReplayStatement} {state final : ReplayState}
    (runs : ReplayRuns times t program state final) : state.cursor ≤ final.cursor := by
  induction runs with
  | nil => exact Nat.le_refl _
  | clear _ ih => exact ih
  | advance advances _ ih => exact Nat.le_trans advances.le ih
  | take _ _ ih => exact ih
  | enter _ _ _ ihWithin ihBehind => exact Nat.le_trans ihWithin ihBehind
  | skip _ _ ih => exact ih

theorem Advances.unique {tests : List ReplayTest} {cursor first second : Nat}
    (one : Advances times t tests cursor first) (other : Advances times t tests cursor second) :
    first = second := by
  induction one with
  | stop ends =>
      cases other with
      | stop => rfl
      | move holds => simp [ends] at holds
  | move holds _ ih =>
      cases other with
      | stop ends => simp [ends] at holds
      | move _ rest => exact ih rest

/-- Statements end in one state at most. -/
theorem ReplayRuns.unique {program : List ReplayStatement} {state first second : ReplayState}
    (one : ReplayRuns times t program state first)
    (other : ReplayRuns times t program state second) : first = second := by
  induction one generalizing second with
  | nil =>
      cases other
      rfl
  | clear _ ih =>
      cases other with
      | clear behind => exact ih behind
  | advance advances _ ih =>
      cases other with
      | advance same behind =>
          obtain rfl := advances.unique same
          exact ih behind
  | take _ _ ih =>
      cases other with
      | take _ behind => exact ih behind
  | enter holds _ _ ihWithin ihBehind =>
      cases other with
      | enter _ within behind =>
          obtain rfl := ihWithin within
          exact ihBehind behind
      | skip fails => simp [fails] at holds
  | skip fails _ ih =>
      cases other with
      | enter holds => simp [fails] at holds
      | skip _ behind => exact ih behind

/-- Ticks take their inputs from one row each at most. -/
theorem Replays.unique {program : List ReplayStatement} {state : ReplayState} {ticks : List α}
    {first second : List (Option Nat)} (one : Replays times program state ticks first)
    (other : Replays times program state ticks second) : first = second := by
  induction one generalizing second with
  | nil =>
      cases other
      rfl
  | tick runs _ ih =>
      cases other with
      | tick same rest =>
          obtain rfl := runs.unique same
          rw [ih rest]

end Runs

/-! ## Replays of series -/

section Series

open InputSeries

variable {series : InputSeries Float} {t : Float} {cursor : Nat}

/-- The cursor moves on as long as it has not reached the row that applies. -/
theorem allHold?_eq (timed : series.IsTimed) (ascending : series.IsAscending)
    (isNumber : t.isNaN = false) :
    allHold? series.times t cursor [.hasNext, .isNextDue] =
      some (decide (cursor + 1 < series.times.size ∧ cursor < series.rowAt t)) := by
  by_cases inside : cursor + 1 < series.times.size
  · have read : series.times[cursor + 1]? = some (series.time (cursor + 1)) := by
      simp [time, inside]
    have due : ReplayTest.isNextDue.holds? series.times t cursor =
        some (decide (cursor < series.rowAt t)) := by
      rw [ReplayTest.holds?, read]
      exact congrArg some
        (decide_eq_decide.mpr (time_le_limit_iff timed ascending isNumber inside))
    rw [allHold?, ReplayTest.holds?, allHold?, due]
    by_cases before : cursor < series.rowAt t <;> simp [inside, before, allHold?]
  · rw [allHold?, ReplayTest.holds?]
    simp [inside]

/-- From a row up to the one that applies the cursor moves to the latter. -/
theorem advances_rowAt (timed : series.IsTimed) (ascending : series.IsAscending)
    (isNumber : t.isNaN = false) (rows : 0 < series.times.size)
    (behind : cursor ≤ series.rowAt t) :
    Advances series.times t [.hasNext, .isNextDue] cursor (series.rowAt t) := by
  have inside := (applies_rowAt timed ascending isNumber rows).1
  induction behind using Nat.decreasingInduction with
  | self => exact .stop (by simp [allHold?_eq timed ascending isNumber])
  | of_succ cursor before ih =>
      refine .move ?_ ih
      rw [allHold?_eq timed ascending isNumber, decide_eq_true ⟨by omega, before⟩]

/-- In a tick, a cursor that has not passed the row that applies moves to it, and the inputs are
taken from that row. -/
theorem replayRuns_rowAt (language : Language) (timed : series.IsTimed)
    (ascending : series.IsAscending) (isNumber : t.isNaN = false) (rows : 0 < series.times.size)
    {state : ReplayState} (behind : state.cursor ≤ series.rowAt t) :
    ReplayRuns series.times t language.replay state ⟨series.rowAt t, some (series.rowAt t)⟩ := by
  have inside := (applies_rowAt timed ascending isNumber rows).1
  have move {row : Option Nat} :
      ReplayRuns series.times t [.when .hasRows [.advanceWhile [.hasNext, .isNextDue], .take]]
        ⟨state.cursor, row⟩ ⟨series.rowAt t, some (series.rowAt t)⟩ :=
    .enter (by simp [ReplayTest.holds?, rows])
      (.advance (advances_rowAt timed ascending isNumber rows behind) (.take inside .nil)) .nil
  cases language with
  | python => exact .clear move
  | c => exact move

/-- Without rows a tick has no inputs. -/
theorem replayRuns_empty (language : Language) (none : ¬ 0 < series.times.size) (cursor : Nat) :
    ReplayRuns series.times t language.replay ⟨cursor, .none⟩ ⟨cursor, .none⟩ := by
  have skip :
      ReplayRuns series.times t [.when .hasRows [.advanceWhile [.hasNext, .isNextDue], .take]]
        ⟨cursor, .none⟩ ⟨cursor, .none⟩ :=
    .skip (by simp [ReplayTest.holds?, none]) .nil
  cases language with
  | python => exact .clear skip
  | c => exact skip

/-- The cursor has not passed the row that applies at a time; without rows there are no inputs. -/
structure ReplayState.IsBefore (series : InputSeries Float) (state : ReplayState) (t : Float) :
    Prop where
  cursor_le : 0 < series.times.size → state.cursor ≤ series.rowAt t
  row_eq : ¬ 0 < series.times.size → state.row = none

theorem ReplayState.isBefore_start : start.IsBefore series t :=
  ⟨fun _ => Nat.zero_le _, fun _ => rfl⟩

/-- A tick takes its inputs from the row that applies, and its cursor has not passed the one that
applies later. -/
theorem exists_replayRuns (language : Language) (timed : series.IsTimed)
    (ascending : series.IsAscending) (isNumber : t.isNaN = false) {state : ReplayState}
    (before : state.IsBefore series t) :
    ∃ next, ReplayRuns series.times t language.replay state next ∧ next.row = series.row? t ∧
      ∀ later, t ≤ later → next.IsBefore series later := by
  by_cases rows : 0 < series.times.size
  · refine ⟨⟨series.rowAt t, some (series.rowAt t)⟩,
      replayRuns_rowAt language timed ascending isNumber rows (before.cursor_le rows),
      (if_pos rows).symm, fun later le => ⟨fun _ => ?_, fun none => absurd rows none⟩⟩
    exact rowAt_mono timed ascending le rows
  · obtain ⟨cursor, row⟩ := state
    obtain rfl : row = none := before.row_eq rows
    exact ⟨⟨cursor, none⟩, replayRuns_empty language rows cursor, (if_neg rows).symm,
      fun later _ => ⟨fun some => absurd some rows, fun _ => rfl⟩⟩

/-- Ticks whose times do not descend take their inputs from the rows that apply. -/
theorem replays_row? (language : Language) (timed : series.IsTimed) (ascending : series.IsAscending)
    {ticks : List Float} (numbers : ∀ t ∈ ticks, t.isNaN = false)
    (advancing : ticks.Pairwise (· ≤ ·)) {state : ReplayState}
    (before : ∀ t ∈ ticks, state.IsBefore series t) :
    Replays series.times language.replay state ticks (ticks.map series.row?) := by
  induction ticks generalizing state with
  | nil => exact .nil
  | cons t later ih =>
      rw [List.forall_mem_cons] at numbers before
      rw [List.pairwise_cons] at advancing
      obtain ⟨next, runs, row, ready⟩ :=
        exists_replayRuns language timed ascending numbers.1 before.1
      rw [List.map_cons, ← row]
      exact .tick runs (ih numbers.2 advancing.2 fun other member =>
        ready other (advancing.1 other member))

/-- A program with a `main` has a replay in it. -/
theorem replayLines_infix_programLines (language : Language) (program : Program Float) :
    language.replayLines <:+: language.programLines program true := by
  cases language with
  | python =>
      have main : Language.python.replayLines <:+: Python.mainLines :=
        ⟨Python.mainHead, Python.mainTail, rfl⟩
      exact List.infix_append_of_infix_right (List.infix_append_of_infix_right main)
  | c =>
      have main : Language.c.replayLines <:+: CSource.mainStart := ⟨CSource.mainHead, _, rfl⟩
      exact List.infix_append_of_infix_right (List.infix_append_of_infix_left
        (List.infix_append_of_infix_left (List.infix_append_of_infix_right main)))

/-- **Replay of a series.** If neither the times of a series nor those of the ticks descend, so that
none of them is a missing number, the row that a bisection finds for a tick is the last one up to the
limit of its time, or the first one if there is none, and a series without rows has no values.
Programs in each language replay the series in their `main`, in the lines given here. The cursor of
such a replay never moves back, and the inputs of each tick are taken from just that row, or there
are none. -/
theorem replays_iff_of_completes {times : List Float} {columns : List (String × List Float)}
    {notices after : List Notice} (made : Completes (make times columns) notices series after)
    (numbers : ∀ time ∈ times, time.isNaN = false) (ascending : times.Pairwise (· ≤ ·))
    {ticks : List Float} (ticksAreNumbers : ∀ t ∈ ticks, t.isNaN = false)
    (advancing : ticks.Pairwise (· ≤ ·)) :
    (∀ t ∈ ticks, series.IsSampledFrom t (series.row? t)) ∧
    Language.python.replayLines =
      ["            inputs = \x7b\x7d",
       "            if times:",
       "                while idx + 1 < len(times) and times[idx + 1] <= t + 1e-9:",
       "                    idx += 1",
       "                inputs = rows[idx]"] ∧
    Language.c.replayLines =
      ["    if (series.count > 0) \x7b",
       "      while (idx + 1 < series.count && series.times[idx + 1] <= t + 1e-9) idx++;",
       "      fill_inputs(&series, idx, &in);",
       "    \x7d"] ∧
    ∀ language : Language,
      (∀ program, language.replayLines <:+: language.programLines program true) ∧
      (∀ t state final, ReplayRuns series.times t language.replay state final →
        state.cursor ≤ final.cursor) ∧
      ∀ rows, Replays series.times language.replay .start ticks rows ↔
        rows = ticks.map series.row? := by
  have timed := isTimed_of_completes made numbers
  have inOrder : series.IsAscending := by
    obtain ⟨-, rfl, -⟩ := completes_make_iff.mp made
    exact isAscending_iff_pairwise.mpr ascending
  refine ⟨fun t member => isSampledFrom_row? timed inOrder (ticksAreNumbers t member),
    Language.replayLines_python, Language.replayLines_c,
    fun language => ⟨replayLines_infix_programLines language, fun _ _ _ => ReplayRuns.cursor_le,
      fun rows => ?_⟩⟩
  have replays := replays_row? language timed inOrder ticksAreNumbers advancing
    fun t _ => ReplayState.isBefore_start
  exact ⟨fun others => others.unique replays, fun same => same ▸ replays⟩

/-- A series in which several rows have one time. -/
def tiedRows : InputSeries Float :=
  ⟨#[0.25, 0.5, 0.5, 0.75, 1.0], [("u", #[1.0, 2.0, 3.0, 4.0, 5.0])]⟩

theorem replays_iff_of_completes_tiedRows :
    Completes (make [0.25, 0.5, 0.5, 0.75, 1.0] [("u", [1.0, 2.0, 3.0, 4.0, 5.0])]) [] tiedRows [] ∧
      tiedRows.IsSampledFrom 0.0 (some 0) ∧ tiedRows.IsSampledFrom 0.5 (some 2) ∧
        tiedRows.IsSampledFrom 1.5 (some 4) ∧ ∀ language : Language,
          Replays tiedRows.times language.replay .start [0.0, 0.5, 1.5] [some 0, some 2, some 4] := by
  have made : Completes (make [0.25, 0.5, 0.5, 0.75, 1.0] [("u", [1.0, 2.0, 3.0, 4.0, 5.0])]) []
      tiedRows [] :=
    completes_make_iff.mpr ⟨by decide, rfl, (if_neg (by decide +kernel)).symm⟩
  have advancing : [0.0, 0.5, 1.5].Pairwise fun first second : Float => first ≤ second := by
    decide +kernel
  have atStart : tiedRows.row? 0.0 = some 0 := by decide +kernel
  have atTie : tiedRows.row? 0.5 = some 2 := by decide +kernel
  have atEnd : tiedRows.row? 1.5 = some 4 := by decide +kernel
  obtain ⟨sampled, -, -, replayed⟩ := replays_iff_of_completes made (by decide +kernel)
    (by decide +kernel) (by decide +kernel) advancing
  simp only [List.forall_mem_cons, atStart, atTie, atEnd] at sampled
  refine ⟨made, sampled.1, sampled.2.1, sampled.2.2.1, fun language => ?_⟩
  refine ((replayed language).2.2 _).mpr ?_
  simp only [List.map_cons, List.map_nil, atStart, atTie, atEnd]

end Series

end SignalFlow.Code
