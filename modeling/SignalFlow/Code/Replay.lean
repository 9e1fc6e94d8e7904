import SignalFlow.Code.Text

/-! # Replay of a table of inputs

The part of a generated program that takes the inputs of a tick from the rows of a table
(`Language.replay`), and its text (`Language.replayLines`). A cursor stands at a row; it is moved
forward to the row that applies at the time of the tick, and never back.
-/

namespace SignalFlow

namespace Code

/-- What a replay asks. -/
inductive ReplayTest where
  /-- The table has rows. -/
  | hasRows
  /-- There is a row behind the one at the cursor. -/
  | hasNext
  /-- The row behind the one at the cursor applies at the time of the tick. -/
  | isNextDue
deriving DecidableEq

/-- A statement of a replay. -/
inductive ReplayStatement where
  /-- Drops the inputs. -/
  | clear
  /-- Moves the cursor, row by row, while all of some tests hold. -/
  | advanceWhile (tests : List ReplayTest)
  /-- Takes the inputs from the row at the cursor. -/
  | take
  | when (test : ReplayTest) (body : List ReplayStatement)

end Code

open Code

namespace Language

/-- A test of a replay. -/
def replayTest : Language → ReplayTest → String
  | .python, .hasRows => "times"
  | .python, .hasNext => "idx + 1 < len(times)"
  | .python, .isNextDue => "times[idx + 1] <= t + 1e-9"
  | .c, .hasRows => "series.count > 0"
  | .c, .hasNext => "idx + 1 < series.count"
  | .c, .isNextDue => "series.times[idx + 1] <= t + 1e-9"

/-- All of some tests of a replay, asked one after the other. -/
def replayTests (language : Language) (tests : List ReplayTest) : String :=
  let mark := match language with
    | .python => " and "
    | .c => " && "
  mark.intercalate (tests.map language.replayTest)

mutual

/-- The lines of a statement of a replay. -/
def replayStatement (language : Language) : ReplayStatement → List String
  | .clear =>
      match language with
      | .python => ["inputs = \x7b\x7d"]
      | .c => ["memset(&in, 0, sizeof in);"]
  | .advanceWhile tests =>
      match language with
      | .python => [s!"while {language.replayTests tests}:", "    idx += 1"]
      | .c => [s!"while ({language.replayTests tests}) idx++;"]
  | .take =>
      match language with
      | .python => ["inputs = rows[idx]"]
      | .c => ["fill_inputs(&series, idx, &in);"]
  | .when test body => language.branch (language.replayTest test) (language.replayStatements body)

/-- The lines of some statements of a replay. -/
def replayStatements (language : Language) : List ReplayStatement → List String
  | [] => []
  | first :: rest => language.replayStatement first ++ language.replayStatements rest

end

/-- What a program does in each tick to get its inputs. In C the inputs are dropped before the first
tick only. -/
def replay : Language → List ReplayStatement
  | .python => [.clear, .when .hasRows [.advanceWhile [.hasNext, .isNextDue], .take]]
  | .c => [.when .hasRows [.advanceWhile [.hasNext, .isNextDue], .take]]

/-- The lines of a replay, inside the loop over the ticks. -/
def replayLines (language : Language) : List String :=
  let lines := language.replayStatements language.replay
  match language with
  | .python => language.indented (language.indented (language.indented lines))
  | .c => language.indented (language.indented lines)

theorem replayLines_python : replayLines .python =
    ["            inputs = \x7b\x7d",
     "            if times:",
     "                while idx + 1 < len(times) and times[idx + 1] <= t + 1e-9:",
     "                    idx += 1",
     "                inputs = rows[idx]"] := by
  rfl

theorem replayLines_c : replayLines .c =
    ["    if (series.count > 0) \x7b",
     "      while (idx + 1 < series.count && series.times[idx + 1] <= t + 1e-9) idx++;",
     "      fill_inputs(&series, idx, &in);",
     "    \x7d"] := by
  rfl

end Language

end SignalFlow
