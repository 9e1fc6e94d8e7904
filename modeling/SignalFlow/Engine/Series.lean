import SignalFlow.Notice
import SignalFlow.Scalar

/-! # Input series

Samples of the inputs of a diagram over time (`InputSeries`). Between samples an input keeps the
value of the last one: `InputSeries.sample` finds the row by bisection.
-/

namespace SignalFlow

/-- Samples of some inputs: a value in each column for each time. -/
structure InputSeries (α : Type) where
  times : Array α
  columns : List (String × Array α)

namespace InputSeries

variable {α : Type} [Scalar α]

/-- Whether some time lies below the one before it. -/
def hasDescent : List α → Bool
  | first :: second :: rest => second < first || hasDescent (second :: rest)
  | _ => false

/-- The series of some columns, which must all be as long as the list of times. -/
def make (times : List α) (columns : List (String × List α)) : Noted Fault (InputSeries α) := do
  columns.forM fun (name, values) =>
    if values.length == times.length then pure ()
    else throw (.columnLength name values.length times.length)
  if hasDescent times then note .unorderedTimes
  return ⟨times.toArray, columns.map fun (name, values) => (name, values.toArray)⟩

/-- The names of the inputs. -/
def names (series : InputSeries α) : List String := series.columns.map (·.1)

/-- How far ahead of its time a sample applies. -/
def tolerance : α := 1e-9

/-- The number of rows up to a time, found by bisection between two numbers of rows. -/
def rowsBetween (times : Array α) (time : α) (low high : Nat) : Nat :=
  if low < high then
    let middle := (low + high) / 2
    if time < times.getD middle 0.0 then rowsBetween times time low middle
    else rowsBetween times time (middle + 1) high
  else low
termination_by high - low

/-- The row that applies at a time: the last one up to it, or the first one before any. -/
def rowAt (series : InputSeries α) (time : α) : Nat :=
  rowsBetween series.times (time + tolerance) 0 series.times.size - 1

/-- The values of the inputs at a time; a series without rows has none. -/
def sample (series : InputSeries α) (time : α) : List (String × α) :=
  if series.times.isEmpty then []
  else series.columns.map fun (name, values) => (name, values.getD (series.rowAt time) 0.0)

end InputSeries

end SignalFlow
