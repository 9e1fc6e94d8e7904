import SignalFlow.Value

/-! # Series of a plot

A plot of a run shows its outputs and, if wanted, its traces. A trace that has the name of a series
shown already is marked as one. -/

namespace SignalFlow

/-- Where a series of a plot comes from. -/
inductive Origin where
  | output | trace
deriving DecidableEq

/-- The name of an origin. -/
def Origin.name : Origin → String
  | .output => "output"
  | .trace => "trace"

/-- The series of a plot by name, in order. -/
def plotSeries (outputs traces : List String) (includeTraces : Bool) : List (String × Origin) :=
  let shown := Entries.ofPairs (outputs.map fun name => (name, Origin.output))
  if includeTraces then
    (Entries.ofPairs (traces.map fun name => (name, ()))).foldl (fun shown (name, _) =>
      Entries.set shown (if Entries.has shown name then name ++ " (scope)" else name) .trace) shown
  else shown

end SignalFlow
