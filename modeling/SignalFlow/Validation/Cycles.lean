import SignalFlow.Compiled.Basic

/-! # Cycles without delay

Algebraic blocks that feed each other in a circle never settle, unless a label bus breaks the
circle. `Cycles.loops` finds the blocks of each such circle: two blocks belong to the same loop if
each can be reached from the other along wires between algebraic blocks.

What a block reaches is found by a search with a stack (`Cycles.search`), and whether it reaches a
given one by a search that ends as soon as it meets that one (`Cycles.leadsTo`). A search takes each
handle up once, so it ends.
-/

namespace SignalFlow.Cycles

section Search

variable (next : Nat → List Nat)

/-- How much a search can still put on its stack and take up, with some handles unseen. -/
def effort : List Nat → Nat
  | [] => 0
  | handle :: unseen => (next handle).length + 1 + effort unseen

theorem effort_erase {unseen : List Nat} {handle : Nat} (isNew : handle ∈ unseen) :
    effort next (unseen.erase handle) + ((next handle).length + 1) = effort next unseen := by
  induction unseen with
  | nil => cases isNew
  | cons first rest ih =>
      by_cases same : first = handle
      · subst same
        rw [List.erase_cons_head, effort, Nat.add_comm]
      · have later := ih (List.mem_of_ne_of_mem (Ne.symm same) isNew)
        rw [List.erase_cons_tail (by simpa using same), effort, effort]
        omega

/-- Goes on with a search. The handle on top of the stack is taken off; one that is unseen is found,
and what it leads to is put on the stack, so that the last one comes next. -/
def search (found unseen : List Nat) : List Nat → List Nat
  | [] => found
  | handle :: stack =>
      if handle ∈ unseen then
        search (handle :: found) (unseen.erase handle) ((next handle).reverse ++ stack)
      else search found unseen stack
termination_by stack => effort next unseen + stack.length
decreasing_by
  · have less := effort_erase next ‹handle ∈ unseen›
    simp only [List.length_append, List.length_reverse, List.length_cons]
    omega
  · simp only [List.length_cons]
    omega

/-- Whether a search comes to a goal; it ends there. -/
def leadsTo (goal : Nat) (unseen : List Nat) : List Nat → Bool
  | [] => false
  | handle :: stack =>
      if handle == goal then true
      else if handle ∈ unseen then
        leadsTo goal (unseen.erase handle) ((next handle).reverse ++ stack)
      else leadsTo goal unseen stack
termination_by stack => effort next unseen + stack.length
decreasing_by
  · have less := effort_erase next ‹handle ∈ unseen›
    simp only [List.length_append, List.length_reverse, List.length_cons]
    omega
  · simp only [List.length_cons]
    omega

end Search

variable {α : Type}

/-- Whether a block takes part in loops: an algebraic one that no label bus seeds. -/
def isCandidate (node : Node α) : Bool := node.phase == .algebraic && !node.seedsLoop

/-- The handles of the candidates, ascending. -/
def candidates (compiled : Compiled α) : List Nat :=
  (compiled.nodes.toList.filter isCandidate).map (·.handle)

/-- The candidates that a block feeds, each of them once for each port that it feeds. -/
def consumers (compiled : Compiled α) (driver : Nat) : List Nat :=
  (compiled.nodes.toList.filter isCandidate).flatMap fun node =>
    (node.driverHandles.filter (· == driver)).map fun _ => node.handle

/-- The candidates that a candidate reaches in one or more steps. -/
def reached (compiled : Compiled α) (start : Nat) : List Nat :=
  search (consumers compiled) [] (candidates compiled) (consumers compiled start).reverse

/-- Whether a candidate reaches another one in one or more steps. -/
def reaches (compiled : Compiled α) (start goal : Nat) : Bool :=
  leadsTo (consumers compiled) goal (candidates compiled) (consumers compiled start).reverse

/-- The candidates on loops through a candidate, ascending; none if it is on no loop. -/
def loop (compiled : Compiled α) (start : Nat) : List Nat :=
  let found := reached compiled start
  if found.contains start then
    (candidates compiled).filter fun handle =>
      handle == start || (found.contains handle && reaches compiled handle start)
  else []

/-- The loops of the candidates of a list that are in none of those found so far. -/
def loopsFrom (compiled : Compiled α) : List (List Nat) → List Nat → List (List Nat)
  | found, [] => found
  | found, start :: rest =>
      if found.any (·.contains start) then loopsFrom compiled found rest
      else
        match loop compiled start with
        | [] => loopsFrom compiled found rest
        | members => loopsFrom compiled (found ++ [members]) rest

/-- The loops, by their lowest handles. -/
def loops (compiled : Compiled α) : List (List Nat) :=
  loopsFrom compiled [] (candidates compiled)

end SignalFlow.Cycles
