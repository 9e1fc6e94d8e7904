/-! # Evaluation order

Blocks that depend on each other without delay are evaluated in an order that puts drivers before
the blocks they feed (`stableOrder`). Among the blocks that are ready the lowest handle comes first;
the blocks that a cycle keeps from ever being ready come last.
-/

namespace SignalFlow

/-- Whether a block is ready: none of its drivers is pending. -/
def isReady (drivers : Nat → List Nat) (pending : List Nat) (handle : Nat) : Bool :=
  (drivers handle).all (!pending.contains ·)

/-- Takes the first ready block again and again; what never gets ready keeps its order. -/
def orderPending (drivers : Nat → List Nat) (pending : List Nat) : List Nat :=
  match _found : pending.find? (isReady drivers pending) with
  | none => pending
  | some handle => handle :: orderPending drivers (pending.erase handle)
termination_by pending.length
decreasing_by
  have member := List.mem_of_find?_eq_some _found
  have positive := List.length_pos_of_mem member
  rw [List.length_erase_of_mem member]
  omega

/-- Candidates in an order in which drivers come before the blocks they feed; only dependencies
among the candidates count. -/
def stableOrder (drivers : Nat → List Nat) (candidates : List Nat) : List Nat :=
  orderPending drivers (candidates.eraseDups.mergeSort (· ≤ ·))

end SignalFlow
