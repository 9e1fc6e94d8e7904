import SignalFlow.Host
import SignalFlow.Number.Read

/-! # Whole numbers and texts of values

A value may stand for a whole number (`Value.toInt`), and a text can be made of it
(`Value.toText`). A whole number with too many digits is never written, nor is a value that is
nested too deep.
-/

namespace SignalFlow

/-- The whole number that a value stands for: a truth value, a number without its fraction, or the
text of a whole number. -/
def Value.toInt : Value → Except Fault Int
  | .bool b => .ok (if b then 1 else 0)
  | .int n => .ok n
  | .float x =>
      match Binary64.truncate? x with
      | some n => .ok n
      | none => .error (if x.isNaN then .undefined else .tooLarge)
  | .text s =>
      match Number.readInt? s with
      | some n => .ok n
      | none => .error .undefined
  | _ => .error .wrongKind

namespace Value

mutual

/-- What keeps a value from being written with `room` for that many levels of values, itself among
them: the first whole number in it that is too long, or the first value that is nested too deep. -/
def obstacle? (room : Nat) (value : Value) : Option Fault :=
  if room == 0 then some .tooDeep
  else
    match value with
    | .int n => if Nat.pow 10 Number.digitLimit ≤ n.natAbs then some .undefined else none
    | .list items => obstacleAmong? (room - 1) items
    | .mapping entries => obstacleUnder? (room - 1) entries
    | _ => none

/-- What keeps the items of a list from being written. -/
def obstacleAmong? (room : Nat) : List Value → Option Fault
  | [] => none
  | item :: rest => (obstacle? room item).or (obstacleAmong? room rest)

/-- What keeps the entries of a mapping from being written. -/
def obstacleUnder? (room : Nat) : List (String × Value) → Option Fault
  | [] => none
  | (_, value) :: rest => (obstacle? room value).or (obstacleUnder? room rest)

end

/-- The text of a value. -/
def toText [Host] (value : Value) : Except Fault String :=
  (value.obstacle? (Host.textDepth + 1)).elim (.ok value.written) .error

end Value

end SignalFlow
