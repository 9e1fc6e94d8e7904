import SignalFlow.Diagram.Basic
import SignalFlow.Notice

/-! # Wiring

A compiled diagram knows its blocks by handles, their places in the list of blocks. A connection
between two blocks of the diagram, to a port that is not negative, is a `Wire`; any other is
dropped, and the user is told why. Of several wires to one port the last one drives it.
-/

namespace SignalFlow

/-- A connection between blocks known by their handles. -/
structure Wire where
  source : Nat
  target : Nat
  port : Nat
deriving DecidableEq

namespace Wiring

/-- The wire of a connection, or the reason why it is dropped. -/
def wire? (ids : List String) (connection : Connection String) : Except Notice Wire :=
  match ids.idxOf? connection.source, ids.idxOf? connection.target with
  | some source, some target =>
      match connection.targetPort with
      | .ofNat port => .ok ⟨source, target, port⟩
      | .negSucc _ =>
          .error (.negativePort connection.source connection.target connection.targetPort)
  | _, _ => .error (.dangling connection.source connection.target)

/-- The wires of a diagram, in the order of their connections. -/
def wires (ids : List String) (connections : List (Connection String)) : List Wire :=
  connections.filterMap fun connection => (wire? ids connection).toOption

/-- What is to be told about connections, with the wires that came before them. -/
def noticesAfter (ids : List String) : List Wire → List (Connection String) → List Notice
  | _, [] => []
  | before, connection :: rest =>
      match wire? ids connection with
      | .error notice => notice :: noticesAfter ids before rest
      | .ok wire =>
          let repeated := before.any fun w => w.target == wire.target && w.port == wire.port
          let rest := noticesAfter ids (wire :: before) rest
          if repeated then
            .secondDriver connection.targetPort connection.target connection.source :: rest
          else rest

/-- What is to be told about the connections of a diagram. -/
def notices (ids : List String) (connections : List (Connection String)) : List Notice :=
  noticesAfter ids [] connections

/-- The driver of a port: the source of the last wire to it. -/
def driver? (wires : List Wire) (target port : Nat) : Option Nat :=
  ((wires.filter fun w => w.target == target && w.port == port).getLast?).map (·.source)

/-- The ports of a block, ascending: those of its kind and those with a wire. -/
def ports (wires : List Wire) (kind : Kind) (target : Nat) : List Nat :=
  (List.range kind.inputs.length ++ (wires.filter (·.target == target)).map (·.port)).eraseDups
    |>.mergeSort (· ≤ ·)

end Wiring

end SignalFlow
