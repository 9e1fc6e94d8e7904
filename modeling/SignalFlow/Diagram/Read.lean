import SignalFlow.Diagram.Basic
import SignalFlow.Notice

/-! # Reading diagrams

`Diagram.ofValue` makes a diagram of a value read from a file. The ids that blocks bring along are
reserved before any id is handed out; a block without an id gets a fresh one, and so does a block
that repeats an earlier id, so that every block can be addressed.
-/

namespace SignalFlow

/-- Why a value is no diagram. -/
inductive FormatError where
  | notMapping
  | blocksNotList
  | connectionsNotList
  | variablesNotMapping
  | block (index : Nat)
  | params (index : Nat)
  | ends (index : Nat)
  | port (index : Nat)
deriving DecidableEq

/-- The words of an error. -/
def FormatError.message : FormatError → String
  | .notMapping => "diagram must be a mapping"
  | .blocksNotList => "'blocks' must be a list"
  | .connectionsNotList => "'connections' must be a list"
  | .variablesNotMapping => "'variables' must be a mapping"
  | .block index => s!"block #{index} must be a mapping with a 'type'"
  | .params index => s!"block #{index} params must be a mapping"
  | .ends index => s!"connection #{index} needs 'from' and 'to'"
  | .port index => s!"connection #{index} has a non-integer port"

/-- What reading a diagram may end with. -/
inductive ReadError where
  | format (cause : FormatError)
  | fault (cause : Fault)

namespace Diagram

/-- A block entry of a file: the id it brings along, if any, its type and its parameters. -/
structure Entry where
  id : Option String
  type : Value
  params : List (String × Value)

/-- The list under a key, empty if nothing is there. -/
def listAt? (fields : List (String × Value)) (key : String) : Option (List Value) :=
  match Entries.get? fields key with
  | none => some []
  | some (.list items) => some items
  | some value => if value.isPresent then none else some []

/-- The mapping under a key, empty if nothing is there. -/
def mappingAt? (fields : List (String × Value)) (key : String) : Option (List (String × Value)) :=
  match Entries.get? fields key with
  | none => some []
  | some (.mapping entries) => some entries
  | some value => if value.isPresent then none else some []

/-- The id that a block brings along. -/
def explicitId [Host] (fields : List (String × Value)) : Except Fault (Option String) :=
  match Entries.get? fields "id" with
  | none | some .null => .ok none
  | some value => value.toText.map fun text => if text.isEmpty then none else some text

/-- The block entry at an index. -/
def entry? [Host] (index : Nat) (value : Value) : Except ReadError Entry :=
  match value with
  | .mapping fields =>
      match Entries.get? fields "type" with
      | none => .error (.format (.block index))
      | some type =>
          match mappingAt? fields "params" with
          | none => .error (.format (.params index))
          | some params =>
              (explicitId fields).mapError .fault |>.map fun id => ⟨id, type, params⟩
  | _ => .error (.format (.block index))

/-- Adds the block of an entry: under its own id if that is still free, else under a fresh one. -/
def addEntry [Host] (reserved : List String) (diagram : Diagram String) (entry : Entry) :
    Noted ReadError (Diagram String) := do
  let fresh := diagram.freshId id "b" reserved
  let (key, diagram) ←
    match entry.id with
    | none => pure fresh
    | some given =>
        if (diagram.block? given).isSome then
          note (.renamed given fresh.1)
          pure fresh
        else pure (given, diagram)
  let added : Except Fault (Diagram String) := do
    diagram.addBlock .ok ⟨key, ← entry.type.toText, entry.params⟩
  .ofExcept (added.mapError .fault)

/-- The port under a key, zero if nothing is there. -/
def portAt (fields : List (String × Value)) (key : String) : Except Fault Int :=
  match Entries.get? fields key with
  | none => .ok 0
  | some value => if value.isPresent then value.toInt else .ok 0

/-- The ports of a connection entry. A port that is too large to be a whole number is a fault, any
other one that is no number an error of the format. -/
def ports (index : Nat) (fields : List (String × Value)) : Except ReadError (Int × Int) :=
  let result : Except Fault (Int × Int) := do
    let sourcePort ← portAt fields "fromIndex"
    let targetPort ← portAt fields "toIndex"
    return (sourcePort, targetPort)
  match result with
  | .ok ports => .ok ports
  | .error .tooLarge => .error (.fault .tooLarge)
  | .error _ => .error (.format (.port index))

/-- The connection entry at an index. -/
def connection? [Host] (index : Nat) (value : Value) : Except ReadError (Connection String) :=
  match value with
  | .mapping fields =>
      match Entries.get? fields "from", Entries.get? fields "to" with
      | some source, some target => do
          let (sourcePort, targetPort) ← ports index fields
          let source ← source.toText.mapError .fault
          let target ← target.toText.mapError .fault
          return ⟨source, target, sourcePort, targetPort⟩
      | _, _ => .error (.format (.ends index))
  | _ => .error (.format (.ends index))

/-- Applies a function to each item of a list and its index, up to the first error. -/
def eachIndexed {ε α β : Type} (f : Nat → α → Except ε β) : Nat → List α → Except ε (List β)
  | _, [] => .ok []
  | index, item :: rest => do
      let first ← f index item
      return first :: (← eachIndexed f (index + 1) rest)

/-- The parts of a diagram's value. -/
structure Parts where
  blocks : List Value
  connections : List Value
  vars : List (String × Value)
  runtime : Value
  dt : Value

/-- The parts of a diagram's value. The step may be written as the sample time. -/
def parts? : Value → Except FormatError Parts
  | .mapping fields => do
      let some blocks := listAt? fields "blocks" | throw .blocksNotList
      let some connections := listAt? fields "connections" | throw .connectionsNotList
      let some vars := mappingAt? fields "variables" | throw .variablesNotMapping
      let dt := match Entries.get? fields "dt" with
        | some value => value
        | none => (Entries.get? fields "sampleTime").getD .null
      return ⟨blocks, connections, vars, (Entries.get? fields "runtime").getD .null, dt⟩
  | _ => throw .notMapping

/-- The diagram that a value describes. -/
def ofValue [Host] (value : Value) : Noted ReadError (Diagram String) := do
  let parts ← .ofExcept ((parts? value).mapError .format)
  let entries ← .ofExcept (eachIndexed entry? 0 parts.blocks)
  let reserved := entries.filterMap (·.id)
  let diagram ← entries.foldlM (addEntry reserved) (empty parts.vars parts.runtime parts.dt)
  let connections ← .ofExcept (eachIndexed connection? 0 parts.connections)
  return connections.foldl connect diagram

end Diagram

end SignalFlow
