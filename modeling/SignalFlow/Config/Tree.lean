import SignalFlow.Value

/-! # Configuration trees

A configuration is a mapping of sections, each of which may hold further sections. A value is
addressed by the keys on the way to it (`Config.get?`, `Config.assign`), written with dots between
them (`Config.path`). One configuration can be laid over another (`Config.merge`).
-/

namespace SignalFlow

/-- A section of a configuration. -/
abbrev Section := List (String × Value)

namespace Config

/-- The keys of a dotted path. -/
def path (text : String) : List String := (text.toList.splitOn '.').map String.ofList

/-- The value that some keys lead to, starting from a value. -/
def follow? : List String → Value → Option Value
  | [], value => some value
  | key :: rest, .mapping entries => (Entries.get? entries key).bind (follow? rest)
  | _ :: _, _ => none

/-- The value at a path. -/
def get? (config : Section) (keys : List String) : Option Value :=
  follow? keys (.mapping config)

/-- Sets the value at a path. On the way down each section that is missing is put in its place; a key
that leads to something else than a section ends the way. This key is given back, with the
configuration as it was left there. -/
def assign : List String → Section → Value → Section × Option String
  | [], config, _ => (config, none)
  | [key], config, value => (Entries.set config key value, none)
  | key :: rest, config, value =>
      let entered := if Entries.has config key then config
        else Entries.set config key (.mapping [])
      match Entries.get? entered key with
      | some (.mapping inner) =>
          let (changed, refused) := assign rest inner value
          (Entries.set entered key (.mapping changed), refused)
      | _ => (entered, some key)

mutual

/-- A value laid over the one below it: sections are merged, anything else replaces it. -/
def layer (below : Option Value) : Value → Value
  | .mapping entries =>
      match below with
      | some (.mapping base) => .mapping (merge base entries)
      | _ => .mapping entries
  | value => value

/-- A configuration laid over another. -/
def merge (base : Section) : Section → Section
  | [] => base
  | (key, value) :: rest =>
      merge (Entries.set base key (layer (Entries.get? base key) value)) rest

end

end Config

end SignalFlow
