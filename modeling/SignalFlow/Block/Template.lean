import SignalFlow.Block.Schema
import SignalFlow.Fault

/-! # Templates of parameters

Groups of parameters that kinds of blocks share, with arguments by name (`Template.parameters`).
-/

namespace SignalFlow

/-- A template: its arguments, with the values of those that may be left out, and the parameters
that it makes of them. -/
structure Template where
  name : String
  arguments : List (String × Option Value)
  make : (String → Value) → List (Value × ParameterType × Value × Value)

namespace Template

/-- The templates. -/
def all : List Template :=
  [⟨"scalar_param", [("name", none), ("default", none), ("doc", none)], fun value =>
      [(value "name", .float, value "default", value "doc")]⟩,
   ⟨"list_param", [("name", none), ("default", none), ("doc", none)], fun value =>
      [(value "name", .list, value "default", value "doc")]⟩,
   ⟨"sample_time_param",
      [("default", some (.float 0.0)), ("name", some (.text "ts")), ("doc", some .null)],
      fun value =>
      let doc := value "doc"
      [(value "name", .float, value "default",
        if doc.isPresent then doc else .text Parameter.samplePeriodDoc)]⟩,
   ⟨"limit_params",
      [("default_min", some (.float (-1.0))), ("default_max", some (.float 1.0)),
       ("min_name", some (.text "min")), ("max_name", some (.text "max")),
       ("min_doc", some (.text "Lower limit")), ("max_doc", some (.text "Upper limit"))],
      fun value =>
      [(value "min_name", .float, value "default_min", value "min_doc"),
       (value "max_name", .float, value "default_max", value "max_doc")]⟩,
   ⟨"state_space_params", [("default_a", some (.float (-1.0)))], fun value =>
      (Parameter.stateSpace 0.0).map fun p =>
        let initial := if p.name == "A" then value "default_a" else p.initial
        (.text p.name, p.type, initial, .text p.doc)⟩,
   ⟨"label_name_param", [], fun _ =>
      [(.text Parameter.signalName.name, .string, Parameter.signalName.initial,
        .text Parameter.signalName.doc)]⟩]

/-- The items of an initial value, for a parameter that is a list. -/
def items : Value → Except Fault Value
  | .list items => .ok (.list items)
  | .text text => .ok (.list (text.toList.map fun c => .text c.toString))
  | .mapping entries => .ok (.list (entries.map fun (key, _) => .text key))
  | _ => .error .wrongKind

/-- The parameters that a template makes, each as its name, type, initial value and description; a
repeated name keeps its first place and its last value. -/
def parameters (name : String) (arguments : List (String × Value)) :
    Except Fault (List (String × ParameterType × Value × Value)) := do
  let some template := all.find? (·.name == name) | throw .missingName
  for (key, _) in arguments do
    if !Entries.has template.arguments key then throw .wrongKind
  for (key, initial) in template.arguments do
    if initial.isNone && !Entries.has arguments key then throw .wrongKind
  let value (key : String) : Value :=
    match Entries.get? arguments key with
    | some given => given
    | none => ((Entries.get? template.arguments key).join).getD .null
  let made ← (template.make value).mapM fun (key, type, initial, doc) => do
    return (key.written, type, ← if type == .list then items initial else .ok initial, doc)
  return Entries.ofPairs made

end Template

end SignalFlow
