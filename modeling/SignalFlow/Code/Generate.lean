import SignalFlow.Code.C
import SignalFlow.Code.Python
import SignalFlow.Engine.Configure
import SignalFlow.Value.Whole

/-! # Generating programs -/

namespace SignalFlow

/-- The limit of passes of a program unless the settings give another one. -/
def Code.standardLimit : Value := .int 50

/-- The lines of the program of a compiled diagram. -/
def Language.programLines (language : Language) (program : Code.Program Float) (withMain : Bool) :
    List String :=
  match language with
  | .python => Code.Python.moduleLines program withMain
  | .c => Code.CSource.sourceLines program withMain

/-- The source of a program for a compiled diagram. The duration of the diagram may be replaced;
`limit` is the limit of passes as it is given. A notice is left for each block without a kind. -/
def Compiled.source [Host] (compiled : Compiled Float) (language : Language)
    (duration : Option Float)
    (withMain : Bool) (limit : Value) : Noted Fault String := do
  let limit ← liftExcept limit.toInt
  for node in compiled.nodes.toList do
    if node.kind == .unsupported then note (.exportedAsZero node.id node.type)
  let program ← liftExcept (Code.Program.ofCompiled compiled duration limit)
  return String.join ((language.programLines program withMain).map (· ++ "\n"))

/-- The language that a value names, in any case. -/
def Language.ofValue [Host] (value : Value) : Except Fault Language := do
  let name ← value.toText
  match Language.ofName? (String.ofList (name.toList.map Char.toLower)) with
  | some language => return language
  | none => throw (.unknownLanguage name)

end SignalFlow
