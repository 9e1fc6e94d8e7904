import SignalFlow.Constants
import SignalFlow.Notice
import SignalFlow.Store.Files
import SignalFlow.Workspace.Statement

/-! # Workspaces

A workspace (`Workspace`) holds the variables of a diagram and the constants that they stand for. A
file of assignments can be loaded into it (`Workspace.load`): its variables take the place of those
of the same names, behind all others and in the order of the file, so that each is resolved over
what is defined above it.
-/

namespace SignalFlow

/-- Variables with the constants that they stand for, and the file last loaded. -/
structure Workspace where
  vars : List (String × Value)
  constants : Constants
  file : Option String

namespace Workspace

/-- The workspace of some variables. -/
def ofVariables [Host] (vars : List (String × Value)) : Except Fault Workspace :=
  return ⟨vars, ← Constants.ofVariables vars, none⟩

/-- The variables that some statements of a text assign, with the text of their values. -/
def assigned (text : List Char) (statements : List Statement) : List (String × Value) :=
  Entries.ofPairs (statements.flatMap fun
    | .assignment names first stop =>
        let value := Value.text (String.ofList ((text.take stop).drop first))
        names.map fun name => (name, value)
    | .other _ => [])

/-- Variables with others laid over them, which come last. -/
def overlay (vars others : List (String × Value)) : List (String × Value) :=
  vars.filter (fun (name, _) => !Entries.has others name) ++ others

/-- The text of a file and its statements, if the file can be read and is well-formed. -/
def statementsIn? [Host] (files : Files) (path : String) :
    Except Fault (Option (List Char × List Statement)) :=
  match files.read path with
  | .error _ => .ok none
  | .ok text =>
      let text := Text.unifyBreakList text.toList
      match Host.fileBreakdown? (String.ofList text) with
      | some breakdown => .error breakdown.fault
      | none => .ok ((Statement.parse? text).map fun statements => (text, statements))

/-- Loads a file, and tells whether that was possible. A statement that is no assignment is
skipped. -/
def load [Host] (workspace : Workspace) (files : Files) (path : String) :
    Noted Fault (Bool × Workspace) := do
  if !files.has path then
    note (.workspaceMissing path)
    return (false, workspace)
  match ← liftExcept (statementsIn? files path) with
  | none =>
      note .workspaceMalformed
      return (false, workspace)
  | some (text, statements) =>
      for statement in statements do
        if let .other line := statement then note (.skippedLine line path)
      let vars := overlay workspace.vars (assigned text statements)
      return (true, ⟨vars, ← liftExcept (Constants.ofVariables vars), some path⟩)

end Workspace

end SignalFlow
