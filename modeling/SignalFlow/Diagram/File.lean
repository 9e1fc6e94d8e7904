import SignalFlow.Diagram.Read
import SignalFlow.Json.Reader
import SignalFlow.Json.Writer
import SignalFlow.Store.Files
import SignalFlow.Text.Lines

/-! # Diagram files

A diagram is loaded from a file in JSON, or in YAML if the name of the file says so
(`Diagram.load`), and saved in the same way (`Diagram.save`).
-/

namespace SignalFlow

/-- Why a file gives no diagram, or takes none. -/
inductive DiagramProblem where
  | unreadable
  | unparsable
  | notMapping
  | format (cause : FormatError)
  | unwritable
deriving DecidableEq

/-- The words of a problem. -/
def DiagramProblem.message : DiagramProblem → String
  | .unreadable => "cannot read file"
  | .unparsable => "cannot parse file"
  | .notMapping => "top level must be a mapping"
  | .format cause => cause.message
  | .unwritable => "cannot write file"

/-- What loading or saving a diagram may end with. -/
inductive FileError where
  | problem (cause : DiagramProblem)
  | fault (cause : Fault)

namespace Diagram

/-- Whether a file is one in YAML, by its name. -/
def isYaml (path : String) : Bool :=
  let name := String.ofList (path.toList.map Char.toLower)
  name.endsWith ".yaml" || name.endsWith ".yml"

/-- What a fault is for the reader of a file: a text that is refused is a problem of the file. -/
def unparsed (fault : Fault) : FileError :=
  match fault with
  | .malformed | .undefined => .problem .unparsable
  | fault => .fault fault

/-- The value in a file. -/
def readValue [Host] (files : Files) (path : String) : Except FileError Value :=
  match files.read path with
  | .error _ => .error (.problem .unreadable)
  | .ok text =>
      let text := Text.unifyBreaks text
      match if isYaml path then Host.readYaml text else Json.parse text with
      | .error fault => .error (unparsed fault)
      | .ok (.mapping entries) => .ok (.mapping entries)
      | .ok _ => .error (.problem .notMapping)

/-- The diagram in a file. -/
def load [Host] (files : Files) (path : String) : Noted FileError (Diagram String) := do
  let value ← .ofExcept (readValue files path)
  let named (cause : ReadError) : FileError :=
    match cause with
    | .format cause => .problem (.format cause)
    | .fault cause => .fault cause
  ExceptT.adapt named (ofValue value)

/-- The text of a file with a value. -/
def fileText [Host] (path : String) (value : Value) : Except Fault String :=
  if isYaml path then Host.writeYaml value
  else (Json.checkWritten value).map fun _ => Json.indented 4 value

/-- Saves a diagram in a file, making the folders that it lies in. -/
def save [Host] (diagram : Diagram String) (files : Files) (path : String) :
    Except FileError Files := do
  let text := fileText path (diagram.toValue .text)
  -- The file is opened before the text is made, so that it is the first to be told of.
  let written ← (files.writeDeep path (text.toOption.getD "")).mapError
    fun _ => .problem .unwritable
  let _ ← text.mapError .fault
  return written

end Diagram

end SignalFlow
