import SignalFlow.Config.Tree
import SignalFlow.Fault
import SignalFlow.Json.Reader
import SignalFlow.Json.Writer
import SignalFlow.Notice
import SignalFlow.Store.Files

/-! # Settings

The settings of the library (`Settings`): a configuration over built-in defaults, and the file that
it is kept in. A file that is missing or malformed leaves the defaults, and the user is told.
-/

namespace SignalFlow

/-- A configuration and the file it is kept in. -/
structure Settings where
  file : String
  config : Section

namespace Settings

/-- The built-in configuration. -/
def defaults : Section :=
  [("simulation", .mapping [("default_time", .float 10.0), ("default_timestep", .float 0.01)]),
   ("engine", .mapping [("max_algebraic_iterations", .int 50),
      ("unconverged_policy", .text "ignore")]),
   ("codegen", .mapping [("default_language", .text "python")]),
   ("logging", .mapping [("level", .text "INFO")])]

/-- The file of the settings that come with the library, which holds the defaults. -/
def standardFile : String := "config/default_config.json"

/-- The settings that come with the library. -/
def standard : Settings := ⟨standardFile, defaults⟩

/-- The settings of a file, laid over the defaults. -/
def load [Host] (files : Files) (file : String) : Noted Fault Settings := do
  if !files.has file then
    note (.configMissing file)
    return ⟨file, defaults⟩
  match (files.read file).toOption.map Json.parse with
  | some (.ok (.mapping entries)) => return ⟨file, Config.merge defaults entries⟩
  | some (.ok _) =>
      note (.configNotObject file)
      return ⟨file, defaults⟩
  | none | some (.error .malformed) =>
      note .configUnreadable
      return ⟨file, defaults⟩
  | some (.error fault) => throw fault

/-- The settings of a file, or else those that come with the library. -/
def loadOrStandard [Host] (files : Files) (file : Option String) : Noted Fault Settings :=
  match file with
  | some file => if file.isEmpty then pure standard else load files file
  | none => pure standard

/-- The value at a dotted path, if there is one. -/
def get? (settings : Settings) (path : String) : Option Value :=
  Config.get? settings.config (Config.path path)

/-- The value at a dotted path, or a default. -/
def get (settings : Settings) (path : String) (default : Value) : Value :=
  (settings.get? path).getD default

/-- Sets the value at a dotted path, and tells whether that was possible. -/
def set {ε : Type} (settings : Settings) (path : String) (value : Value) :
    Noted ε (Bool × Settings) := do
  let (config, refused) := Config.assign (Config.path path) settings.config value
  match refused with
  | none => return (true, { settings with config })
  | some key =>
      note (.notSection path key)
      return (false, { settings with config })

/-- With the built-in configuration. -/
def reset (settings : Settings) : Settings := { settings with config := defaults }

/-- The text of the file of some settings. -/
def text (settings : Settings) : String := Json.indented 2 (.mapping settings.config)

/-- Saves the settings in their file, and tells whether that was possible. -/
def save [Host] (settings : Settings) (files : Files) : Noted Fault (Bool × Files) := do
  match files.writeDeep settings.file settings.text with
  | .ok files =>
      .ofExcept (Json.checkWritten (.mapping settings.config))
      return (true, files)
  | .error _ =>
      note .configNotWritten
      return (false, files)

/-! ## Validation -/

/-- The policies for loops that have not settled. -/
def policies : List String := ["ignore", "warn"]

/-- The levels of a log. -/
def levels : List String := ["DEBUG", "INFO", "WARNING", "ERROR", "CRITICAL"]

/-- Whether a value is a number above zero, or one that is no number. -/
def isPositive : Value → Bool
  | .bool b => b
  | .int n => 0 < n
  | .float x => !(x ≤ 0.0)
  | _ => false

/-- Whether a value is a whole number above zero. -/
def isPositiveWhole : Value → Bool
  | .int n => 0 < n
  | _ => false

/-- Whether a value is one of some texts. -/
def isOneOf (texts : List String) : Value → Bool
  | .text text => texts.contains text
  | _ => false

/-- The complaint about a value that is none of some texts. -/
def choiceError [Host] (setting : String) (value : Value) (texts : List String) :
    Except Fault (List String) := do
  if isOneOf texts value then return []
  return [s!"Invalid {setting} '{← value.toText}', must be one of " ++
    (Value.list (texts.map .text)).quoted]

/-- What is wrong with the settings. -/
def errors [Host] (settings : Settings) : Except Fault (List String) := do
  let value (path : String) : Value := settings.get path .null
  let policy ← choiceError "unconverged_policy" (value "engine.unconverged_policy") policies
  let language ← choiceError "codegen language" (value "codegen.default_language") languageNames
  let level ← choiceError "logging level" (value "logging.level") levels
  let time := if isPositive (value "simulation.default_time") then []
    else ["Simulation default_time must be positive"]
  let step := if isPositive (value "simulation.default_timestep") then []
    else ["Simulation default_timestep must be positive"]
  let limit := if isPositiveWhole (value "engine.max_algebraic_iterations") then []
    else ["engine.max_algebraic_iterations must be a positive integer"]
  return time ++ step ++ limit ++ policy ++ language ++ level

end Settings

end SignalFlow
