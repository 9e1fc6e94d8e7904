import SignalFlow.Code.Language
import SignalFlow.Command.Arguments
import SignalFlow.Number.Read

/-! # Command lines

A command line (`CommandLine`) names a diagram and what is to be done with it: to simulate it, to
generate a program from it or to validate it. Options for all commands stand in front of the
command, its own options behind it.
-/

namespace SignalFlow

/-- What is to be done with a diagram. -/
inductive Task where
  /-- To simulate it over a duration with the inputs of a file, and to write tables of its outputs
  and its traces. -/
  | simulate (duration : Option Float) (input output traces : Option String)
  /-- To generate a program. -/
  | generate (language : Option Language) (duration : Option Float) (output : Option String)
      (withMain : Bool)
  | validate

/-- A command line. -/
structure CommandLine where
  /-- The file of the settings. -/
  config : Option String
  /-- The file of variables that are laid over those of the diagram. -/
  workspace : Option String
  diagram : String
  task : Task

namespace Command

/-- The options of all commands. -/
inductive Key where
  | config | logConfig | verbose | workspace
  | duration | input | output | plot | traces
  | language | noMain
  | help
deriving DecidableEq

/-- Accepts every value. -/
def anyText (_ : String) : Bool := true

/-- Accepts numbers. -/
def numbers (text : String) : Bool := (Number.readFloat? text).isSome

/-- Accepts the names of languages. -/
def languages (text : String) : Bool := (Language.ofName? text).isSome

/-- The option that asks for help. -/
def helpRule : Rule Key := ⟨.help, ["-h", "--help"], .help⟩

/-- The option for the duration. -/
def durationRule : Rule Key := ⟨.duration, ["-t"], .value numbers⟩

/-- The option for the file of the result. -/
def outputRule : Rule Key := ⟨.output, ["-o"], .value anyText⟩

/-- The options in front of the command. What the log shows, and how much of it, changes nothing in
the result. -/
def globalRules : List (Rule Key) :=
  [helpRule, ⟨.config, ["--config"], .value anyText⟩,
   ⟨.logConfig, ["--log-config"], .value anyText⟩,
   ⟨.verbose, ["--verbose", "-v"], .flag⟩, ⟨.workspace, ["--workspace"], .value anyText⟩]

/-- The commands. -/
inductive Name where
  | run | codegen | validate
deriving DecidableEq

namespace Name

/-- The text of a command. -/
def text : Name → String
  | .run => "run"
  | .codegen => "codegen"
  | .validate => "validate"

/-- The command of a text. -/
def ofText? (text : String) : Option Name :=
  [run, codegen, validate].find? (·.text == text)

/-- The options of a command. A plot is not drawn here. -/
def rules : Name → List (Rule Key)
  | .run => [helpRule, durationRule, ⟨.input, ["-i"], .value anyText⟩, outputRule,
      ⟨.plot, ["--plot"], .value anyText⟩, ⟨.traces, ["--traces"], .value anyText⟩]
  | .codegen => [helpRule, ⟨.language, ["-l", "--language"], .value languages⟩, outputRule,
      durationRule, ⟨.noMain, ["--no-main"], .flag⟩]
  | .validate => [helpRule]

/-- What a command does with its options. -/
def task (name : Name) (given : Given Key) : Task :=
  let duration := (given.value? .duration).bind Number.readFloat?
  let named (key : Key) : Option String := (given.value? key).filter (· != "")
  match name with
  | .run => .simulate duration (named .input) (given.value? .output) (named .traces)
  | .codegen => .generate ((given.value? .language).bind Language.ofName?) duration
      (given.value? .output) (!given.has .noMain)
  | .validate => .validate

end Name

/-- Fails for a misuse. -/
def orStop {α : Type} (result : Except Misuse α) : Except Stop α := result.mapError .misuse

/-- The command at the front of some arguments, with the arguments of its own. -/
def command : List (Word Key) → Except Stop (Name × List String)
  | [] => .error (.misuse .noCommand)
  | word :: rest =>
      match word.form, Name.ofText? word.text with
      | .plain, some name => .ok (name, rest.map (·.text))
      | _, _ => .error (.misuse (.unknownCommand word.text))

end Command

open Command in
/-- The command line of some arguments. -/
def CommandLine.read (arguments : List String) : Except Stop CommandLine := do
  let (global, rest) ← front globalRules .empty (← orStop (words globalRules arguments))
  let (name, rest) ← command rest
  let (own, place) ← single name.rules .empty .before (← orStop (words name.rules rest))
  let some diagram := place.text? | throw (.misuse .noDiagram)
  let unread := global.unread ++ own.unread
  unless unread.isEmpty do throw (.misuse (.unread unread))
  let named (key : Key) : Option String := (global.value? key).filter (· != "")
  return ⟨named .config, named .workspace, diagram, name.task own⟩

end SignalFlow
