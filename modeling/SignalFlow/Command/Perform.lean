import SignalFlow.Code.Generate
import SignalFlow.Command.Line
import SignalFlow.Diagram.File
import SignalFlow.Engine.Configure
import SignalFlow.Engine.Table
import SignalFlow.Text.Quoted
import SignalFlow.Validation.Check
import SignalFlow.Workspace.Basic

/-! # Performing a command line

A command line works on files and prints text (`CommandLine.perform`). What has been written and
printed before it fails stays. A file that cannot be used, and a diagram with errors in a
validation, end in a failure; a fault of the computation breaks off.
-/

namespace SignalFlow

/-- The words of a problem with a file. -/
def FileFault.message (fault : FileFault) : String :=
  s!"{fault.problem.message}: {Text.quoted fault.path}"

namespace Command

/-- How a command line ends. -/
inductive Ending where
  | success
  /-- A validation has found errors. -/
  | rejected
  /-- A file cannot be used. -/
  | failure (text : String)
  | help
  | misuse (cause : Misuse)
deriving DecidableEq

/-- The status that a program ends with. -/
def Ending.status : Ending → Nat
  | .success => 0
  | .rejected => 1
  | .failure _ => 1
  | .help => 0
  | .misuse _ => 2

/-- How to use the program. -/
def usage : String :=
  "usage: [--config FILE] [--log-config FILE] [--verbose] [--workspace FILE] COMMAND ...\n" ++
  "  run DIAGRAM [-t SECONDS] [-i FILE] [-o FILE] [--traces FILE]\n" ++
  "  codegen DIAGRAM [-l LANGUAGE] [-o FILE] [-t SECONDS] [--no-main]\n" ++
  "  validate DIAGRAM\n"

/-- What is complained of at the end. -/
def Ending.complaint : Ending → String
  | .failure text => s!"Error: {text}\n"
  | .misuse cause => usage ++ s!"error: {cause.message}\n"
  | _ => ""

/-- The files, and what has been printed. -/
structure World where
  files : Files
  printed : String

/-- Why the work ends early. -/
inductive Trouble where
  | failure (text : String)
  | fault (cause : Fault)

/-- Work on files. -/
abbrev Work := ExceptT Trouble (StateT World (StateM (List Notice)))

/-- Does work that leaves the files alone. -/
def Work.of {ε α : Type} (trouble : ε → Trouble) (work : Noted ε α) : Work α :=
  fun world notices =>
    let (result, notices) := work.run notices
    ((result.mapError trouble, world), notices)

/-- Does something to the files. -/
def Work.onFiles (change : Files → Except FileFault Files) : Work Unit := do
  match change (← get).files with
  | .ok files => modify fun world => { world with files }
  | .error fault => throw (.failure fault.message)

/-- Prints a text. -/
def Work.print (text : String) : Work Unit :=
  modify fun world => { world with printed := world.printed ++ text }

/-- The trouble with a file. -/
def Trouble.ofFile (path message : String) : Trouble := .failure s!"{path}: {message}"

/-- The trouble with a diagram. -/
def Trouble.ofLoad (path : String) : FileError → Trouble
  | .problem cause => .ofFile path cause.message
  | .fault cause => .fault cause

/-- The trouble with a table of inputs. -/
def Trouble.ofInput (path : String) : InputError → Trouble
  | .problem cause => .ofFile path cause.message
  | .fault cause => .fault cause

/-- Writes a result to a file, making the folders that it lies in; without a file, or with a dash
for one, the result is printed. -/
def writeResult (output : Option String) (text : String) : Work Unit :=
  match output with
  | none => Work.print text
  | some path =>
      if path == "-" then Work.print text
      else Work.onFiles (·.writeDeep path text)

/-- The diagram of a command line, with the variables of the workspace laid over its own. -/
def loadDiagram [Host] (line : CommandLine) : Work (Diagram String) := do
  let files := (← get).files
  let diagram ← Work.of (Trouble.ofLoad line.diagram) (Diagram.load files line.diagram)
  match line.workspace with
  | none => return diagram
  | some path =>
      let workspace ← Work.of .fault (.ofExcept (Workspace.ofVariables diagram.vars))
      let (loaded, workspace) ← Work.of .fault (workspace.load files path)
      unless loaded do throw (.ofFile path InputProblem.notLoaded.message)
      return { diagram with vars := workspace.vars }

/-- The compiled diagram, with the step and the duration of the settings where it gives none. -/
def compile [Host] (diagram : Diagram String) (settings : Settings) : Work (Compiled Float) :=
  Work.of .fault (Compiled.ofDiagram diagram settings.step settings.duration)

/-- Runs an engine. -/
def runEngine [Host] (engine : Engine Float) (duration : Option Float)
    (series : Option (InputSeries Float)) : Work (RunResult Float) :=
  Work.of .fault (ExceptT.mk do
    let (result, _) ← (Engine.run duration series).run engine
    return result)

/-- Simulates a diagram, and writes the tables of its outputs and its traces. -/
def simulate [Host] (diagram : Diagram String) (settings : Settings) (duration : Option Float)
    (input output traces : Option String) : Work Unit := do
  let compiled ← compile diagram settings
  let engine ← Work.of .fault (.ofExcept (Engine.new compiled settings.engine))
  let series ← match input with
    | none => pure none
    | some path => do
        let table := Table.load (← get).files path (some compiled.inputNames)
        pure (some (← Work.of (Trouble.ofInput path) table))
  let result ← runEngine engine duration series
  let table ← Work.of .fault (.ofExcept (Table.outputs result.times result.outputs none))
  writeResult output table
  if let some path := traces then
    let table ← Work.of .fault (.ofExcept (Table.text result.times result.traces))
    Work.onFiles (·.write path table)

/-- Generates a program from a diagram, and writes it. -/
def generate [Host] (diagram : Diagram String) (settings : Settings) (language : Option Language)
    (duration : Option Float) (output : Option String) (withMain : Bool) : Work Unit := do
  let language ← match language with
    | some language => pure language
    | none =>
        let name := settings.get "codegen.default_language" (.text Language.python.name)
        Work.of .fault (.ofExcept (Language.ofValue name))
  let compiled ← compile diagram settings
  writeResult output
    (← Work.of .fault (compiled.source language duration withMain settings.maxPasses))

/-- The lines that report a finding. -/
def findingText (finding : Finding) : String :=
  finding.text ++ "\n" ++
    match finding.suggestion with
    | some suggestion => s!"    suggestion: {suggestion}\n"
    | none => ""

/-- Validates a diagram, and prints what is found. -/
def validate [Host] (path : String) (diagram : Diagram String) : Work Ending := do
  let found ← Work.of .fault (Validation.findings diagram)
  if found.isEmpty then Work.print s!"{path}: no issues found\n"
  Work.print (String.join (found.map findingText))
  return if Validation.hasErrors found then .rejected else .success

/-- Does what a command line asks for. -/
def work [Host] (line : CommandLine) : Work Ending := do
  let settings ← Work.of .fault (Settings.loadOrStandard (← get).files line.config)
  let diagram ← loadDiagram line
  match line.task with
  | .simulate duration input output traces =>
      simulate diagram settings duration input output traces
      return .success
  | .generate language duration output withMain =>
      generate diagram settings language duration output withMain
      return .success
  | .validate => validate line.diagram diagram

/-- What a command line leaves behind. -/
structure Report where
  ending : Ending
  world : World

end Command

open Command

/-- Performs a command line on some files. -/
def CommandLine.perform [Host] (line : CommandLine) (files : Files) : Noted Fault Report :=
  fun notices =>
    let ((result, world), notices) := (work line).run ⟨files, ""⟩ notices
    let report := match result with
      | .ok ending => .ok ⟨ending, world⟩
      | .error (.failure text) => .ok ⟨.failure text, world⟩
      | .error (.fault cause) => .error cause
    (report, notices)

/-- Performs the command line of some arguments on some files. -/
def performArguments [Host] (arguments : List String) (files : Files) : Noted Fault Report :=
  match CommandLine.read arguments with
  | .ok line => line.perform files
  | .error .help => return ⟨.help, files, usage⟩
  | .error (.misuse cause) => return ⟨.misuse cause, files, ""⟩

end SignalFlow
