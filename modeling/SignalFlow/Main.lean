import SignalFlow.Command.Perform
import SignalFlow.Host.Usual

/-! # The program

Performs its command line: reads the files that the arguments may name, works on them
(`performArguments`), writes what has changed and prints what there is to say.
-/

namespace SignalFlow

/-- Some files with what there is at a place: a text, a folder or nothing. -/
def Files.look (files : Files) (way : Steps) : IO Files := do
  let path := "/".intercalate way
  try
    let found ← IO.FS.realPath path
    if (← found.metadata).type matches .dir then
      return { files with folders := files.folders ++ [way] }
    else return { files with texts := put files.texts way (← IO.FS.readFile path) }
  catch _ => return files

/-- The files that some paths name, and what lies on the way to them. A file that cannot be read as
text counts as missing. -/
def Files.snapshot (paths : List String) : IO Files :=
  let ways := paths.flatMap fun path =>
    let way := steps path
    (List.range way.length).map fun count => way.take (count + 1)
  ways.eraseDups.foldlM look empty

/-- The texts in some arguments that may be paths: the arguments themselves, and what may be joined
to an option. -/
def pathsOf (arguments : List String) : List String :=
  arguments.flatMap fun text =>
    let joined := String.ofList ((text.toList.dropWhile (· != '=')).drop 1)
    [text, String.ofList (text.toList.drop 2), joined].filter (· != "")

/-- Writes the files that have changed, with the folders that they lie in. -/
def Files.store (before after : Files) : IO Unit := do
  for way in after.folders do
    unless before.isFolder way do IO.FS.createDirAll ("/".intercalate way)
  for (path, text) in before.changes after do
    IO.FS.writeFile path text

end SignalFlow

open SignalFlow SignalFlow.Host.Usual in
/-- Performs the command line. -/
def main (arguments : List String) : IO UInt32 := do
  let before ← Files.snapshot (pathsOf arguments)
  let (result, notices) := (performArguments arguments before).run.run []
  for notice in notices do IO.eprintln notice.message
  match result with
  | .ok report =>
      before.store report.world.files
      IO.print report.world.printed
      IO.eprint report.ending.complaint
      return report.ending.status.toUInt32
  | .error fault =>
      IO.eprintln (fault.message?.getD "the computation has failed")
      return 1
