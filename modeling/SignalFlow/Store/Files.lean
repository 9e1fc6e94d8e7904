/-! # Files

The files that a program reads and writes (`Files`): texts by path in a tree of folders. A path
begins at one folder, that of the program; steps to a folder itself are left out of it, and steps
back are taken.
-/

namespace SignalFlow

/-- Why a file cannot be used. -/
inductive FileProblem where
  | missing
  | notFolder
  | isFolder
  | exists
deriving DecidableEq

/-- The words of a problem. -/
def FileProblem.message : FileProblem → String
  | .missing => "[Errno 2] No such file or directory"
  | .notFolder => "[Errno 20] Not a directory"
  | .isFolder => "[Errno 21] Is a directory"
  | .exists => "[Errno 17] File exists"

/-- A problem with a path. -/
structure FileFault where
  problem : FileProblem
  path : String

/-- The names on the way to a file or folder. -/
abbrev Steps := List String

/-- Texts by path, and the folders that there are besides those of the texts. -/
structure Files where
  texts : List (Steps × String)
  folders : List Steps

namespace Files

/-- No files. -/
def empty : Files := ⟨[], []⟩

/-- Steps and one more, by its name: the folder itself is left out, and a step back takes the last
one away, unless nothing can be taken away. -/
def stepTo (steps : Steps) (name : String) : Steps :=
  if name == "" || name == "." then steps
  else if name != ".." then steps ++ [name]
  else
    match steps.getLast? with
    | none | some ".." => steps ++ [".."]
    | some "/" => steps
    | some _ => steps.dropLast

/-- The names on the way to a path. An absolute one begins at a slash. -/
def steps (path : String) : Steps :=
  (path.splitOn "/").foldl stepTo (if path.startsWith "/" then ["/"] else [])

/-- The text at some steps. -/
def text? (files : Files) (steps : Steps) : Option String :=
  (files.texts.find? (·.1 == steps)).map (·.2)

/-- Whether a folder is at some steps. -/
def isFolder (files : Files) (steps : Steps) : Bool :=
  steps.isEmpty || files.folders.any (steps.isPrefixOf ·) ||
    files.texts.any fun (path, _) => path != steps && steps.isPrefixOf path

/-- Whether a text lies somewhere on the way to some steps. -/
def isBlocked (files : Files) (steps : Steps) : Bool :=
  (List.range steps.length).any fun count => (files.text? (steps.take count)).isSome

/-- Whether a path names a folder by its form. -/
def namesFolder (path : String) : Bool := path.endsWith "/"

/-- Whether there is something at a path. -/
def has (files : Files) (path : String) : Bool :=
  let found := (files.text? (steps path)).isSome && !namesFolder path
  path != "" && (found || files.isFolder (steps path))

/-- The text of a file. -/
def read (files : Files) (path : String) : Except FileFault String :=
  let way := steps path
  if path == "" then .error ⟨.missing, path⟩
  else if files.isFolder way then .error ⟨.isFolder, path⟩
  else if files.isBlocked way then .error ⟨.notFolder, path⟩
  else
    match files.text? way with
    | some text => if namesFolder path then .error ⟨.notFolder, path⟩ else .ok text
    | none => .error ⟨.missing, path⟩

/-- Sets a text, at its old place if there was one before. -/
def put (texts : List (Steps × String)) (steps : Steps) (text : String) : List (Steps × String) :=
  if texts.any (·.1 == steps) then
    texts.map fun entry => if entry.1 == steps then (steps, text) else entry
  else texts ++ [(steps, text)]

/-- Writes a file into a folder that there is. -/
def write (files : Files) (path text : String) : Except FileFault Files :=
  let way := steps path
  if path == "" then .error ⟨.missing, path⟩
  else if files.isFolder way then .error ⟨.isFolder, path⟩
  else if files.isBlocked way then .error ⟨.notFolder, path⟩
  else if namesFolder path then
    .error ⟨if (files.text? way).isSome then .notFolder else .isFolder, path⟩
  else if files.isFolder way.dropLast then .ok { files with texts := put files.texts way text }
  else .error ⟨.missing, path⟩

/-- A text without the slashes at its end. -/
def withoutSlashes (text : String) : String :=
  String.ofList (text.toList.reverse.dropWhile (· == '/')).reverse

/-- The folder of a path, as it is written: what stands before its last slashes. -/
def folderOf (path : String) : String :=
  withoutSlashes ("/".intercalate (path.splitOn "/").dropLast)

/-- The folders on the way to a folder, outermost first. -/
def ancestors (folder : String) : List String :=
  let names := folder.splitOn "/"
  ((List.range names.length).map fun count => "/".intercalate (names.take (count + 1))).filter
    fun name => !namesFolder name && name != ""

/-- Makes a folder unless it is there already. -/
def makeFolder (files : Files) (folder : String) : Except FileFault Files :=
  let way := steps folder
  if files.isFolder way then .ok files
  else if (files.text? way).isSome then .error ⟨.exists, folder⟩
  else if files.isBlocked way then .error ⟨.notFolder, folder⟩
  else .ok { files with folders := files.folders ++ [way] }

/-- The first ancestor of a folder that has to be made, and those after it: what lies above a text
that is in the way is left alone. -/
def toMake (files : Files) (folder : String) : List String :=
  match (ancestors folder).reverse with
  | [] => []
  | last :: outer => ((outer.takeWhile fun name => !files.has name).reverse) ++ [last]

/-- Makes a folder and those that it lies in. -/
def makeFolders (files : Files) (folder : String) : Except FileFault Files :=
  if folder == "" then .ok files
  else (files.toMake folder).foldlM makeFolder files

/-- Writes a file, making the folders that it lies in. -/
def writeDeep (files : Files) (path text : String) : Except FileFault Files := do
  (← files.makeFolders (folderOf path)).write path text

/-- The files that are new or have another text than before, by path. -/
def changes (before after : Files) : List (String × String) :=
  (after.texts.filter fun (way, text) => before.text? way != some text).map fun (way, text) =>
    ("/".intercalate way, text)

end Files

end SignalFlow
