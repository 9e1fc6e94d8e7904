import SignalFlow.Proofs.Completion
import SignalFlow.Store.Files

/-! # Written files

A file that has been written can be read, and holds the text that was written
(`Files.read_of_writeDeep`). Writing changes the text at one place and leaves the folders and all
the other texts as they are; so what let the file be written lets it be read.
-/

namespace SignalFlow

namespace Files

variable {files written : Files} {way other : Steps} {path text : String}

/-! ## One text -/

theorem fst_replaced (way : Steps) (text : String) (entry : Steps × String) :
    (if entry.1 == way then (way, text) else entry).1 = entry.1 := by
  by_cases same : entry.1 = way
  · simp [same]
  · simp [same]

theorem text?_put_self (files : Files) (way : Steps) (text : String) :
    { files with texts := put files.texts way text }.text? way = some text := by
  unfold text? put
  by_cases known : (files.texts.any (·.1 == way)) = true
  · rw [if_pos known, List.find?_map]
    simp only [Function.comp_def, fst_replaced]
    have there : (files.texts.find? (·.1 == way)).isSome = true := by rwa [List.isSome_find?]
    obtain ⟨entry, found⟩ := Option.isSome_iff_exists.mp there
    have same : entry.1 = way := by simpa using List.find?_some found
    simp [found, same]
  · rw [if_neg known, List.find?_append]
    have absent : files.texts.find? (·.1 == way) = none := by
      rw [← Option.not_isSome_iff_eq_none, List.isSome_find?]
      exact known
    simp [absent]

theorem text?_put_of_ne (different : other ≠ way) (files : Files) (text : String) :
    { files with texts := put files.texts way text }.text? other = files.text? other := by
  unfold text? put
  by_cases known : (files.texts.any (·.1 == way)) = true
  · rw [if_pos known, List.find?_map]
    simp only [Function.comp_def, fst_replaced, Option.map_map]
    cases found : files.texts.find? (·.1 == other) with
    | none => rfl
    | some entry =>
        have same : entry.1 = other := by simpa using List.find?_some found
        simp [same, different]
  · rw [if_neg known, List.find?_append]
    simp [Ne.symm different]

/-! ## The way to it -/

/-- A text on the way to some steps lies at fewer steps than these. -/
theorem isBlocked_put (files : Files) (way : Steps) (text : String) :
    { files with texts := put files.texts way text }.isBlocked way = files.isBlocked way := by
  unfold isBlocked
  rw [Bool.eq_iff_iff, List.any_eq_true, List.any_eq_true]
  refine exists_congr fun count => and_congr_right fun member => ?_
  have shorter : way.take count ≠ way := by
    intro same
    have lengths := congrArg List.length same
    rw [List.mem_range] at member
    rw [List.length_take] at lengths
    omega
  rw [text?_put_of_ne shorter]

/-- A test of places that a text does not pass cannot tell that it has been put there. -/
theorem any_put {test : Steps × String → Bool} (fails : test (way, text) = false)
    (places : ∀ entry other : Steps × String, entry.1 = other.1 → test entry = test other)
    (texts : List (Steps × String)) : (put texts way text).any test = texts.any test := by
  unfold put
  split
  · rw [List.any_map]
    refine List.any_congr rfl fun entry => ?_
    exact places _ entry (fst_replaced way text entry)
  · simp [fails]

/-- A text does not make a folder of its own place. -/
theorem isFolder_put (files : Files) (way : Steps) (text : String) :
    { files with texts := put files.texts way text }.isFolder way = files.isFolder way := by
  unfold isFolder
  rw [any_put]
  · simp
  · intro entry other same
    simp only [same]

/-- What has been written can be read. -/
theorem read_of_write (wrote : files.write path text = .ok written) :
    written.read path = .ok text := by
  unfold write at wrote
  by_cases nameless : (path == "") = true
  · simp [nameless] at wrote
  by_cases folder : files.isFolder (steps path) = true
  · simp [nameless, folder] at wrote
  by_cases blocked : files.isBlocked (steps path) = true
  · simp [nameless, folder, blocked] at wrote
  by_cases slash : namesFolder path = true
  · simp [nameless, folder, blocked, slash] at wrote
  by_cases inFolder : files.isFolder (steps path).dropLast = true
  · have same : written = { files with texts := put files.texts (steps path) text } := by
      simpa [nameless, folder, blocked, slash, inFolder, eq_comm] using wrote
    subst same
    simp [read, nameless, isFolder_put, folder, isBlocked_put, blocked, text?_put_self, slash]
  · simp [nameless, folder, blocked, slash, inFolder] at wrote

theorem read_of_writeDeep (wrote : files.writeDeep path text = .ok written) :
    written.read path = .ok text := by
  obtain ⟨made, -, wrote⟩ := bind_eq_ok_iff.mp wrote
  exact read_of_write wrote

/-- A file that can be read is there. -/
theorem has_of_read (found : files.read path = .ok text) : files.has path = true := by
  unfold read at found
  dsimp only at found
  split at found
  · cases found
  · rename_i named
    split at found
    · cases found
    · split at found
      · cases found
      · split at found
        · rename_i other there
          split at found
          · cases found
          · rename_i isFile
            rw [beq_iff_eq] at named
            simp [has, there, isFile, named]
        · cases found

/-! ## Plain names -/

/-- A name is a step of its own, and stands in the folder of the program. -/
structure IsPlain (name : String) : Prop where
  nonempty : name ≠ ""
  steps_eq : steps name = [name]
  folderOf_eq : folderOf name = ""
  namesFolder_eq : namesFolder name = false

theorem isPlain_of_splitOn {name : String} (parts : name.splitOn "/" = [name])
    (isStep : name ≠ "" ∧ name ≠ "." ∧ name ≠ "..")
    (noSlash : name.startsWith "/" = false ∧ namesFolder name = false) : IsPlain name where
  nonempty := isStep.1
  steps_eq := by
    rw [steps, parts, noSlash.1]
    simp [stepTo, isStep]
  folderOf_eq := by
    rw [folderOf, parts]
    rfl
  namesFolder_eq := noSlash.2

/-- Files with one text under a name. -/
def single (name text : String) : Files := ⟨[([name], text)], []⟩

namespace IsPlain

variable {name : String} (plain : IsPlain name) (text : String)
include plain

theorem read_single : (single name text).read name = .ok text := by
  simp [read, single, plain.nonempty, plain.steps_eq, plain.namesFolder_eq, isFolder, isBlocked,
    text?]

/-- Where there are no files, a text is written under the name alone. -/
theorem writeDeep_empty : empty.writeDeep name text = .ok (single name text) := by
  simp [writeDeep, plain.folderOf_eq, makeFolders, write, plain.nonempty, plain.steps_eq,
    plain.namesFolder_eq, empty, single, isFolder, isBlocked, text?, put, bind, Except.bind]

end IsPlain

theorem isPlain_json : IsPlain "d.json" :=
  isPlain_of_splitOn (by simp +decide [String.splitOn, String.splitOnAux]) (by decide)
    (by decide +kernel)

end Files

end SignalFlow
