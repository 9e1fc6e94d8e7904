import SignalFlow.Host.Usual
import SignalFlow.Proofs.ParameterValues
import SignalFlow.Proofs.TrimmedText
import SignalFlow.Proofs.Workspace.Reads
import SignalFlow.Proofs.WrittenFiles

/-! # Workspace files from top to bottom

A workspace file that consists of assignments is read into a table with one entry for each name,
which stands where the name is assigned first and has the value that is assigned last; and a
variable of the diagram that the file assigns is taken out beforehand. This is the same as to
execute the assignments one after the other (`Constants.execute`) as long as what is read has the
value in the table that it has at that place of the file (`Workspace.load_execute`).
-/

namespace SignalFlow

/-! ## Assignments one after the other -/

namespace Constants

/-- Executes assignments from the first to the last one. Each text is resolved over what stands
above it. -/
def execute [Host] (table : Constants) (assignments : List (String × String)) :
    Except Fault Constants :=
  assignments.foldlM
    (fun table entry => return Entries.set table entry.1 (← table.resolveText entry.2)) table

section Execute

variable [Host] {table last : Constants} {assignments : List (String × String)}
  {name text : String}

theorem execute_append (table : Constants) (above below : List (String × String)) :
    table.execute (above ++ below) = table.execute above >>= (·.execute below) :=
  List.foldlM_append

theorem execute_cons_eq_ok_iff {below : List (String × String)} :
    table.execute ((name, text) :: below) = .ok last ↔
      ∃ value, table.resolveText text = .ok value ∧
        execute (Entries.set table name value) below = .ok last := by
  rw [execute, List.foldlM_cons]
  cases table.resolveText text <;> simp [bind, Except.bind, pure, Except.pure, execute]

/-- What is not assigned keeps its value. -/
theorem get?_execute_of_not_mem (executed : table.execute assignments = .ok last)
    (absent : name ∉ Entries.keys assignments) :
    Entries.get? last name = Entries.get? table name := by
  induction assignments generalizing table with
  | nil =>
      cases executed
      rfl
  | cons assignment rest ih =>
      rw [Entries.keys_cons, List.mem_cons, not_or] at absent
      obtain ⟨value, -, executed⟩ := execute_cons_eq_ok_iff.mp executed
      rw [ih executed absent.2, Entries.get?_set, if_neg (Ne.symm absent.1)]

/-- A name has the value that is assigned to it last. -/
theorem exists_get?_execute_of_last {above below : List (String × String)}
    (executed : table.execute (above ++ (name, text) :: below) = .ok last)
    (unassigned : name ∉ Entries.keys below) :
    ∃ middle value, table.execute above = .ok middle ∧ middle.resolveText text = .ok value ∧
      execute (Entries.set middle name value) below = .ok last ∧
      Entries.get? last name = some value := by
  rw [execute_append, bind_eq_ok_iff] at executed
  obtain ⟨middle, begun, executed⟩ := executed
  obtain ⟨value, resolves, executed⟩ := execute_cons_eq_ok_iff.mp executed
  refine ⟨middle, value, begun, resolves, executed, ?_⟩
  rw [get?_execute_of_not_mem executed unassigned, Entries.get?_set, if_pos rfl]

end Execute

end Constants

/-! ## Order -/

namespace Workspace

/-- In a file that is in order, what the last assignment of a name reads either is not assigned
above it, and has the value that the diagram gives it; or it is assigned before that name is for the
first time, and not below any more. -/
def InOrder (diagram table : Constants) (assignments : List (String × String)) : Prop :=
  ∀ above name text below, assignments = above ++ (name, text) :: below →
    name ∉ Entries.keys below → ∀ other ∈ Constants.reads text,
      (other ∉ Entries.keys above ∧ Entries.get? table other = Entries.get? diagram other) ∨
        (other ∈ Entries.keys (assignments.takeWhile (·.1 ≠ name)) ∧
          other ∉ Entries.keys below)

section Order

variable [Host] {diagram table last : Constants} {assignments : List (String × String)}
  (inOrder : InOrder diagram table assignments)
  (executed : diagram.execute assignments = .ok last)
include inOrder executed

/-- In a file that is in order, the entry of a name has the value of the last assignment, once this
is so for the entries before it. -/
theorem get?_of_resolveText_front {front back : List (String × String)} {name text : String}
    {begun : Constants} {value : Float}
    (split : Entries.ofPairs assignments = front ++ (name, text) :: back)
    (resolved : table.execute front = .ok begun)
    (before : ∀ other ∈ Entries.keys front, Entries.get? begun other = Entries.get? last other)
    (resolves : begun.resolveText text = .ok value) : Entries.get? last name = some value := by
  have entry : (name, text) ∈ Entries.ofPairs assignments := by
    rw [split]
    exact List.mem_append_right front List.mem_cons_self
  obtain ⟨above, below, parted, unassigned⟩ := Entries.exists_split_of_get?
    (Entries.get?_eq_some_of_mem (Entries.nodup_keys_ofPairs assignments) entry)
  have executed' := executed
  rw [parted] at executed'
  obtain ⟨middle, final, reached, finalValue, rest, found⟩ :=
    Constants.exists_get?_execute_of_last executed' unassigned
  have same : begun.resolveText text = middle.resolveText text := by
    refine Constants.resolveText_congr fun other read => ?_
    have inFront : other ∈ Entries.keys front ↔ _ := Entries.mem_front_iff split
    rcases inOrder above name text below parted unassigned other read with
      ⟨unassignedAbove, sameValue⟩ | ⟨assigned, unchanged⟩
    · have notYet : other ∉ Entries.keys front := fun inside => by
        rw [inFront, parted] at inside
        exact unassignedAbove (Entries.mem_keys_above inside)
      rw [Constants.get?_execute_of_not_mem resolved notYet, sameValue,
        Constants.get?_execute_of_not_mem reached unassignedAbove]
    · have apart : other ≠ name := by
        rintro rfl
        exact Entries.not_mem_keys_takeWhile assignments other assigned
      rw [before other (inFront.mpr assigned), Constants.get?_execute_of_not_mem rest unchanged,
        Entries.get?_set, if_neg apart.symm]
  rw [found, Except.ok.inj (finalValue.symm.trans (same.symm.trans resolves))]

/-- In a file that is in order, each name that has been resolved has the value that it has in the
end if its assignments are executed one after the other. -/
theorem get?_execute_front {front back : List (String × String)}
    (split : Entries.ofPairs assignments = front ++ back) {begun : Constants}
    (resolved : table.execute front = .ok begun) {name : String}
    (known : name ∈ Entries.keys front) :
    Entries.get? begun name = Entries.get? last name := by
  induction front using List.reverseRecOn generalizing back name begun with
  | nil => cases known
  | append_singleton front assignment ih =>
      obtain ⟨newest, text⟩ := assignment
      rw [List.append_assoc, List.singleton_append] at split
      rw [Constants.execute_append, bind_eq_ok_iff] at resolved
      obtain ⟨middle, resolved, ends⟩ := resolved
      obtain ⟨value, resolves, ends⟩ := Constants.execute_cons_eq_ok_iff.mp ends
      cases ends
      rw [Entries.get?_set]
      split
      · next same =>
          subst same
          exact (get?_of_resolveText_front inOrder executed split resolved
            (fun other => ih split resolved) resolves).symm
      · next other =>
          have inFront : name ∈ Entries.keys front := by simpa [Ne.symm other] using known
          exact ih split resolved inFront

end Order

/-- Whether a file is in order is seen place by place. -/
theorem inOrder_iff {diagram table : Constants} {assignments : List (String × String)} :
    InOrder diagram table assignments ↔ ∀ place : Fin assignments.length,
      assignments[place].1 ∉ Entries.keys (assignments.drop (place + 1)) →
        ∀ other ∈ Constants.reads assignments[place].2,
          (other ∉ Entries.keys (assignments.take place) ∧
              Entries.get? table other = Entries.get? diagram other) ∨
            (other ∈ Entries.keys (assignments.takeWhile (·.1 ≠ assignments[place].1)) ∧
              other ∉ Entries.keys (assignments.drop (place + 1))) := by
  constructor
  · intro inOrder place
    have parted : assignments.drop place = assignments[place] :: assignments.drop (place + 1) :=
      List.drop_eq_getElem_cons place.isLt
    exact inOrder _ _ _ _ ((List.take_append_drop place assignments).symm.trans
      (congrArg _ parted))
  · rintro checked above name text below rfl
    simpa using checked ⟨above.length, by simp⟩

instance (diagram table : Constants) (assignments : List (String × String)) :
    Decidable (InOrder diagram table assignments) :=
  decidable_of_iff _ inOrder_iff.symm

/-! ## Loading -/

/-- Whether a table has a name under itself alone: it is not empty, and there are no blanks and no
backslash in it, as there are none in an identifier. -/
def isPlain (name : String) : Bool :=
  !name.isEmpty && name.toList.all fun c => !Text.isBlank c && c != '\\'

/-- The assignment that a statement is, if it is one to a single name. -/
def assignmentOf? (text : List Char) : Statement → Option (String × String)
  | .assignment [name] first stop =>
      if isPlain name then some (name, String.ofList ((text.take stop).drop first)) else none
  | _ => none

/-- The assignments of a file that can be read and consists of assignments to single names. -/
def assignmentsIn? [Host] (files : Files) (path : String) : Option (List (String × String)) :=
  match statementsIn? files path with
  | .ok (some (text, statements)) => statements.mapM (assignmentOf? text)
  | _ => none

/-- The variables that a file leaves as they are. -/
def kept (vars : List (String × Value)) (assignments : List (String × String)) :
    List (String × Value) :=
  vars.filter fun entry => !Entries.has assignments entry.1

theorem trim_of_isPlain {name : String} (plain : isPlain name = true) : Text.trim name = name := by
  rw [isPlain, Bool.and_eq_true, List.all_eq_true] at plain
  refine Text.trim_eq_self fun c inside => ?_
  simpa using (Bool.and_eq_true_iff.mp (plain.2 c inside)).1

/-- A plain name is defined by itself alone. -/
theorem define_of_isPlain (table : Constants) {name : String} (plain : isPlain name = true)
    (value : Float) : table.define name value = Entries.set table name value := by
  have trimmed := trim_of_isPlain plain
  rw [isPlain, Bool.and_eq_true, List.all_eq_true] at plain
  unfold Constants.define
  dsimp only
  rw [trimmed, if_neg (by simpa using plain.1)]
  split
  · rename_i c rest characters
    have unmarked := plain.2 '\\' (by simp [characters])
    exact absurd unmarked (by decide)
  · rfl

theorem extend_of_isPlain [Host] (table : Constants) {name : String} (plain : isPlain name = true)
    (text : String) : table.extend (name, .text text) =
      return Entries.set table name (← table.resolveText text) := by
  have nonempty : (Text.trim name).isEmpty = false := by
    rw [trim_of_isPlain plain]
    rw [isPlain, Bool.and_eq_true] at plain
    simpa using plain.1
  unfold Constants.extend
  rw [if_neg (by simp [nonempty])]
  simp only [Constants.resolve_text, define_of_isPlain table plain]

/-- Variables that are assigned by a file are resolved by executing its assignments. -/
theorem foldlM_extend [Host] {assignments : List (String × String)}
    (plain : ∀ assignment ∈ assignments, isPlain assignment.1 = true) (table : Constants) :
    (assignments.map fun assignment => (assignment.1, Value.text assignment.2)).foldlM
      Constants.extend table = table.execute assignments := by
  induction assignments generalizing table with
  | nil => rfl
  | cons assignment rest ih =>
      rw [List.forall_mem_cons] at plain
      rw [List.map_cons, List.foldlM_cons, extend_of_isPlain table plain.1, Constants.execute,
        List.foldlM_cons]
      simp only [ih plain.2, Constants.execute]

theorem assignmentOf?_eq_some_iff {text : List Char} {statement : Statement} {name value : String} :
    assignmentOf? text statement = some (name, value) ↔ isPlain name = true ∧
      ∃ first stop, statement = .assignment [name] first stop ∧
        value = String.ofList ((text.take stop).drop first) := by
  unfold assignmentOf?
  split
  · rename_i own first stop
    simp only [Option.ite_none_right_eq_some, Option.some.injEq, Prod.mk.injEq,
      Statement.assignment.injEq, List.cons.injEq, and_true]
    constructor
    · rintro ⟨plain, rfl, rfl⟩
      exact ⟨plain, first, stop, ⟨rfl, rfl, rfl⟩, rfl⟩
    · rintro ⟨plain, first, stop, ⟨rfl, rfl, rfl⟩, rfl⟩
      exact ⟨plain, rfl, rfl⟩
  · rename_i other
    simp only [reduceCtorEq, false_iff, not_and]
    rintro plain ⟨first, stop, rfl, -⟩
    exact other name first stop rfl

/-- The assignments are those of the statements, in their order. -/
theorem forall₂_assignmentOf? {text : List Char} {statements : List Statement}
    {assignments : List (String × String)}
    (reads : statements.mapM (assignmentOf? text) = some assignments) :
    List.Forall₂ (fun statement assignment => assignmentOf? text statement = some assignment)
      statements assignments := by
  induction statements generalizing assignments with
  | nil =>
      cases reads
      exact .nil
  | cons statement rest ih =>
      rw [List.mapM_cons] at reads
      obtain ⟨assignment, first, reads⟩ := Option.bind_eq_some_iff.mp reads
      obtain ⟨others, remaining, reads⟩ := Option.bind_eq_some_iff.mp reads
      cases reads
      exact .cons first (ih remaining)

/-- A file that consists of assignments to plain names assigns what these assign. -/
theorem assigned_eq {text : List Char} {statements : List Statement}
    {assignments : List (String × String)}
    (reads : statements.mapM (assignmentOf? text) = some assignments) :
    (∀ assignment ∈ assignments, isPlain assignment.1 = true) ∧
      assigned text statements = (Entries.ofPairs assignments).map fun assignment =>
        (assignment.1, Value.text assignment.2) := by
  unfold assigned
  rw [Entries.map_ofPairs]
  have each := forall₂_assignmentOf? reads
  clear reads
  refine ⟨?_, congrArg Entries.ofPairs ?_⟩
  · induction each with
    | nil => simp
    | cons first _ ih =>
        exact List.forall_mem_cons.mpr ⟨(assignmentOf?_eq_some_iff.mp first).1, ih⟩
  · induction each with
    | nil => rfl
    | cons first _ ih =>
        obtain ⟨-, start, stop, rfl, value⟩ := assignmentOf?_eq_some_iff.mp first
        rw [List.flatMap_cons, ih, List.map_cons, value]
        rfl

theorem overlay_eq (vars : List (String × Value)) (assignments : List (String × String)) :
    overlay vars ((Entries.ofPairs assignments).map fun assignment =>
      (assignment.1, Value.text assignment.2)) = kept vars assignments ++
        (Entries.ofPairs assignments).map fun assignment =>
          (assignment.1, Value.text assignment.2) := by
  have same (name : String) : Entries.has ((Entries.ofPairs assignments).map fun assignment =>
      (assignment.1, Value.text assignment.2)) name = Entries.has assignments name := by
    rw [Bool.eq_iff_iff, Entries.has_iff, Entries.has_iff, Entries.keys_map,
      Entries.mem_keys_ofPairs]
  rw [overlay, kept]
  simp only [same]

/-- The variables of a workspace once a file has been loaded into it. -/
def assignedVars (vars : List (String × Value)) (assignments : List (String × String)) :
    List (String × Value) :=
  kept vars assignments ++ (Entries.ofPairs assignments).map fun assignment =>
    (assignment.1, .text assignment.2)

/-- A file whose statements are read is there. -/
theorem has_of_statementsIn? [Host] {files : Files} {path : String} {text : List Char}
    {statements : List Statement}
    (read : statementsIn? files path = .ok (some (text, statements))) : files.has path = true := by
  unfold statementsIn? at read
  cases found : files.read path with
  | error _ => simp [found] at read
  | ok content => exact Files.has_of_read found

/-- What a workspace holds once a file has been loaded into it. -/
theorem gives_load_of_assignments [Host] {workspace : Workspace} {files : Files} {path : String}
    {assignments : List (String × String)}
    (reads : assignmentsIn? files path = some assignments) :
    Gives (workspace.load files path)
      ((Constants.ofVariables (kept workspace.vars assignments) >>=
        (·.execute (Entries.ofPairs assignments))).map fun constants =>
          (true, ⟨assignedVars workspace.vars assignments, constants, some path⟩)) := by
  unfold assignmentsIn? at reads
  split at reads
  · next text statements read =>
      obtain ⟨plain, same⟩ := assigned_eq reads
      have settled : ∀ entry ∈ Entries.ofPairs assignments, isPlain entry.1 = true :=
        fun entry inside => by
          obtain ⟨assignment, first, same⟩ := List.mem_map.mp
            (Entries.mem_keys_ofPairs.mp (List.mem_map_of_mem inside))
          exact same ▸ plain assignment first
      have vars : overlay workspace.vars (assigned text statements) =
          assignedVars workspace.vars assignments := by
        rw [same, overlay_eq, assignedVars]
      have loads := @gives_load_of_read _ workspace _ _ _ _ (has_of_statementsIn? read) read
      have resolved : Constants.ofVariables (assignedVars workspace.vars assignments) =
          Constants.ofVariables (kept workspace.vars assignments) >>=
            (·.execute (Entries.ofPairs assignments)) := by
        rw [assignedVars, Constants.ofVariables, List.foldlM_append]
        simp only [foldlM_extend settled, Constants.ofVariables]
      rw [vars] at loads
      rw [← resolved]
      exact loads
  · cases reads

/-- A file that assigns no variable of the diagram leaves all of them as they are. -/
theorem kept_eq_self {vars : List (String × Value)} {assignments : List (String × String)}
    (apart : ∀ name ∈ Entries.keys assignments, name ∉ Entries.keys vars) :
    kept vars assignments = vars := by
  refine List.filter_eq_self.mpr fun entry member => ?_
  rw [Bool.not_eq_true', Bool.eq_false_iff, ne_eq, Entries.has_iff]
  exact fun assigned => apart _ assigned (List.mem_map_of_mem member)

/-- **A workspace file resolves from top to bottom** if it is in order: once it has been loaded,
each name that it assigns has the value that it has if the assignments are executed one after the
other over the table of the diagram. Whatever the order is, the table is that of the variables that
the file leaves as they are with its entries behind them; and if the file assigns no name twice and
no variable of the diagram, it is the table that is left by executing the assignments. -/
theorem load_execute [Host] {workspace : Workspace} {files : Files} {path : String}
    {assignments : List (String × String)}
    (reads : assignmentsIn? files path = some assignments) :
    Gives (workspace.load files path)
      ((Constants.ofVariables (kept workspace.vars assignments) >>=
        (·.execute (Entries.ofPairs assignments))).map fun constants =>
          (true, ⟨assignedVars workspace.vars assignments, constants, some path⟩)) ∧
    (∀ table constants last, Constants.ofVariables (kept workspace.vars assignments) = .ok table →
      table.execute (Entries.ofPairs assignments) = .ok constants →
      workspace.constants.execute assignments = .ok last →
      InOrder workspace.constants table assignments →
        ∀ name ∈ Entries.keys assignments,
          Entries.get? constants name = Entries.get? last name) ∧
    ((Entries.keys assignments).Nodup →
      (∀ name ∈ Entries.keys assignments, name ∉ Entries.keys workspace.vars) →
      Constants.ofVariables workspace.vars = .ok workspace.constants →
        Gives (workspace.load files path)
          ((workspace.constants.execute assignments).map fun constants =>
            (true, ⟨assignedVars workspace.vars assignments, constants, some path⟩))) := by
  have gives := @gives_load_of_assignments _ workspace files path assignments reads
  refine ⟨gives, ?_, fun nodup apart resolved => ?_⟩
  · intro table constants last _ loaded executed inOrder name assigned
    exact get?_execute_front inOrder executed (List.append_nil _).symm loaded
      (Entries.mem_keys_ofPairs.mpr assigned)
  · rw [kept_eq_self apart, resolved, Entries.ofPairs_of_nodup nodup] at gives
    exact gives

theorem isPlain_vars : Files.IsPlain "vars.txt" :=
  Files.isPlain_of_splitOn (by simp +decide [String.splitOn, String.splitOnAux]) (by decide)
    (by decide +kernel)

/-- A workspace with two variables, of which the second one depends on the first. -/
def gains : Workspace :=
  ⟨[("gain", .int 2), ("k", .text "gain * 2")],
    Constants.standard ++ [("gain", 2.0), ("k", 4.0)], none⟩

/-- A file that assigns one name twice and another one that is a variable. -/
def baseFile : Files := .single "vars.txt" "base = 1\nbase = gain + 1\nk = base + 2\n"

def baseAssignments : List (String × String) :=
  [("base", "1"), ("base", "gain + 1"), ("k", "base + 2")]

open Host.Usual

/-- A file that assigns one name, which is no variable. -/
def freshFile : Files := .single "vars.txt" "fresh = k - 1\n"

/-- The assignments of the first file are in order. What is assigned twice has its last value, and
what is a variable of the diagram its new one. The second file is executed. -/
theorem load_execute_gains :
    InOrder gains.constants (Constants.standard ++ [("gain", 2.0)]) baseAssignments ∧
      (∃ next, Gives (gains.load baseFile "vars.txt") (.ok (true, next)) ∧
        Entries.get? next.constants "base" = some 3.0 ∧
        Entries.get? next.constants "k" = some 5.0) ∧
      ∃ next, Gives (gains.load freshFile "vars.txt") (.ok (true, next)) ∧
        next.constants = gains.constants ++ [("fresh", 3.0)] := by
  have reads : assignmentsIn? baseFile "vars.txt" = some baseAssignments := by
    rw [assignmentsIn?, statementsIn?, baseFile, isPlain_vars.read_single]
    dsimp only
    rw [fileBreakdown?_ofList (by decide +kernel)]
    decide +kernel
  have inOrder : InOrder gains.constants (Constants.standard ++ [("gain", 2.0)])
      baseAssignments := by decide +kernel
  have resolved : Constants.ofVariables (kept gains.vars baseAssignments) =
      .ok (Constants.standard ++ [("gain", 2.0)]) := by decide +kernel
  have loaded : (Constants.standard ++ [("gain", 2.0)]).execute
      (Entries.ofPairs baseAssignments) =
        .ok (Constants.standard ++ [("gain", 2.0), ("base", 3.0), ("k", 5.0)]) := by decide +kernel
  have executed : gains.constants.execute baseAssignments =
      .ok (Constants.standard ++ [("gain", 2.0), ("k", 5.0), ("base", 3.0)]) := by decide +kernel
  have built : (Constants.ofVariables (kept gains.vars baseAssignments) >>=
      (·.execute (Entries.ofPairs baseAssignments))) =
        .ok (Constants.standard ++ [("gain", 2.0), ("base", 3.0), ("k", 5.0)]) :=
    bind_eq_ok_iff.mpr ⟨_, resolved, loaded⟩
  have freshReads : assignmentsIn? freshFile "vars.txt" = some [("fresh", "k - 1")] := by
    rw [assignmentsIn?, statementsIn?, freshFile, isPlain_vars.read_single]
    dsimp only
    rw [fileBreakdown?_ofList (by decide +kernel)]
    decide +kernel
  have freshExecuted : gains.constants.execute [("fresh", "k - 1")] =
      .ok (gains.constants ++ [("fresh", 3.0)]) := by decide +kernel
  obtain ⟨gives, agree, -⟩ : Gives (gains.load baseFile "vars.txt") _ ∧ _ := load_execute reads
  obtain ⟨-, -, fresh⟩ : Gives (gains.load freshFile "vars.txt") _ ∧ _ := load_execute freshReads
  rw [built] at gives
  have agrees := agree _ _ _ resolved loaded executed inOrder
  have base := agrees "base" (by decide)
  have k := agrees "k" (by decide)
  have freshGives := fresh (by decide) (by decide) (by decide +kernel)
  rw [freshExecuted] at freshGives
  refine ⟨inOrder, ⟨_, gives, base.trans ?_, k.trans ?_⟩, _, freshGives, rfl⟩
  · decide +kernel
  · decide +kernel

/-- A workspace without variables. -/
def blank : Workspace := ⟨[], Constants.standard, none⟩

/-- A file that is not in order: a name is read between its two assignments. -/
def lateFile : Files := .single "vars.txt" "a = 1\nb = a\na = 2\n"

def lateAssignments : List (String × String) := [("a", "1"), ("b", "a"), ("a", "2")]

/-- The name between them has the value that is assigned below it, and not the one above. -/
theorem not_load_execute_late :
    assignmentsIn? lateFile "vars.txt" = some lateAssignments ∧
      (∃ next, Gives (blank.load lateFile "vars.txt") (.ok (true, next)) ∧
        Entries.get? next.constants "b" = some 2.0) ∧
      ∃ last, blank.constants.execute lateAssignments = .ok last ∧
        Entries.get? last "b" = some 1.0 := by
  have reads : assignmentsIn? lateFile "vars.txt" = some lateAssignments := by
    rw [assignmentsIn?, statementsIn?, lateFile, isPlain_vars.read_single]
    dsimp only
    rw [fileBreakdown?_ofList (by decide +kernel)]
    decide +kernel
  have built : (Constants.ofVariables (kept blank.vars lateAssignments) >>=
      (·.execute (Entries.ofPairs lateAssignments))) =
        .ok (Constants.standard ++ [("a", 2.0), ("b", 2.0)]) := by decide +kernel
  have executed : blank.constants.execute lateAssignments =
      .ok (Constants.standard ++ [("a", 2.0), ("b", 1.0)]) := by decide +kernel
  have gives : Gives (blank.load lateFile "vars.txt") _ := gives_load_of_assignments reads
  rw [built] at gives
  exact ⟨reads, ⟨_, gives, by decide +kernel⟩, _, executed, by decide +kernel⟩

end Workspace

end SignalFlow
