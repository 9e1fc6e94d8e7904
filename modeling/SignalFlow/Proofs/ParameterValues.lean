import SignalFlow.Host.Usual
import SignalFlow.Proofs.Completion
import SignalFlow.Proofs.Doubles.Rounding
import SignalFlow.Proofs.Entries
import SignalFlow.Proofs.Expr.Memory
import SignalFlow.Proofs.ValueTexts
import SignalFlow.Workspace.Basic

/-! # The values of parameters

Whatever is given for a parameter, it resolves to a finite double, unless it is beyond what can be
computed (`Value.Exceeds`): a whole number is larger than all doubles, no text can be made of a list
or mapping, or a text is an expression for which there is not enough memory
(`Constants.Exhausts`). These are the only exceptions for lists of coefficients and for tables of
constants as well. A workspace is built of a table, and of another one for each file that is loaded
into it; besides, the host may break off in the middle of a file (`Workspace.BuildingBreaks`).
-/

namespace SignalFlow

/-- A computation breaks off exactly where there is a cause of a fault, with that fault, and
otherwise gives a result with a property. -/
inductive FailsIff {β : Type} (cause : Fault → Prop) (property : β → Prop) : Except Fault β → Prop
  | fails {fault : Fault} (holds : cause fault) : FailsIff cause property (.error fault)
  | gives {result : β} (free : ∀ fault, ¬ cause fault) (holds : property result) :
      FailsIff cause property (.ok result)

namespace FailsIff

variable {β γ : Type} {cause : Fault → Prop} {property : β → Prop} {computed : Except Fault β}

theorem congr {other : Fault → Prop} (settled : FailsIff cause property computed)
    (same : ∀ fault, cause fault ↔ other fault) : FailsIff other property computed := by
  cases settled with
  | fails holds => exact .fails ((same _).mp holds)
  | gives free holds => exact .gives (fun fault => mt (same fault).mpr (free fault)) holds

theorem exists_eq_error {fault : Fault} (settled : FailsIff cause property computed)
    (holds : cause fault) : ∃ other, cause other ∧ computed = .error other := by
  cases settled with
  | fails holds => exact ⟨_, holds, rfl⟩
  | gives free => exact absurd holds (free fault)

theorem of_ok {result : β} (settled : FailsIff cause property (.ok result)) :
    (∀ fault, ¬ cause fault) ∧ property result := by
  cases settled with
  | gives free holds => exact ⟨free, holds⟩

/-- A computation that gives a result gives one with the property. -/
theorem of_eq_ok {result : β} (settled : FailsIff cause property computed)
    (computes : computed = .ok result) : property result := by
  rw [computes] at settled
  exact settled.of_ok.2

theorem of_error {fault : Fault} (settled : FailsIff cause property (.error fault)) :
    cause fault := by
  cases settled with
  | fails holds => exact holds

/-- A computation with a second step breaks off where one of the steps does. -/
theorem bind {further : Fault → Prop} {result : γ → Prop} {next : β → Except Fault γ}
    (first : FailsIff cause property computed)
    (second : ∀ middle, property middle → FailsIff further result (next middle)) :
    FailsIff (fun fault => cause fault ∨ further fault) result (computed >>= next) := by
  cases first with
  | fails holds => exact .fails (.inl holds)
  | @gives middle free holds =>
      exact (second middle holds).congr fun fault => (or_iff_right (free fault)).symm

theorem map {result : γ → Prop} {change : β → γ} (settled : FailsIff cause property computed)
    (holds : ∀ value, property value → result (change value)) :
    FailsIff cause result (computed.map change) := by
  cases settled with
  | fails holds => exact .fails holds
  | gives free kept => exact .gives free (holds _ kept)

theorem mapM {exceeds : γ → Fault → Prop} {compute : γ → Except Fault β}
    (each : ∀ item, FailsIff (exceeds item) property (compute item)) (items : List γ) :
    FailsIff (fun fault => ∃ item ∈ items, exceeds item fault)
      (fun results => ∀ result ∈ results, property result) (items.mapM compute) := by
  induction items with
  | nil => exact .gives (by simp) (by simp)
  | cons item rest ih =>
      rw [List.mapM_cons]
      have others (result : β) (holds : property result) :
          FailsIff (fun fault => ∃ item ∈ rest, exceeds item fault)
            (fun results => ∀ result ∈ results, property result)
            ((rest.mapM compute).map (result :: ·)) :=
        ih.map fun results all => List.forall_mem_cons.mpr ⟨holds, all⟩
      exact ((each item).bind others).congr fun fault => by simp

/-- Where a computation goes on from what the ones before it gave, its cause depends on that. -/
theorem foldlM {exceeds : β → γ → Fault → Prop} {extend : β → γ → Except Fault β}
    (each : ∀ start item, property start →
      FailsIff (exceeds start item) property (extend start item))
    (items : List γ) (start : β) (holds : property start) :
    FailsIff (fun fault => ∃ above item below middle, items = above ++ item :: below ∧
      above.foldlM extend start = .ok middle ∧ exceeds middle item fault) property
      (items.foldlM extend start) := by
  induction items generalizing start with
  | nil => exact .gives (by simp) holds
  | cons item rest ih =>
      have first := each start item holds
      rw [List.foldlM_cons]
      cases extended : extend start item with
      | error fault =>
          rw [extended] at first
          exact .fails ⟨[], item, rest, start, rfl, rfl, first.of_error⟩
      | ok next =>
          rw [extended] at first
          refine (ih next first.of_ok.2).congr fun fault => ?_
          constructor
          · rintro ⟨above, later, below, middle, rfl, begun, exceeds⟩
            refine ⟨item :: above, later, below, middle, rfl, ?_, exceeds⟩
            rw [List.foldlM_cons, extended]
            exact begun
          · rintro ⟨above, later, below, middle, split, begun, exceeds⟩
            cases above with
            | nil =>
                obtain ⟨rfl, rfl⟩ := List.cons.inj split
                cases begun
                exact absurd exceeds (first.of_ok.1 fault)
            | cons head above =>
                obtain ⟨rfl, rfl⟩ := List.cons.inj split
                rw [List.foldlM_cons, extended] at begun
                exact ⟨above, later, below, middle, rfl, begun, exceeds⟩

end FailsIff

/-! ## Values beyond what can be computed -/

namespace Constants

/-- The text of a parameter is an expression for which there is not enough memory: for its reader,
or for a whole number that its evaluation comes to. -/
structure Exhausts [Host] (constants : Constants) (text : String) : Prop where
  unwritten : written? (Text.trim text) = none
  unnamed : constants.named? (Text.trim text) = none
  nonempty : (Expr.source (Text.trim text)).isEmpty = false
  exhausts : Host.breakdown? (Expr.source (Text.trim text)) = some .outOfMemory ∨
    Host.breakdown? (Expr.source (Text.trim text)) = none ∧
      ∃ expr, Expr.parse? (Expr.source (Text.trim text)) = some expr ∧
        Expr.Exhausts constants Expr.nestingLimit expr

end Constants

namespace Value

/-- A value cannot be resolved, where some texts exhaust the memory: it is a whole number that no
finite double is near to, or no text can be made of it, or its text is one of those. -/
inductive Exceeds [Host] (exhausts : String → Prop) : Value → Fault → Prop
  | int {n : Int} (large : Binary64.overflow ≤ n.natAbs) : Exceeds exhausts (.int n) .tooLarge
  | unwritten {value : Value} {fault : Fault} (isOther : Constants.number? value = none)
      (obstructs : value.Obstructs (Host.textDepth + 1) fault) : Exceeds exhausts value fault
  | text {value : Value} {text : String} (isOther : Constants.number? value = none)
      (present : value ≠ .null) (written : value.toText = .ok text) (exhausted : exhausts text) :
      Exceeds exhausts value .outOfMemory

end Value

namespace Constants

/-- A value cannot be resolved to a list of coefficients: one of its items cannot, if it is a list,
and else the value itself or a part of its text. -/
def ListExceeds [Host] (constants : Constants) (value : Value) (fault : Fault) : Prop :=
  match value with
  | .list items => ∃ item ∈ items, item.Exceeds constants.Exhausts fault
  | value => value.Exceeds (fun text => ∃ part ∈ listItems text, constants.Exhausts part) fault

end Constants

/-! ## Parameters -/

theorem isFinite_zero : (0.0 : Float).isFinite = true := by decide

theorem isFinite_finiteOrZero (x : Float) : (finiteOrZero x).isFinite = true := by
  unfold finiteOrZero
  split
  · assumption
  · decide

namespace Constants

theorem evaluate_eq_error_iff [Host] {constants : Constants} {text : String} {fault : Fault} :
    Expr.evaluate constants text = .error fault ↔ fault = .outOfMemory ∧
      (Expr.source text).isEmpty = false ∧
      (Host.breakdown? (Expr.source text) = some .outOfMemory ∨
        Host.breakdown? (Expr.source text) = none ∧
          ∃ expr, Expr.parse? (Expr.source text) = some expr ∧
            Expr.Exhausts constants Expr.nestingLimit expr) := by
  simp only [← Expr.eval_eq_outOfMemory_iff]
  unfold Expr.evaluate
  cases (Expr.source text).isEmpty with
  | true => simp
  | false =>
      cases Host.breakdown? (Expr.source text) with
      | some breakdown => cases breakdown <;> simp [eq_comm]
      | none =>
          cases Expr.parse? (Expr.source text) with
          | none => simp
          | some expr =>
              cases evaluated : Expr.eval constants Expr.nestingLimit expr with
              | error cause =>
                  cases cause <;> simp [Expr.valueOf, evaluated, @eq_comm _ Fault.outOfMemory]
              | ok value => cases number : value.toFloat? <;> simp [Expr.valueOf, evaluated, number]

theorem isFinite_of_evaluate [Host] {constants : Constants} {text : String} {x : Float}
    (value : Expr.evaluate constants text = .ok (.ok x)) : x.isFinite = true := by
  unfold Expr.evaluate Expr.valueOf at value
  repeat' split at value
  all_goals cases value
  assumption

theorem failsIff_resolveText [Host] (constants : Constants) (text : String) :
    FailsIff (fun fault => fault = .outOfMemory ∧ constants.Exhausts text)
      (fun x => x.isFinite = true) (constants.resolveText text) := by
  have otherwise {x : Float} (free : ¬ constants.Exhausts text) (isFinite : x.isFinite = true) :
      FailsIff (fun fault => fault = .outOfMemory ∧ constants.Exhausts text)
        (fun x => x.isFinite = true) (.ok x) := .gives (fun fault cause => free cause.2) isFinite
  unfold resolveText
  dsimp only
  split
  · next empty =>
      refine otherwise (fun exhausts => ?_) (by decide)
      have blank := exhausts.nonempty
      rw [String.isEmpty_iff.mp empty] at blank
      cases blank
  · split
    · next written =>
        refine otherwise (fun exhausts => ?_) (Option.filter_eq_some_iff.mp written).2
        cases exhausts.unwritten.symm.trans written
    · next unwritten =>
        split
        · next named =>
            refine otherwise (fun exhausts => ?_) (isFinite_finiteOrZero _)
            cases exhausts.unnamed.symm.trans named
        · next unnamed =>
            cases evaluated : Expr.evaluate constants (Text.trim text) with
            | error fault =>
                obtain ⟨same, nonempty, exhausts⟩ := evaluate_eq_error_iff.mp evaluated
                exact .fails ⟨same, unwritten, unnamed, nonempty, exhausts⟩
            | ok result =>
                refine otherwise (fun exhausts => ?_) ?_
                · have fails := evaluate_eq_error_iff.mpr
                    ⟨rfl, exhausts.nonempty, exhausts.exhausts⟩
                  cases evaluated.symm.trans fails
                · cases result with
                  | error cause => exact isFinite_zero
                  | ok x => exact isFinite_of_evaluate evaluated

theorem number?_int (n : Int) : number? (.int n) =
    some (match Binary64.ofInt? n with
      | some x => .ok x
      | none => .error .tooLarge) := by
  unfold number?
  cases rounded : Binary64.ofInt? n <;> simp [rounded]

theorem exceeds_int_iff [Host] {n : Int} {exhausts : String → Prop} {fault : Fault} :
    (Value.int n).Exceeds exhausts fault ↔
      fault = .tooLarge ∧ Binary64.overflow ≤ n.natAbs := by
  constructor
  · intro exceeds
    cases exceeds with
    | int large => exact ⟨rfl, large⟩
    | unwritten isOther =>
        rw [number?_int] at isOther
        cases isOther
    | text isOther =>
        rw [number?_int] at isOther
        cases isOther
  · rintro ⟨rfl, large⟩
    exact .int large

/-- A value that is a number gives a finite double unless it is beyond them. -/
theorem failsIff_number? [Host] {value : Value} {result : Except Fault Float}
    (isNumber : number? value = some result) (exhausts : String → Prop) :
    FailsIff (value.Exceeds exhausts) (fun x => x.isFinite = true) result := by
  have isInt {fault : Fault} (exceeds : value.Exceeds exhausts fault) :
      ∃ n : Int, value = .int n := by
    cases exceeds with
    | int => exact ⟨_, rfl⟩
    | unwritten isOther => cases isOther.symm.trans isNumber
    | text isOther => cases isOther.symm.trans isNumber
  cases value with
  | bool b =>
      have free (fault : Fault) : ¬ (Value.bool b).Exceeds exhausts fault :=
        fun exceeds => nomatch isInt exceeds
      cases b <;> cases isNumber <;> exact .gives free (by decide)
  | int n =>
      rw [number?_int] at isNumber
      cases rounded : Binary64.ofInt? n with
      | none =>
          rw [rounded] at isNumber
          cases isNumber
          exact .fails (.int ((Binary64.ofInt?_eq_none_iff n).mp rounded))
      | some x =>
          rw [rounded] at isNumber
          cases isNumber
          refine .gives (fun fault exceeds => ?_) (Binary64.isFinite_of_ofInt? rounded)
          rw [(Binary64.ofInt?_eq_none_iff n).mpr (exceeds_int_iff.mp exceeds).2] at rounded
          cases rounded
  | float x =>
      cases isNumber
      exact .gives (fun fault exceeds => nomatch isInt exceeds) (isFinite_finiteOrZero x)
  | null | text _ | list _ | mapping _ => cases isNumber

/-- What is computed from the text of a value breaks off where no text can be made of it, or where
it does for the text. -/
theorem failsIff_toText_bind [Host] {β : Type} {value : Value} {property : β → Prop}
    {exhausts : String → Prop} {compute : String → Except Fault β}
    (isOther : number? value = none) (present : value ≠ .null)
    (each : ∀ text, FailsIff (fun fault => fault = .outOfMemory ∧ exhausts text) property
      (compute text)) :
    FailsIff (value.Exceeds exhausts) property (value.toText.bind compute) := by
  cases made : value.toText with
  | error fault => exact .fails (.unwritten isOther (Value.toText_eq_error_iff.mp made))
  | ok text =>
      refine FailsIff.congr (each text) fun fault => ?_
      constructor
      · rintro ⟨rfl, exhausted⟩
        exact .text isOther present made exhausted
      · intro exceeds
        cases exceeds with
        | int =>
            rw [number?_int] at isOther
            cases isOther
        | unwritten _ obstructs => cases made.symm.trans (Value.toText_eq_error_iff.mpr obstructs)
        | text _ _ written exhausted =>
            obtain rfl := Except.ok.inj (made.symm.trans written)
            exact ⟨rfl, exhausted⟩

theorem not_exceeds_null [Host] {exhausts : String → Prop} {fault : Fault} :
    ¬ Value.null.Exceeds exhausts fault := by
  intro exceeds
  cases exceeds with
  | unwritten _ obstructs => exact obstructs.not_isWritable .null
  | text _ present => exact present rfl

theorem failsIff_resolve [Host] (constants : Constants) (value : Value) :
    FailsIff (value.Exceeds constants.Exhausts) (fun x => x.isFinite = true)
      (constants.resolve value) := by
  unfold resolve
  split
  · exact .gives (fun _ => not_exceeds_null) (by decide)
  · next present =>
      cases isNumber : number? value with
      | some result => exact failsIff_number? isNumber _
      | none => exact failsIff_toText_bind isNumber present constants.failsIff_resolveText

theorem failsIff_resolveTexts [Host] (constants : Constants) (texts : List String) :
    FailsIff (fun fault => fault = .outOfMemory ∧ ∃ text ∈ texts, constants.Exhausts text)
      (fun xs => ∀ x ∈ xs, x.isFinite = true) (texts.mapM constants.resolveText) :=
  FailsIff.congr (FailsIff.mapM constants.failsIff_resolveText texts) fun fault => by
    constructor
    · rintro ⟨text, member, rfl, exhausts⟩
      exact ⟨rfl, text, member, exhausts⟩
    · rintro ⟨rfl, text, member, exhausts⟩
      exact ⟨text, member, rfl, exhausts⟩

theorem failsIff_resolveList [Host] (constants : Constants) (value : Value) :
    FailsIff (constants.ListExceeds value) (fun xs => ∀ x ∈ xs, x.isFinite = true)
      (constants.resolveList value) := by
  unfold resolveList
  split
  · exact .gives (fun _ => not_exceeds_null) (by simp)
  · exact FailsIff.mapM (failsIff_resolve constants) _
  · next present isOther =>
      have same (fault : Fault) : value.Exceeds (fun text => ∃ part ∈ listItems text,
          constants.Exhausts part) fault ↔ constants.ListExceeds value fault := by
        cases value with
        | list items => exact absurd rfl (isOther items)
        | _ => exact Iff.rfl
      refine FailsIff.congr ?_ same
      cases isNumber : number? value with
      | none =>
          exact failsIff_toText_bind isNumber present fun text =>
            constants.failsIff_resolveTexts (listItems text)
      | some result =>
          exact (failsIff_number? isNumber _).map fun x isFinite => by simpa using isFinite

/-! ## Tables of constants -/

/-- All the numbers of a table are finite. -/
def IsFinite (constants : Constants) : Prop := Entries.All (fun x => x.isFinite = true) constants

/-- A variable that has a name cannot be resolved over a table. -/
def EntryExceeds [Host] (constants : Constants) (entry : String × Value) (fault : Fault) : Prop :=
  (Text.trim entry.1).isEmpty = false ∧ entry.2.Exceeds constants.Exhausts fault

/-- One of some variables cannot be resolved over the table of those before it. -/
def AnyExceeds [Host] (vars : List (String × Value)) (fault : Fault) : Prop :=
  ∃ above entry below constants, vars = above ++ entry :: below ∧
    ofVariables above = .ok constants ∧ constants.EntryExceeds entry fault

theorem isFinite_standard : IsFinite standard := by
  unfold IsFinite Entries.All standard
  decide

theorem isFinite_define {constants : Constants} (finite : constants.IsFinite) (name : String)
    {x : Float} (isFinite : x.isFinite = true) : IsFinite (constants.define name x) := by
  unfold define
  dsimp only
  split
  · exact finite
  · split
    · exact Entries.All.set (Entries.All.set finite _ isFinite) _ isFinite
    · exact Entries.All.set finite _ isFinite

theorem failsIff_extend [Host] (constants : Constants) (entry : String × Value)
    (finite : constants.IsFinite) :
    FailsIff (constants.EntryExceeds entry) IsFinite (constants.extend entry) := by
  unfold extend
  split
  · next nameless =>
      refine .gives ?_ finite
      rintro fault ⟨named, -⟩
      rw [named] at nameless
      cases nameless
  · next named =>
      refine FailsIff.congr ((failsIff_resolve constants entry.2).map fun x isFinite =>
        isFinite_define finite entry.1 isFinite) fun fault => ?_
      simp [EntryExceeds, named]

theorem failsIff_ofVariables [Host] (vars : List (String × Value)) :
    FailsIff (AnyExceeds vars) IsFinite (ofVariables vars) :=
  FailsIff.foldlM failsIff_extend vars standard isFinite_standard

end Constants

/-! ## Workspaces -/

namespace Workspace

open Constants

/-- A workspace whose constants are finite. -/
def IsFinite (workspace : Workspace) : Prop := workspace.constants.IsFinite

theorem failsIff_ofVariables [Host] (vars : List (String × Value)) :
    FailsIff (AnyExceeds vars) IsFinite (ofVariables vars) :=
  (Constants.failsIff_ofVariables vars).map fun _ finite => finite

/-- Loading tells of skipped statements, and never breaks off at that. -/
theorem gives_skipped (statements : List Statement) (path : String) :
    Gives (forIn statements PUnit.unit fun statement _ =>
      match statement with
      | .other line => do
          note (.skippedLine line path)
          pure (ForInStep.yield PUnit.unit)
      | _ => pure (ForInStep.yield PUnit.unit) : Noted Fault PUnit) (.ok ()) := by
  induction statements with
  | nil => exact gives_pure _
  | cons statement rest ih =>
      intro before
      rw [List.forIn_cons, outcome_bind]
      cases statement with
      | assignment names first stop => exact ih before
      | other line => exact ih _

/-- Loading a file into a workspace breaks off: the reader of the file does, or a variable cannot be
resolved over those that come before it then. -/
inductive LoadingBreaks [Host] (workspace : Workspace) (files : Files) (path : String)
    (fault : Fault) : Prop
  | file (there : files.has path = true) (breaks : statementsIn? files path = .error fault)
  | vars {text : List Char} {statements : List Statement} (there : files.has path = true)
      (read : statementsIn? files path = .ok (some (text, statements)))
      (exceeds : AnyExceeds (overlay workspace.vars (assigned text statements)) fault)

/-- What a file that can be read is loaded as. -/
theorem gives_load_of_read [Host] {workspace : Workspace} {files : Files} {path : String}
    {text : List Char} {statements : List Statement} (there : files.has path = true)
    (read : statementsIn? files path = .ok (some (text, statements))) :
    let vars := overlay workspace.vars (assigned text statements)
    Gives (workspace.load files path)
      ((Constants.ofVariables vars).map fun constants => (true, ⟨vars, constants, some path⟩)) := by
  intro vars
  have same : (Constants.ofVariables vars).map (fun constants =>
      (true, (⟨vars, constants, some path⟩ : Workspace))) =
        Constants.ofVariables vars >>= fun constants =>
          .ok (true, ⟨vars, constants, some path⟩) := by
    cases Constants.ofVariables vars <;> rfl
  rw [same]
  unfold load
  rw [there, read]
  exact gives_bind_of_ok (gives_ofExcept (.ok (some (text, statements)))) <|
    gives_bind_of_ok (gives_skipped statements path) <|
      gives_bind (gives_ofExcept _) fun _ => gives_pure _

/-- Loading a file keeps the constants finite. -/
theorem failsIff_load [Host] {workspace : Workspace} (finite : workspace.IsFinite) (files : Files)
    (path : String) (before : List Notice) :
    FailsIff (workspace.LoadingBreaks files path) (fun loaded => loaded.2.IsFinite)
      (outcome (workspace.load files path) before).1 := by
  cases there : files.has path with
  | false =>
      have missing : (outcome (workspace.load files path) before).1 = .ok (false, workspace) := by
        unfold load
        rw [there]
        rfl
      rw [missing]
      refine .gives ?_ finite
      rintro fault (⟨has, -⟩ | ⟨has, -, -⟩) <;> cases there.symm.trans has
  | true =>
      cases read : statementsIn? files path with
      | error fault =>
          have broken : (outcome (workspace.load files path) before).1 = .error fault := by
            unfold load
            rw [there, read]
            rfl
          rw [broken]
          exact .fails (.file there read)
      | ok found =>
          cases found with
          | none =>
              have malformed : (outcome (workspace.load files path) before).1 =
                  .ok (false, workspace) := by
                unfold load
                rw [there, read]
                rfl
              rw [malformed]
              refine .gives ?_ finite
              rintro fault (⟨-, breaks⟩ | ⟨-, found, -⟩)
              · cases read.symm.trans breaks
              · cases read.symm.trans found
          | some found =>
              obtain ⟨text, statements⟩ := found
              rw [gives_load_of_read there read before]
              refine FailsIff.congr ((Constants.failsIff_ofVariables _).map fun _ kept => kept)
                fun fault => ⟨.vars there read, ?_⟩
              rintro (⟨-, breaks⟩ | ⟨-, found, exceeds⟩)
              · cases read.symm.trans breaks
              · cases read.symm.trans found
                exact exceeds

/-- Loads some files into a workspace, one after the other. -/
def loadAll [Host] (workspace : Workspace) (loads : List (Files × String)) :
    Noted Fault Workspace :=
  loads.foldlM (fun workspace (files, path) => return (← workspace.load files path).2) workspace

/-- The workspace of some variables into which some files are loaded, one after the other. -/
def built [Host] (vars : List (String × Value)) (loads : List (Files × String)) :
    Noted Fault Workspace := do
  let workspace ← .ofExcept (ofVariables vars)
  workspace.loadAll loads

theorem built_append [Host] (vars : List (String × Value)) (loads : List (Files × String))
    (load : Files × String) :
    built vars (loads ++ [load]) = do
      let workspace ← built vars loads
      return (← workspace.load load.1 load.2).2 := by
  simp [built, loadAll]

/-- Building a workspace breaks off: at a variable, or at the loading of a file. -/
inductive BuildingBreaks [Host] (vars : List (String × Value)) (loads : List (Files × String))
    (before : List Notice) (fault : Fault) : Prop
  | vars (exceeds : AnyExceeds vars fault)
  | load {done rest : List (Files × String)} {files : Files} {path : String}
      {workspace : Workspace} {between : List Notice}
      (split : loads = done ++ (files, path) :: rest)
      (begun : Completes (built vars done) before workspace between)
      (breaks : workspace.LoadingBreaks files path fault)

theorem failsIff_built [Host] (vars : List (String × Value)) (loads : List (Files × String))
    (before : List Notice) :
    FailsIff (BuildingBreaks vars loads before) IsFinite
      (outcome (built vars loads) before).1 := by
  induction loads using List.reverseRecOn with
  | nil =>
      have same : (outcome (built vars []) before).1 = ofVariables vars := by
        simp [built, loadAll, Noted.ofExcept]
      rw [same]
      refine (failsIff_ofVariables vars).congr fun fault => ⟨.vars, ?_⟩
      rintro (exceeds | ⟨split, -, -⟩)
      · exact exceeds
      · simp at split
  | append_singleton loads load ih =>
      rw [built_append, outcome_bind]
      have more {fault : Fault} (breaks : BuildingBreaks vars loads before fault) :
          BuildingBreaks vars (loads ++ [load]) before fault := by
        cases breaks with
        | vars exceeds => exact .vars exceeds
        | @load done rest files path _ _ split begun breaks =>
            have longer : loads ++ [load] = done ++ (files, path) :: (rest ++ [load]) := by
              rw [split, List.append_assoc, List.cons_append]
            exact .load longer begun breaks
      rcases ended : outcome (built vars loads) before with ⟨fault | workspace, between⟩
      · rw [ended] at ih
        exact .fails (more ih.of_error)
      · rw [ended] at ih
        obtain ⟨free, finite⟩ := ih.of_ok
        have last := failsIff_load finite load.1 load.2 between
        have causes (fault : Fault) : workspace.LoadingBreaks load.1 load.2 fault ↔
            BuildingBreaks vars (loads ++ [load]) before fault := by
          constructor
          · exact .load rfl ended
          · intro breaks
            cases breaks with
            | vars exceeds => exact absurd (.vars exceeds) (free fault)
            | @load done rest files path _ _ split begun breaks =>
                rcases List.eq_nil_or_concat rest with rfl | ⟨front, last, rfl⟩
                · obtain ⟨rfl, same⟩ := List.append_inj' split rfl
                  obtain rfl := List.singleton_inj.mp same
                  obtain ⟨rfl, rfl⟩ := begun.unique ended
                  exact breaks
                · rw [List.concat_eq_append, ← List.cons_append, ← List.append_assoc] at split
                  obtain ⟨rfl, -⟩ := List.append_inj' split rfl
                  exact absurd (.load rfl begun breaks) (free fault)
        dsimp only
        rw [outcome_bind]
        rcases loaded : outcome (workspace.load load.1 load.2) between
          with ⟨fault | next, after⟩ <;> rw [loaded] at last
        · exact .fails ((causes fault).mp last.of_error)
        · exact .gives (fun fault => mt (causes fault).mpr (last.of_ok.1 fault)) last.of_ok.2

end Workspace

/-- **Resolving is total up to what cannot be computed.** Over any constants each value resolves to
a finite double and each list to finite doubles; a table of constants holds finite doubles, also
after files have been loaded. All of this breaks off exactly where a value is beyond what can be
computed, or where the host breaks off in the middle of a file. -/
theorem Constants.resolving_failsIff [Host] (constants : Constants) (value : Value)
    (vars : List (String × Value)) (loads : List (Files × String)) (before : List Notice) :
    FailsIff (value.Exceeds constants.Exhausts) (fun x => x.isFinite = true)
        (constants.resolve value) ∧
      FailsIff (constants.ListExceeds value) (fun xs => ∀ x ∈ xs, x.isFinite = true)
        (constants.resolveList value) ∧
      FailsIff (AnyExceeds vars) IsFinite (ofVariables vars) ∧
      FailsIff (Workspace.BuildingBreaks vars loads before) Workspace.IsFinite
        (outcome (Workspace.built vars loads) before).1 :=
  ⟨failsIff_resolve constants value, failsIff_resolveList constants value,
    failsIff_ofVariables vars, Workspace.failsIff_built vars loads before⟩

open Host.Usual

/-- A whole number beyond the doubles does not resolve. -/
theorem Constants.resolve_tenPow400 :
    standard.resolve (.int (10 ^ 400)) = .error .tooLarge := by
  have large : Binary64.overflow ≤ (10 ^ 400 : Int).natAbs := by decide +kernel
  obtain ⟨fault, exceeds, failed⟩ :=
    (failsIff_resolve standard _).exists_eq_error (.int large)
  obtain ⟨rfl, -⟩ := exceeds_int_iff.mp exceeds
  exact failed

end SignalFlow
