import SignalFlow.Config.Basic
import SignalFlow.Proofs.Completion
import SignalFlow.Proofs.Entries

/-! # Paths of configurations

A dotted path leads through the paths before its dots (`Config.LeadsThrough`). Setting a value at a
path creates the sections that are missing on the way and changes what is found at that path, at the
paths it leads through and at those that lead through it, and nowhere else
(`Config.get?_of_set?_of_apart`). It is refused exactly if the path leads through a value that is no
section (`Config.set?_eq_error_iff`). Then nothing has been changed, although the descent puts missing
sections in place before it knows whether it gets to the end (`Config.assign_eq`,
`Settings.set_obeys`).
-/

namespace SignalFlow

/-- A value holds further values under keys. -/
def Value.IsSection (value : Value) : Prop := ∃ entries, value = .mapping entries

namespace Config

/-! ## Dotted texts -/

/-- A dotted path leads through another one if it continues that one behind a dot. -/
def LeadsThrough (text front : String) : Prop := ∃ back, text = front ++ "." ++ back

theorem path_ne_nil (text : String) : path text ≠ [] := by
  rw [path, Ne, List.map_eq_nil_iff]
  exact List.splitOn_ne_nil _ _

theorem not_mem_of_mem_splitOn {mark : Char} {text part : List Char}
    (member : part ∈ text.splitOn mark) : mark ∉ part := by
  induction text generalizing part with
  | nil =>
      rw [List.splitOn_nil, List.mem_singleton] at member
      rw [member]
      exact List.not_mem_nil
  | cons c rest ih =>
      rw [List.splitOn_cons_eq_if_modifyHead] at member
      obtain ⟨first, others, parts⟩ := List.exists_cons_of_ne_nil (List.splitOn_ne_nil mark rest)
      rw [parts] at ih member
      by_cases marked : c = mark
      · rw [if_pos (beq_iff_eq.mpr marked), List.mem_cons] at member
        rcases member with rfl | later
        · exact List.not_mem_nil
        · exact ih later
      · rw [if_neg (by simpa using marked), List.modifyHead_cons, List.mem_cons] at member
        rcases member with rfl | later
        · rw [List.mem_cons, not_or]
          exact ⟨fun same => marked same.symm, ih List.mem_cons_self⟩
        · exact ih (List.mem_cons_of_mem _ later)

/-- No key of a path has a dot. -/
theorem not_mem_of_mem_path {text key : String} (member : key ∈ path text) : '.' ∉ key.toList := by
  obtain ⟨part, inside, rfl⟩ := List.mem_map.mp member
  rw [String.toList_ofList]
  exact not_mem_of_mem_splitOn inside

/-- Keys without dots are a path. -/
theorem path_intercalate {keys : List String} (nonempty : keys ≠ [])
    (dotless : ∀ key ∈ keys, '.' ∉ key.toList) : path (".".intercalate keys) = keys := by
  have same : String.ofList ∘ String.toList = id := funext fun _ => String.ofList_toList
  have parts : (['.'].intercalate (keys.map String.toList)).splitOn '.' = keys.map String.toList := by
    apply List.splitOn_intercalate
    · simpa using dotless
    · simpa using nonempty
  rw [path, String.toList_intercalate]
  change List.map String.ofList ((['.'].intercalate (keys.map String.toList)).splitOn '.') = keys
  rw [parts, List.map_map, same, List.map_id]

/-- A text is its keys with dots between them. -/
theorem intercalate_path (text : String) : ".".intercalate (path text) = text := by
  have same : String.toList ∘ String.ofList = id := funext fun _ => String.toList_ofList
  apply String.toList_injective
  rw [String.toList_intercalate, path, List.map_map, same, List.map_id]
  exact List.intercalate_splitOn '.'

theorem path_injective : Function.Injective path := fun first second same => by
  rw [← intercalate_path first, same, intercalate_path]

/-- What follows a dot adds its keys. -/
theorem path_append (front back : String) :
    path (front ++ "." ++ back) = path front ++ path back := by
  rw [path, String.toList_append, String.toList_append, List.append_assoc]
  change ((front.toList ++ '.' :: back.toList).splitOn '.').map String.ofList = _
  rw [List.splitOn_append_cons_self, List.map_append]
  rfl

/-- A path leads through another one if it begins with its keys and has more. -/
theorem leadsThrough_iff {text front : String} :
    LeadsThrough text front ↔ path front <+: path text ∧ path front ≠ path text := by
  constructor
  · rintro ⟨back, rfl⟩
    rw [path_append]
    refine ⟨List.prefix_append _ _, fun same => path_ne_nil back ?_⟩
    exact List.self_eq_append_right.mp same
  · rintro ⟨⟨rest, split⟩, differs⟩
    have nonempty : rest ≠ [] := by
      rintro rfl
      rw [List.append_nil] at split
      exact differs split
    refine ⟨".".intercalate rest, ?_⟩
    rw [← intercalate_path text, ← split,
      String.intercalate_append_of_ne_nil (path_ne_nil front) nonempty, intercalate_path]

theorem not_prefix_of_not_leadsThrough {text front : String} (differs : front ≠ text)
    (apart : ¬ LeadsThrough text front) : ¬ path front <+: path text := by
  intro begins
  apply apart
  rw [leadsThrough_iff]
  exact ⟨begins, path_injective.ne differs⟩

/-- The first keys of a path are those of a path that it leads through. -/
theorem exists_leadsThrough {text : String} {keys rest : List String}
    (split : path text = keys ++ rest) (keysNonempty : keys ≠ [])
    (restNonempty : rest ≠ []) :
    ∃ front, path front = keys ∧ LeadsThrough text front := by
  have keys_eq : path (".".intercalate keys) = keys := by
    apply path_intercalate keysNonempty
    intro key member
    have inside : key ∈ path text := by
      rw [split]
      exact List.mem_append_left _ member
    exact not_mem_of_mem_path inside
  refine ⟨".".intercalate keys, keys_eq, leadsThrough_iff.mpr ?_⟩
  rw [keys_eq, split]
  exact ⟨List.prefix_append _ _, fun same => restNonempty (List.self_eq_append_right.mp same)⟩

/-! ## Setting a value -/

/-- Sets the value at a path, or gives the first key back that leads to something else than a
section. -/
def set? : List String → Section → Value → Except String Section
  | [], config, _ => .ok config
  | [key], config, value => .ok (Entries.set config key value)
  | key :: rest, config, value =>
      match Entries.get? config key with
      | none => return Entries.set config key (.mapping (← set? rest [] value))
      | some (.mapping inner) => return Entries.set config key (.mapping (← set? rest inner value))
      | some _ => .error key

variable {config after : Section} {value found : Value} {key : String} {keys other : List String}

/-- The section under a key into which a path leads on: a new one if there is nothing, and none if
there is something else. -/
def sectionUnder? (config : Section) (key : String) : Option Section :=
  match Entries.get? config key with
  | none => some []
  | some (.mapping inner) => some inner
  | some _ => none

theorem get?_cons (config : Section) (key : String) (rest : List String) :
    get? config (key :: rest) = (Entries.get? config key).bind (follow? rest) := rfl

theorem get?_nil_of_ne_nil (nonempty : keys ≠ []) : get? [] keys = none := by
  obtain ⟨key, rest, rfl⟩ := List.exists_cons_of_ne_nil nonempty
  rfl

/-- Setting goes down into the section under the first key. -/
theorem set?_cons (config : Section) (value : Value) (key : String) {rest : List String}
    (nonempty : rest ≠ []) : set? (key :: rest) config value =
      match sectionUnder? config key with
      | some inner =>
          (set? rest inner value).map fun changed => Entries.set config key (.mapping changed)
      | none => .error key := by
  obtain ⟨next, rest, rfl⟩ := List.exists_cons_of_ne_nil nonempty
  rw [set?, sectionUnder?]
  · rcases Entries.get? config key with _ | found
    · rfl
    · cases found <;> rfl
  · exact List.cons_ne_nil _ _

/-- What a path finds in a configuration it finds in the section that it leads on into. -/
theorem get?_cons_of_sectionUnder? {inner : Section} (under : sectionUnder? config key = some inner)
    {rest : List String} (nonempty : rest ≠ []) : get? config (key :: rest) = get? inner rest := by
  rw [get?_cons]
  unfold sectionUnder? at under
  split at under
  · rename_i absent
    cases under
    rw [absent, get?_nil_of_ne_nil nonempty]
    rfl
  · rename_i present
    cases under
    rw [present]
    rfl
  · cases under

/-- A path cannot lead on from its first key if there is something else than a section. -/
theorem sectionUnder?_eq_none_iff : sectionUnder? config key = none ↔
    ∃ found, get? config [key] = some found ∧ ¬ found.IsSection := by
  have get?_eq : get? config [key] = Entries.get? config key := by
    rw [get?_cons]
    cases Entries.get? config key <;> rfl
  rw [get?_eq]
  unfold sectionUnder?
  split
  · rename_i absent
    simp [absent]
  · rename_i inner present
    simp [present, Value.IsSection]
  · rename_i found other present
    simp only [present, Option.some.injEq, exists_eq_left', true_iff]
    rintro ⟨entries, rfl⟩
    exact other entries rfl

/-- Where a path cannot lead on it finds nothing. -/
theorem get?_cons_of_sectionUnder?_eq_none (under : sectionUnder? config key = none)
    {rest : List String} (nonempty : rest ≠ []) : get? config (key :: rest) = none := by
  obtain ⟨next, rest, rfl⟩ := List.exists_cons_of_ne_nil nonempty
  rw [get?_cons]
  unfold sectionUnder? at under
  split at under
  · cases under
  · cases under
  · rename_i found other present
    rw [present]
    cases found with
    | mapping entries => exact absurd rfl (other entries)
    | _ => rfl

/-- Setting a value below a first key changes the section under this key. -/
theorem set?_cons_eq_ok_iff {rest : List String} (nonempty : rest ≠ []) :
    set? (key :: rest) config value = .ok after ↔
      ∃ inner changed, sectionUnder? config key = some inner ∧
        set? rest inner value = .ok changed ∧
        after = Entries.set config key (.mapping changed) := by
  rw [set?_cons config value key nonempty]
  rcases sectionUnder? config key with _ | inner
  · simp
  · rcases result : set? rest inner value with cause | changed
    · simp [Except.map, result]
    · simp [Except.map, result, eq_comm]

/-- Setting a value below a first key is refused if the path cannot lead on from there, or further
down. -/
theorem set?_cons_eq_error_iff {first : String} {rest : List String} (nonempty : rest ≠ []) :
    set? (first :: rest) config value = .error key ↔
      (sectionUnder? config first = none ∧ first = key) ∨
        ∃ inner, sectionUnder? config first = some inner ∧ set? rest inner value = .error key := by
  rw [set?_cons config value first nonempty]
  rcases sectionUnder? config first with _ | inner
  · simp
  · rcases result : set? rest inner value with cause | changed
    · simp [Except.map, result]
    · simp [Except.map, result]

/-- Nothing is in the way of a path through sections that are new. -/
theorem exists_set?_nil (keys : List String) (value : Value) :
    ∃ changed, set? keys [] value = .ok changed := by
  induction keys with
  | nil => exact ⟨[], rfl⟩
  | cons key rest ih =>
      by_cases last : rest = []
      · subst last
        exact ⟨_, rfl⟩
      · obtain ⟨changed, result⟩ := ih
        exact ⟨_, (set?_cons_eq_ok_iff last).mpr ⟨[], changed, rfl, result, rfl⟩⟩

/-- The descent enters the section under the first key, and puts one there if there is nothing. -/
theorem assign_cons (config : Section) (value : Value) (key : String) {rest : List String}
    (nonempty : rest ≠ []) : assign (key :: rest) config value =
      match sectionUnder? config key with
      | some inner => (Entries.set config key (.mapping (assign rest inner value).1),
          (assign rest inner value).2)
      | none => (config, some key) := by
  obtain ⟨next, rest, rfl⟩ := List.exists_cons_of_ne_nil nonempty
  rw [assign, sectionUnder?]
  · rcases present : Entries.get? config key with _ | found
    · have absent : Entries.has config key = false := by
        rw [Entries.has_eq_isSome, present]
        rfl
      simp [absent, Entries.get?_set, Entries.set_set]
    · have known : Entries.has config key = true := by
        rw [Entries.has_eq_isSome, present]
        rfl
      cases found <;> simp [known, present]
  · exact List.cons_ne_nil _ _

/-- **The descent of a path changes the configuration only if it gets to its end.** Sections that it
puts in place are empty, so that nothing ends the way behind the first of them. -/
theorem assign_eq (keys : List String) (config : Section) (value : Value) :
    assign keys config value =
      match set? keys config value with
      | .ok changed => (changed, none)
      | .error key => (config, some key) := by
  induction keys generalizing config with
  | nil => rfl
  | cons key rest ih =>
      by_cases last : rest = []
      · subst last
        rfl
      · rw [assign_cons config value key last, set?_cons config value key last]
        rcases under : sectionUnder? config key with _ | inner
        · rfl
        · dsimp only
          rw [ih inner]
          rcases result : set? rest inner value with refused | changed
          · -- Where the way ends, it has led through sections that were there before.
            have present : Entries.get? config key = some (.mapping inner) := by
              rcases found : Entries.get? config key with _ | value
              · rw [sectionUnder?, found] at under
                cases under
                obtain ⟨changed, possible⟩ := exists_set?_nil rest value
                rw [possible] at result
                cases result
              · rw [sectionUnder?, found] at under
                cases value with
                | mapping entries =>
                    cases under
                    rfl
                | _ => cases under
            exact congrArg (·, some refused) (Entries.set_eq_self present)
          · rfl

/-- The value that has been set is found. -/
theorem get?_of_set? (nonempty : keys ≠ []) (set : set? keys config value = .ok after) :
    get? after keys = some value := by
  induction keys generalizing config after with
  | nil => exact absurd rfl nonempty
  | cons key rest ih =>
      by_cases last : rest = []
      · subst last
        cases set
        rw [get?_cons, Entries.get?_set, if_pos rfl]
        rfl
      · obtain ⟨inner, changed, -, setInner, rfl⟩ := (set?_cons_eq_ok_iff last).mp set
        rw [get?_cons, Entries.get?_set, if_pos rfl]
        exact ih last setInner

/-- What another path finds stays as it was, unless one of the two begins with the other. -/
theorem get?_of_set?_of_apart (set : set? keys config value = .ok after)
    (notUnder : ¬ keys <+: other) (notOver : ¬ other <+: keys) :
    get? after other = get? config other := by
  induction keys generalizing config after other with
  | nil => exact absurd List.nil_prefix notUnder
  | cons key rest ih =>
      cases other with
      | nil => exact absurd List.nil_prefix notOver
      | cons first others =>
          by_cases same : key = first
          · subst same
            rw [List.cons_prefix_cons, not_and] at notUnder notOver
            have last : rest ≠ [] := by
              rintro rfl
              exact notUnder rfl List.nil_prefix
            have nonempty : others ≠ [] := by
              rintro rfl
              exact notOver rfl List.nil_prefix
            obtain ⟨inner, changed, under, setInner, rfl⟩ := (set?_cons_eq_ok_iff last).mp set
            rw [get?_cons_of_sectionUnder? under nonempty, get?_cons, Entries.get?_set, if_pos rfl]
            exact ih setInner (notUnder rfl) (notOver rfl)
          · have kept {entry : Value} : get? (Entries.set config key entry) (first :: others) =
                get? config (first :: others) := by
              rw [get?_cons, get?_cons, Entries.get?_set, if_neg same]
            by_cases last : rest = []
            · subst last
              cases set
              exact kept
            · obtain ⟨inner, changed, -, -, rfl⟩ := (set?_cons_eq_ok_iff last).mp set
              exact kept

/-- Setting a value is refused at a key exactly if the path leads on from there and finds something
else than a section there. -/
theorem set?_eq_error_iff : set? keys config value = .error key ↔
    ∃ front rest, keys = front ++ key :: rest ∧ rest ≠ [] ∧
      ∃ found, get? config (front ++ [key]) = some found ∧ ¬ found.IsSection := by
  induction keys generalizing config with
  | nil => simp [set?]
  | cons first others ih =>
      by_cases last : others = []
      · subst last
        refine iff_of_false (by simp [set?]) ?_
        rintro ⟨front, rest, split, nonempty, -⟩
        have short := congrArg List.length split
        have long := List.length_pos_of_ne_nil nonempty
        simp only [List.length_append, List.length_cons, List.length_nil] at short
        omega
      · rw [set?_cons_eq_error_iff last]
        constructor
        · rintro (⟨under, rfl⟩ | ⟨inner, under, refused⟩)
          · exact ⟨[], others, rfl, last, sectionUnder?_eq_none_iff.mp under⟩
          · obtain ⟨front, rest, rfl, nonempty, found, present, leaf⟩ := ih.mp refused
            refine ⟨first :: front, rest, rfl, nonempty, found, ?_, leaf⟩
            rw [List.cons_append, get?_cons_of_sectionUnder? under (by simp)]
            exact present
        · rintro ⟨front, rest, split, nonempty, found, present, leaf⟩
          cases front with
          | nil =>
              obtain ⟨rfl, rfl⟩ := List.cons.inj split
              exact .inl ⟨sectionUnder?_eq_none_iff.mpr ⟨found, present, leaf⟩, rfl⟩
          | cons own front =>
              obtain ⟨rfl, rfl⟩ := List.cons.inj split
              have below : front ++ [key] ≠ [] := by simp
              rw [List.cons_append] at present
              rcases under : sectionUnder? config first with _ | inner
              · rw [get?_cons_of_sectionUnder?_eq_none under below] at present
                cases present
              · rw [get?_cons_of_sectionUnder? under below] at present
                exact .inr ⟨inner, rfl, ih.mpr ⟨front, rest, rfl, nonempty, found, present, leaf⟩⟩

end Config

namespace Settings

variable {ε : Type} {settings : Settings} {path : String} {value : Value}

/-- Setting a value ends with the changed settings, or with the settings as they were and a notice
that names the key of what is no section. -/
theorem outcome_set (settings : Settings) (path : String) (value : Value) (notices : List Notice) :
    outcome (settings.set path value : Noted ε (Bool × Settings)) notices =
      match Config.set? (Config.path path) settings.config value with
      | .ok config => (.ok (true, { settings with config }), notices)
      | .error key => (.ok (false, settings), notices ++ [.notSection path key]) := by
  unfold set
  rw [Config.assign_eq]
  rcases Config.set? (Config.path path) settings.config value with key | config <;> rfl

/-- Setting a value is refused exactly if its path leads through a value that is no section. -/
theorem exists_set?_eq_error_iff :
    (∃ key, Config.set? (Config.path path) settings.config value = .error key) ↔
      ∃ front found, Config.LeadsThrough path front ∧ settings.get? front = some found ∧
        ¬ found.IsSection := by
  constructor
  · rintro ⟨key, refused⟩
    obtain ⟨front, rest, split, nonempty, found, present, leaf⟩ :=
      Config.set?_eq_error_iff.mp refused
    rw [← List.singleton_append, ← List.append_assoc] at split
    obtain ⟨text, keys_eq, leads⟩ := Config.exists_leadsThrough split (by simp) nonempty
    refine ⟨text, found, leads, ?_, leaf⟩
    rw [get?, keys_eq]
    exact present
  · rintro ⟨front, found, ⟨back, rfl⟩, present, leaf⟩
    obtain ⟨before, key, split⟩ : ∃ before key, Config.path front = before ++ [key] :=
      ⟨_, _, (List.dropLast_append_getLast (Config.path_ne_nil front)).symm⟩
    refine ⟨key, Config.set?_eq_error_iff.mpr
      ⟨before, Config.path back, ?_, Config.path_ne_nil back, found, ?_, leaf⟩⟩
    · rw [Config.path_append, split, List.append_assoc, List.singleton_append]
    · rw [← split]
      exact present

/-- **Setting a value obeys the laws of a store.** Setting always ends, and tells whether it was
possible. If it was, the value is found at its path, and what any other path finds stays as it was,
if neither path leads through the other. If it was not, nothing has been changed, and that is the
case exactly if the path leads through a value that is no section. -/
theorem set_obeys (settings : Settings) (path : String) (value : Value) (notices : List Notice) :
    ∃ possible after told,
      outcome (settings.set path value : Noted ε (Bool × Settings)) notices =
        (.ok (possible, after), told) ∧
      (possible = true → after.get? path = some value ∧
        ∀ other default, other ≠ path → ¬ Config.LeadsThrough other path →
          ¬ Config.LeadsThrough path other → after.get other default = settings.get other default) ∧
      (possible = false → after = settings) ∧
      (possible = false ↔ ∃ front found, Config.LeadsThrough path front ∧
        settings.get? front = some found ∧ ¬ found.IsSection) := by
  rw [← exists_set?_eq_error_iff]
  rcases result : Config.set? (Config.path path) settings.config value with key | config
  · refine ⟨false, settings, notices ++ [.notSection path key], ?_, ?_, fun _ => rfl, ?_⟩
    · rw [outcome_set, result]
    · exact fun possible => absurd possible Bool.false_ne_true
    · exact iff_of_true rfl ⟨key, rfl⟩
  · refine ⟨true, { settings with config }, notices, ?_, fun _ => ⟨?_, ?_⟩, ?_, ?_⟩
    · rw [outcome_set, result]
    · exact Config.get?_of_set? (Config.path_ne_nil path) result
    · intro other default differs notThrough notOver
      have kept := Config.get?_of_set?_of_apart result
        (Config.not_prefix_of_not_leadsThrough differs.symm notThrough)
        (Config.not_prefix_of_not_leadsThrough differs notOver)
      unfold get get?
      rw [kept]
    · exact fun impossible => absurd impossible.symm Bool.false_ne_true
    · exact iff_of_false Bool.true_eq_false.mp fun ⟨key, refused⟩ => by cases refused

end Settings

end SignalFlow
