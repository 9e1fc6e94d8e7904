import SignalFlow.Config.Basic
import SignalFlow.Host.Usual
import SignalFlow.Proofs.Config.Layering
import SignalFlow.Proofs.JsonReading
import SignalFlow.Proofs.JsonLines
import SignalFlow.Proofs.ValueEquality
import SignalFlow.Proofs.WrittenFiles

/-! # Settings that are saved and loaded again

What is loaded from a file is laid over the built-in settings, so that these show through wherever
the file has neither a value nor a leaf on the way to one (`Config.Covers`). The built-in settings
cover themselves, what is loaded covers them, and setting a value keeps it so, unless a section that
lacks some of them takes the place of a built-in one (`Config.covers_of_set?`). This decides whether
settings are loaded again as they were saved (`Settings.reloads`).

Only the order of keys may change, which is that of the built-in settings after loading; so settings
are compared by what paths find in them (`Value.IsSameAs`).
-/

namespace SignalFlow

/-! ## Settings that show through -/

/-- Two values are the same, apart from the order of the keys in sections: every path from them
finds the same leaf in both, a section in both, or nothing in both. -/
def Value.IsSameAs (first second : Value) : Prop :=
  ∀ keys, Option.Rel Value.Resembles (Config.follow? keys first) (Config.follow? keys second)

namespace Config

variable {config base override after : Section} {keys : List String} {value : Value}

theorem follow?_append (front back : List String) (value : Value) :
    follow? (front ++ back) value = (follow? front value).bind (follow? back) := by
  induction front generalizing value with
  | nil => rfl
  | cons key rest ih =>
      cases value with
      | mapping entries =>
          simp only [List.cons_append, follow?, Option.bind_assoc]
          exact Option.bind_congr fun found _ => ih found
      | _ => rfl

theorem get?_append (config : Section) (front back : List String) :
    get? config (front ++ back) = (get? config front).bind (follow? back) :=
  follow?_append front back _

/-- Wherever a section below has a value, the one above has a value too or a leaf on the way to it:
nothing of the section below shows through. -/
def Covers (config base : Section) : Prop :=
  ∀ keys, (get? base keys).isSome → (get? config keys).isSome ∨ IsBlocked config keys

/-- Laid over another configuration a path finds what it found before exactly if nothing shows
through there. -/
theorem resembles_merge_iff (distinct : Value.HasDistinctKeys (.mapping override))
    (keys : List String) :
    Option.Rel Value.Resembles (get? (merge base override) keys) (get? override keys) ↔
      ((get? base keys).isSome → (get? override keys).isSome ∨ IsBlocked override keys) := by
  cases finds_merge base distinct keys with
  | above upper finds resembles =>
      rw [finds, upper]
      exact iff_of_true (.some resembles) fun _ => .inl rfl
  | blocked blocked finds =>
      rw [finds, get?_of_isBlocked blocked]
      exact iff_of_true .none fun _ => .inr blocked
  | below upper free finds =>
      rw [finds, upper]
      rcases get? base keys with _ | value
      · exact iff_of_true .none fun there => by cases there
      · refine iff_of_false (fun same => by cases same) fun covered => ?_
        rcases covered rfl with impossible | blocked
        · cases impossible
        · exact free blocked

theorem resembles_of_isSameAs {first second : Option Value}
    (same : Option.Rel Value.IsSameAs first second) : Option.Rel Value.Resembles first second := by
  cases same with
  | none => exact .none
  | some same => exact same []

/-- What is alike at every path is the same at each of them. -/
theorem isSameAs_of_resembles
    (alike : ∀ keys, Option.Rel Value.Resembles (get? config keys) (get? after keys))
    (keys : List String) : Option.Rel Value.IsSameAs (get? config keys) (get? after keys) := by
  have here := alike keys
  have below (more : List String) := alike (keys ++ more)
  simp only [get?_append] at below
  generalize get? config keys = first at here below ⊢
  generalize get? after keys = second at here below ⊢
  cases here with
  | none => exact .none
  | some _ => exact .some below

theorem covers_refl (base : Section) : Covers base base := fun _ there => .inl there

/-- A section of leaves is covered by one that has their keys. -/
theorem covers_of_leaves (leaves : ∀ entry ∈ base, ¬ entry.2.IsSection ∧
    (Entries.get? config entry.1).isSome) : Covers config base := by
  intro keys there
  cases keys with
  | nil => exact .inl rfl
  | cons key rest =>
      obtain ⟨value, present⟩ := Option.isSome_iff_exists.mp (Option.isSome_of_isSome_bind there)
      obtain ⟨leaf, has⟩ := leaves _ (Entries.mem_of_get?_eq_some present)
      obtain ⟨found, held⟩ := Option.isSome_iff_exists.mp has
      rw [get?_cons_of_leaf present leaf] at there
      have last : rest = [] := by
        by_contra goesOn
        rw [if_neg goesOn] at there
        cases there
      rw [last, get?_cons, held]
      exact .inl rfl

theorem isBlocked_merge (distinct : Value.HasDistinctKeys (.mapping override))
    (blocked : IsBlocked override keys) : IsBlocked (merge base override) keys := by
  obtain ⟨front, rest, leaf, split, nonempty, isLeaf⟩ := blocked
  exact ⟨front, rest, leaf, split, nonempty, (isLeaf_merge_iff distinct).mpr (.inl isLeaf)⟩

/-- What is laid over a configuration covers it together with it. -/
theorem covers_merge (distinct : Value.HasDistinctKeys (.mapping override)) :
    Covers (merge base override) base := by
  intro keys there
  cases finds_merge base distinct keys with
  | above upper finds =>
      rw [finds]
      exact .inl rfl
  | blocked blocked => exact .inr (isBlocked_merge distinct blocked)
  | below upper free finds =>
      rw [finds]
      exact .inl there

/-- A path that is found goes through sections. -/
theorem isSome_get?_of_append {front : List String} (back : List String)
    (there : (get? config (front ++ back)).isSome) : (get? config front).isSome := by
  rw [get?_append] at there
  exact Option.isSome_of_isSome_bind there

theorem get?_append_of_mapping {front : List String} {inner : Section}
    (present : get? config front = some (.mapping inner)) (back : List String) :
    get? config (front ++ back) = get? inner back := by
  rw [get?_append, present]
  rfl

theorem exists_mapping_of_append {front back : List String} (nonempty : back ≠ [])
    (there : (get? config (front ++ back)).isSome) :
    ∃ inner, get? config front = some (.mapping inner) := by
  obtain ⟨key, rest, rfl⟩ := List.exists_cons_of_ne_nil nonempty
  rw [get?_append] at there
  rcases found : get? config front with _ | value
  · rw [found] at there
    cases there
  · cases value with
    | mapping inner => exact ⟨inner, rfl⟩
    | _ =>
        rw [found] at there
        cases there

theorem isBlocked_append {front back : List String} {inner : Section}
    (present : get? config front = some (.mapping inner)) (blocked : IsBlocked inner back) :
    IsBlocked config (front ++ back) := by
  obtain ⟨before, rest, leaf, rfl, nonempty, found, isLeaf⟩ := blocked
  refine ⟨front ++ before, rest, leaf, by rw [List.append_assoc], nonempty, ?_, isLeaf⟩
  rw [get?_append_of_mapping present, found]

/-- No value is set behind a leaf. -/
theorem not_isBlocked_of_set? (set : set? keys config value = .ok after) :
    ¬ IsBlocked config keys := by
  rintro ⟨front, rest, leaf, rfl, nonempty, isLeaf⟩
  rcases List.eq_nil_or_concat front with rfl | ⟨before, key, rfl⟩
  · exact not_isLeaf_nil isLeaf
  · have refused : set? (before.concat key ++ rest) config value = .error key :=
      set?_eq_error_iff.mpr ⟨before, rest, by simp, nonempty, leaf, by
        rw [← List.concat_eq_append]
        exact isLeaf⟩
    rw [set] at refused
    cases refused

/-- Setting a value leaves a section covered, unless it puts a section there that does not cover
what it stands for. -/
theorem covers_of_set? (nonempty : keys ≠ []) (set : set? keys config value = .ok after)
    (covers : Covers config base)
    (keeps : ∀ entries own, value = .mapping entries → get? base keys = some (.mapping own) →
      Covers entries own) : Covers after base := by
  have stored : get? after keys = some value := get?_of_set? nonempty set
  intro other there
  by_cases under : keys <+: other
  · obtain ⟨rest, rfl⟩ := under
    by_cases last : rest = []
    · subst last
      rw [List.append_nil, stored]
      exact .inl rfl
    · by_cases isSection : value.IsSection
      · obtain ⟨entries, rfl⟩ := isSection
        obtain ⟨own, below⟩ := exists_mapping_of_append last there
        rw [get?_append_of_mapping below] at there
        rw [get?_append_of_mapping stored]
        exact (keeps entries own rfl below rest there).imp_right (isBlocked_append stored)
      · exact .inr ⟨keys, rest, value, rfl, last, stored, isSection⟩
  · by_cases leads : other <+: keys
    · obtain ⟨rest, rfl⟩ := leads
      refine .inl (isSome_get?_of_append rest ?_)
      rw [stored]
      rfl
    · rw [get?_of_set?_of_apart set under leads]
      refine (covers other there).imp_right ?_
      -- The leaf that cuts the path off lies neither on the way to the value nor below it.
      rintro ⟨front, rest, leaf, rfl, restNonempty, found, isLeaf⟩
      have notUnder : ¬ keys <+: front :=
        fun begins => under (begins.trans (List.prefix_append _ _))
      have notOver : ¬ front <+: keys := by
        rintro ⟨more, rfl⟩
        have goesOn : more ≠ [] := by
          rintro rfl
          exact notUnder (by simp)
        exact not_isBlocked_of_set? set ⟨front, more, leaf, rfl, goesOn, found, isLeaf⟩
      refine ⟨front, rest, leaf, rfl, restNonempty, ?_, isLeaf⟩
      rw [get?_of_set?_of_apart set notUnder notOver, found]

/-- The keys of a path that is found in a section have no dots if those of the section have none
and those below it have none. -/
theorem dotless_of_isSome_get? (keysDotless : ∀ entry ∈ base, '.' ∉ entry.1.toList)
    (below : ∀ entry ∈ base, ∀ rest, (follow? rest entry.2).isSome → ∀ key ∈ rest, '.' ∉ key.toList)
    (keys : List String) (there : (get? base keys).isSome) : ∀ key ∈ keys, '.' ∉ key.toList := by
  cases keys with
  | nil => exact fun key member => absurd member List.not_mem_nil
  | cons first rest =>
      rw [get?_cons] at there
      obtain ⟨value, present⟩ := Option.isSome_iff_exists.mp (Option.isSome_of_isSome_bind there)
      rw [present, Option.bind_some] at there
      have member := Entries.mem_of_get?_eq_some present
      exact List.forall_mem_cons.mpr ⟨keysDotless _ member, below _ member rest there⟩

theorem dotless_of_leaf (leaf : ¬ value.IsSection) (rest : List String)
    (there : (follow? rest value).isSome) : ∀ key ∈ rest, '.' ∉ key.toList := by
  cases rest with
  | nil => exact fun key member => absurd member List.not_mem_nil
  | cons first rest =>
      cases value with
      | mapping entries => exact absurd ⟨entries, rfl⟩ leaf
      | _ => cases there

end Config

namespace Settings

variable {settings start : Settings} {path : String} {value : Value}
  {files written : Files} {before after : List Notice}

/-! ## Saving and loading -/

theorem dotless_defaults (keys : List String) (there : (Config.get? defaults keys).isSome) :
    ∀ key ∈ keys, '.' ∉ key.toList := by
  have sections : ∀ entry ∈ defaults, ∃ entries, entry.2 = .mapping entries ∧
      (∀ inner ∈ entries, '.' ∉ inner.1.toList) ∧ ∀ inner ∈ entries, ¬ inner.2.IsSection := by
    simp [defaults, Value.IsSection, or_imp, forall_and]
  refine Config.dotless_of_isSome_get? (by decide) (fun entry member rest there => ?_) keys there
  obtain ⟨entries, same, keysDotless, leaves⟩ := sections entry member
  rw [same] at there
  exact Config.dotless_of_isSome_get? keysDotless
    (fun inner inside => Config.dotless_of_leaf (leaves inner inside)) rest there

/-- The built-in settings are addressed by dotted paths. -/
theorem covers_defaults_iff {config : Section} : Config.Covers config defaults ↔
    ∀ path, (Config.get? defaults (Config.path path)).isSome →
      (Config.get? config (Config.path path)).isSome ∨
        Config.IsBlocked config (Config.path path) := by
  constructor
  · exact fun covers path => covers (Config.path path)
  · intro covers keys there
    by_cases nonempty : keys = []
    · subst nonempty
      exact .inl rfl
    · have same := Config.path_intercalate nonempty (dotless_defaults keys there)
      have here := covers (".".intercalate keys)
      rw [same] at here
      exact here there

/-- A file that is read as a mapping is laid over the built-in settings. -/
theorem completes_load [Host] {file text : String} {entries : Section}
    (read : files.read file = .ok text) (parsed : Json.parse text = .ok (.mapping entries)) :
    Completes (load files file) before ⟨file, Config.merge defaults entries⟩ before := by
  have there := Files.has_of_read read
  simp [load, there, read, parsed, Except.toOption]

/-- Whatever settings are loaded from, they cover the built-in ones. -/
theorem ensures_load [Host] (files : Files) (file : String) :
    Ensures (fun settings => Config.Covers settings.config defaults)
      (load files file) := by
  have builtIn : Config.Covers defaults defaults := Config.covers_refl defaults
  unfold load
  split
  · exact ensures_bind fun _ => ensures_pure builtIn
  · split
    · next entries read =>
        obtain ⟨text, -, parsed⟩ := Option.map_eq_some_iff.mp read
        exact ensures_pure (Config.covers_merge (Json.hasDistinctKeys_of_parse parsed))
    · exact ensures_bind fun _ => ensures_pure builtIn
    · exact ensures_bind fun _ => ensures_pure builtIn
    · exact ensures_bind fun _ => ensures_pure builtIn
    · exact fun _ _ _ completes => absurd completes not_completes_throw

/-- Sets some values, one after the other. A value that cannot be set is passed over. -/
def setAll (settings : Settings) : List (String × Value) → Noted Fault Settings
  | [] => pure settings
  | (path, value) :: rest => do
      let (_, changed) ← settings.set path value
      setAll changed rest

/-- A value does not put a section into the place of a built-in one that it does not cover. -/
def KeepsDefaults (path : String) (value : Value) : Prop :=
  ∀ entries own, value = .mapping entries →
    Config.get? defaults (Config.path path) = some (.mapping own) → Config.Covers entries own

theorem completes_setAll_cons_of_ok {config : Section} {rest : List (String × Value)}
    (possible : Config.set? (Config.path path) start.config value = .ok config)
    (others : Completes ({ start with config }.setAll rest) before
      settings after) :
    Completes (start.setAll ((path, value) :: rest)) before settings after := by
  refine completes_bind.mpr ⟨(true, { start with config }), before, ?_, others⟩
  rw [Completes, outcome_set, possible]

theorem completes_setAll_cons_of_error {key : String} {rest : List (String × Value)}
    (refused : Config.set? (Config.path path) start.config value = .error key)
    (others : Completes (start.setAll rest) (before ++ [.notSection path key])
      settings after) :
    Completes (start.setAll ((path, value) :: rest)) before settings after := by
  refine completes_bind.mpr ⟨(false, start), before ++ [.notSection path key], ?_, others⟩
  rw [Completes, outcome_set, refused]

/-- Values are set one after the other, whether or not it is possible. What covers the built-in
settings goes on doing so. -/
theorem exists_completes_setAll (start : Settings) (calls : List (String × Value))
    (before : List Notice) : ∃ settings after,
      Completes (start.setAll calls) before settings after ∧
        (Config.Covers start.config defaults → (∀ call ∈ calls, KeepsDefaults call.1 call.2) →
          Config.Covers settings.config defaults) := by
  induction calls generalizing start before with
  | nil => exact ⟨start, before, completes_pure.mpr ⟨rfl, rfl⟩, fun covers _ => covers⟩
  | cons call rest ih =>
      obtain ⟨path, value⟩ := call
      rcases result : Config.set? (Config.path path) start.config value with key | config
      · obtain ⟨settings, after, others, keeps⟩ := ih start (before ++ [.notSection path key])
        refine ⟨settings, after, completes_setAll_cons_of_error result others, ?_⟩
        exact fun covers kept => keeps covers (List.forall_mem_cons.mp kept).2
      · obtain ⟨settings, after, others, keeps⟩ := ih { start with config } before
        refine ⟨settings, after, completes_setAll_cons_of_ok result others, fun covers kept => ?_⟩
        obtain ⟨keepsFirst, keepsOthers⟩ := List.forall_mem_cons.mp kept
        exact keeps (Config.covers_of_set? (Config.path_ne_nil path) result covers keepsFirst)
          keepsOthers

/-- If saving was possible the file has been written. -/
theorem writeDeep_of_completes_save [Host]
    (saved : Completes (settings.save files) before
      (true, written) after) :
    files.writeDeep settings.file settings.text = .ok written := by
  unfold save at saved
  rcases wrote : files.writeDeep settings.file settings.text with cause | result
  · rw [wrote] at saved
    cases saved
  · rw [wrote] at saved
    obtain ⟨_, _, -, saved⟩ := completes_bind.mp saved
    cases saved
    rfl

/-- **Settings that are saved and loaded again.** Setting values, possible or not, always ends. If
the settings are saved then and their text is read as what was written, they are loaded again
without a notice. Every setting that is no section has the value then that it had. All the settings
are as they were exactly if those that were saved cover the built-in ones, which show through
otherwise; and they do if no section was set in the place of a built-in one that it does not
cover. -/
theorem reloads [Host] (starts : start.config = defaults ∨ ∃ files before after,
      Completes (load files start.file) before start after)
    (calls : List (String × Value)) (before : List Notice) :
    ∃ settings after, Completes (start.setAll calls) before settings after ∧
      ∀ files written told noted,
        Completes (settings.save files) told (true, written) noted →
        Json.parse settings.text = .ok (.mapping settings.config) →
        ∀ log, ∃ reloaded,
          Completes (load written settings.file) log reloaded log ∧
          (∀ path value, settings.get? path = some value → ¬ value.IsSection →
            reloaded.get? path = some value) ∧
          ((∀ path, Option.Rel Value.IsSameAs (reloaded.get? path) (settings.get? path)) ↔
            Config.Covers settings.config defaults) ∧
          ((∀ call ∈ calls, KeepsDefaults call.1 call.2) →
            ∀ path, Option.Rel Value.IsSameAs (reloaded.get? path) (settings.get? path)) := by
  have startCovers : Config.Covers start.config defaults := by
    rcases starts with builtIn | ⟨files, before, after, loaded⟩
    · rw [builtIn]
      exact Config.covers_refl defaults
    · exact ensures_load files start.file before start after loaded
  obtain ⟨settings, after, set, keeps⟩ := exists_completes_setAll start calls before
  refine ⟨settings, after, set, fun files written told noted saved inverse log => ?_⟩
  have distinct := Json.hasDistinctKeys_of_parse inverse
  have read : written.read settings.file = .ok settings.text :=
    Files.read_of_writeDeep (writeDeep_of_completes_save saved)
  have same : (∀ path, Option.Rel Value.IsSameAs
      (Config.get? (Config.merge defaults settings.config) (Config.path path))
      (settings.get? path)) ↔ Config.Covers settings.config defaults := by
    constructor
    · intro same
      refine covers_defaults_iff.mpr fun path => ?_
      exact (Config.resembles_merge_iff distinct _).mp (Config.resembles_of_isSameAs (same path))
    · intro covers path
      refine Config.isSameAs_of_resembles (fun keys => ?_) (Config.path path)
      exact (Config.resembles_merge_iff distinct keys).mpr (covers keys)
  refine ⟨_, completes_load read inverse, ?_, same, fun kept => same.mpr (keeps startCovers kept)⟩
  intro path value found leaf
  exact ((Config.isLeaf_merge_iff distinct).mpr (.inl ⟨found, leaf⟩)).1

/-! ## A section that is replaced -/

/-- The built-in settings with another section for simulations. -/
def withSimulation (simulation : Section) : Settings :=
  ⟨"d.json", Entries.set defaults "simulation" (.mapping simulation)⟩

/-- A section that covers the built-in one, in another order and with more. -/
def wholeSimulation : Section :=
  [("default_timestep", .int 1), ("seed", .null), ("default_time", .int 2)]

open Host.Usual

theorem parse_withSimulation (simulation : Section)
    (known : simulation ∈ [[], wholeSimulation]) :
    Json.parse (withSimulation simulation).text =
      .ok (.mapping (withSimulation simulation).config) := by
  have config_eq : (withSimulation simulation).config = [("simulation", .mapping simulation),
      ("engine", .mapping [("max_algebraic_iterations", .int 50),
        ("unconverged_policy", .text "ignore")]),
      ("codegen", .mapping [("default_language", .text "python")]),
      ("logging", .mapping [("level", .text "INFO")])] := rfl
  rw [text, config_eq]
  simp only [List.mem_cons, List.not_mem_nil, or_false] at known
  rcases known with rfl | rfl
  -- The characters are found by rewriting: to decode them from the text itself takes long.
  all_goals
    apply Json.parse_of_toList
    case same =>
      simp only [wholeSimulation, Json.indented, Json.indentedAt, Json.indentedEntries,
        Json.leafText, Json.textLiteral, Json.breakLine, Value.quoted, Decimal.digitsOf,
        List.cons_append, String.toList_append, String.toList_ofList, String.intercalate_cons_cons,
        String.intercalate_singleton, apply_ite String.toList]
      rfl
    case read => decide +kernel

theorem completes_save_withSimulation (simulation : Section)
    (known : simulation ∈ [[], wholeSimulation]) :
    Completes ((withSimulation simulation).save Files.empty) []
      (true, .single "d.json" (withSimulation simulation).text) [] := by
  have unhindered : (Value.mapping (withSimulation simulation).config).obstacle?
      (Host.jsonTextDepth + 1) = none := by
    simp only [List.mem_cons, List.not_mem_nil, or_false] at known
    obtain rfl | rfl := known <;> decide +kernel
  have wrote : Files.empty.writeDeep (withSimulation simulation).file
      (withSimulation simulation).text =
        .ok (.single "d.json" (withSimulation simulation).text) :=
    Files.isPlain_json.writeDeep_empty _
  rw [save, wrote]
  dsimp only
  rw [Json.checkWritten, unhindered]
  rfl

theorem path_simulation : Config.path "simulation" = ["simulation"] := rfl

theorem path_defaultTime :
    Config.path "simulation.default_time" = ["simulation", "default_time"] := by decide +kernel

theorem path_seed : Config.path "simulation.seed" = ["simulation", "seed"] := by decide +kernel

/-- The settings of a simulation are replaced by a value, behind which no other can be set, and then
by a section that covers the built-in one. -/
theorem reloads_wholeSimulation :
    let start : Settings := ⟨"d.json", defaults⟩
    let calls : List (String × Value) := [("simulation", .int 1), ("simulation.seed", .int 2),
      ("simulation", .mapping wholeSimulation)]
    let settings := withSimulation wholeSimulation
    Completes (start.setAll calls) [] settings
        [.notSection "simulation.seed" "simulation"] ∧
      ∃ written, Completes (settings.save Files.empty) []
          (true, written) [] ∧
        ∃ reloaded, Completes (load written "d.json") [] reloaded [] ∧
          ∀ path, Option.Rel Value.IsSameAs (reloaded.get? path) (settings.get? path) := by
  intro start calls settings
  have set : Completes (start.setAll calls) [] settings
      [.notSection "simulation.seed" "simulation"] := by
    refine completes_setAll_cons_of_ok (by rw [path_simulation]; rfl) ?_
    refine completes_setAll_cons_of_error (by rw [path_seed]; rfl) ?_
    exact completes_setAll_cons_of_ok (by rw [path_simulation]; rfl) rfl
  have saved := completes_save_withSimulation wholeSimulation (by simp)
  have inverse := parse_withSimulation wholeSimulation (by simp)
  have keeps : ∀ call ∈ calls, KeepsDefaults call.1 call.2 := by
    have ofInt (path : String) (n : Int) : KeepsDefaults path (.int n) :=
      fun entries own same => by cases same
    refine List.forall_mem_cons.mpr ⟨ofInt _ 1, List.forall_mem_cons.mpr ⟨ofInt _ 2, ?_⟩⟩
    refine List.forall_mem_singleton.mpr fun entries own same found => ?_
    rw [path_simulation] at found
    cases same
    cases found
    exact Config.covers_of_leaves (by simp [wholeSimulation, Entries.get?, Value.IsSection])
  have starts : start.config = defaults ∨ ∃ files before after,
      Completes (load files start.file) before start after := .inl rfl
  obtain ⟨others, after, setOthers, reload⟩ := reloads starts calls []
  obtain ⟨rfl, rfl⟩ := setOthers.unique set
  obtain ⟨reloaded, loads, -, -, same⟩ := reload _ _ _ _ saved inverse []
  exact ⟨set, _, saved, reloaded, loads, same keeps⟩

/-- An empty section in the place of a built-in one is not loaded again as it was saved: what is
built in shows through. -/
theorem not_reloads_emptySimulation :
    let start : Settings := ⟨"d.json", defaults⟩
    let settings := withSimulation []
    Completes (start.setAll [("simulation", .mapping [])]) [] settings [] ∧
      ∃ written, Completes (settings.save Files.empty) []
          (true, written) [] ∧
        Json.parse settings.text = .ok (.mapping settings.config) ∧
        ∃ reloaded, Completes (load written "d.json") [] reloaded [] ∧
          settings.get? "simulation.default_time" = none ∧
          reloaded.get? "simulation.default_time" = some (.float 10.0) := by
  intro start settings
  have set : Completes (start.setAll [("simulation", .mapping [])]) []
      settings [] :=
    completes_setAll_cons_of_ok (by rw [path_simulation]; rfl) rfl
  have saved := completes_save_withSimulation [] (by simp)
  have inverse := parse_withSimulation [] (by simp)
  have read := Files.read_of_writeDeep (writeDeep_of_completes_save saved)
  refine ⟨set, _, saved, inverse, _, completes_load read inverse, ?_, ?_⟩
  · rw [get?, path_defaultTime]
    rfl
  · rw [get?, path_defaultTime]
    rfl

end Settings

end SignalFlow
