import SignalFlow.Proofs.Config.Paths

/-! # Configurations laid over one another

What a path finds in a configuration that is laid over another (`Config.finds_merge`): what it finds
in the upper one, if there is anything; nothing, if it leads on through a leaf of the upper one; and
otherwise what it finds in the lower one. So the leaves of the result are those of the upper
configuration and those of the lower one that are neither replaced nor cut off, and the upper
configuration can be laid over the result again without effect (`Config.merge_layers`).

In the upper configuration each key has to stand once in its section; if one stood twice, the second
value would be laid over the first.
-/

namespace SignalFlow

/-- In a section, and in the sections below it, each key stands once. -/
inductive Value.HasDistinctKeys : Value → Prop
  | mapping {entries : Section} (nodup : (Entries.keys entries).Nodup)
      (below : ∀ entry ∈ entries, HasDistinctKeys entry.2) : HasDistinctKeys (.mapping entries)
  | leaf {value : Value} (leaf : ¬ value.IsSection) : HasDistinctKeys value

theorem Value.HasDistinctKeys.entries {entries : Section}
    (distinct : Value.HasDistinctKeys (.mapping entries)) :
    (Entries.keys entries).Nodup ∧ ∀ entry ∈ entries, Value.HasDistinctKeys entry.2 := by
  cases distinct with
  | mapping nodup below => exact ⟨nodup, below⟩
  | leaf leaf => exact absurd ⟨entries, rfl⟩ leaf

/-- Two values are the same, or both of them are sections. -/
def Value.Resembles (first second : Value) : Prop :=
  first = second ∨ first.IsSection ∧ second.IsSection

/-- Values that resemble one another are the same leaf or none. -/
theorem Value.Resembles.eq_iff {first second leaf : Value} (resembles : first.Resembles second)
    (isLeaf : ¬ leaf.IsSection) : first = leaf ↔ second = leaf := by
  rcases resembles with rfl | ⟨firstSection, secondSection⟩
  · rfl
  · refine iff_of_false ?_ ?_
    · rintro rfl
      exact isLeaf firstSection
    · rintro rfl
      exact isLeaf secondSection

namespace Config

/-- A path leads to a value that is no section. -/
def IsLeaf (config : Section) (keys : List String) (value : Value) : Prop :=
  get? config keys = some value ∧ ¬ value.IsSection

/-- A path leads on through a leaf, so that it finds nothing. -/
def IsBlocked (config : Section) (keys : List String) : Prop :=
  ∃ front rest leaf, keys = front ++ rest ∧ rest ≠ [] ∧ IsLeaf config front leaf

variable {base override : Section} {keys : List String} {key : String} {value : Value}

/-! ## One step of a path -/

theorem not_isLeaf_nil : ¬ IsLeaf base [] value := by
  rintro ⟨found, leaf⟩
  cases found
  exact leaf ⟨base, rfl⟩

theorem not_isBlocked_nil : ¬ IsBlocked base [] := by
  rintro ⟨front, rest, leaf, split, nonempty, -⟩
  exact nonempty (List.append_eq_nil_iff.mp split.symm).2

/-- Where there is nothing a path ends. -/
theorem get?_cons_of_none (absent : Entries.get? base key = none) (rest : List String) :
    get? base (key :: rest) = none := by
  rw [get?_cons, absent]
  rfl

/-- A path goes on in the section under its first key. -/
theorem get?_cons_of_mapping {inner : Section}
    (present : Entries.get? base key = some (.mapping inner)) (rest : List String) :
    get? base (key :: rest) = get? inner rest := by
  rw [get?_cons, present]
  rfl

/-- A path ends at a leaf. -/
theorem get?_cons_of_leaf (present : Entries.get? base key = some value)
    (leaf : ¬ value.IsSection) (rest : List String) :
    get? base (key :: rest) = if rest = [] then some value else none := by
  rw [get?_cons, present]
  cases rest with
  | nil => rfl
  | cons next rest =>
      cases value with
      | mapping entries => exact absurd ⟨entries, rfl⟩ leaf
      | _ => rfl

theorem not_isBlocked_cons_of_none (absent : Entries.get? base key = none) (rest : List String) :
    ¬ IsBlocked base (key :: rest) := by
  rintro ⟨front, others, leaf, split, -, isLeaf⟩
  cases front with
  | nil => exact not_isLeaf_nil isLeaf
  | cons first front =>
      obtain ⟨rfl, -⟩ := List.cons.inj split
      rw [IsLeaf, get?_cons_of_none absent] at isLeaf
      cases isLeaf.1

theorem isBlocked_cons_of_mapping {inner : Section}
    (present : Entries.get? base key = some (.mapping inner)) (rest : List String) :
    IsBlocked base (key :: rest) ↔ IsBlocked inner rest := by
  constructor
  · rintro ⟨front, others, leaf, split, nonempty, isLeaf⟩
    cases front with
    | nil => exact absurd isLeaf not_isLeaf_nil
    | cons first front =>
        obtain ⟨rfl, rfl⟩ := List.cons.inj split
        rw [IsLeaf, get?_cons_of_mapping present] at isLeaf
        exact ⟨front, others, leaf, rfl, nonempty, isLeaf⟩
  · rintro ⟨front, others, leaf, rfl, nonempty, isLeaf⟩
    refine ⟨key :: front, others, leaf, rfl, nonempty, ?_⟩
    rw [IsLeaf, get?_cons_of_mapping present]
    exact isLeaf

theorem isBlocked_cons_of_leaf (present : Entries.get? base key = some value)
    (leaf : ¬ value.IsSection) {rest : List String} (nonempty : rest ≠ []) :
    IsBlocked base (key :: rest) := by
  refine ⟨[key], rest, value, rfl, nonempty, ?_, leaf⟩
  rw [get?_cons_of_leaf present leaf, if_pos rfl]

/-! ## Laying one section over another -/

theorem layer_of_not_isSection (below : Option Value) (leaf : ¬ value.IsSection) :
    layer below value = value := by
  cases value with
  | mapping entries => exact absurd ⟨entries, rfl⟩ leaf
  | _ => rfl

@[simp] theorem layer_none (value : Value) : layer none value = value := by
  cases value <;> rfl

/-- A section over which keys that it does not have are laid. -/
theorem merge_of_disjoint (nodup : (Entries.keys (base ++ override)).Nodup) :
    merge base override = base ++ override := by
  induction override generalizing base with
  | nil => rw [merge, List.append_nil]
  | cons entry rest ih =>
      have unknown : entry.1 ∉ Entries.keys base := by
        rw [Entries.keys_append] at nodup
        exact fun member => List.disjoint_of_nodup_append nodup member List.mem_cons_self
      rw [← List.singleton_append, ← List.append_assoc] at nodup ⊢
      rw [List.singleton_append, merge, Entries.get?_eq_none_iff.mpr unknown, layer_none,
        Entries.set_of_not_mem unknown, ih nodup]

/-- The section that another one is laid over: a new one where there is no section. -/
def sectionOf : Option Value → Section
  | some (.mapping entries) => entries
  | _ => []

theorem layer_mapping (below : Option Value) {entries : Section}
    (nodup : (Entries.keys entries).Nodup) :
    layer below (.mapping entries) = .mapping (merge (sectionOf below) entries) := by
  have alone : merge [] entries = entries := merge_of_disjoint nodup
  rcases below with _ | below
  · exact congrArg Value.mapping alone.symm
  · cases below with
    | mapping inner => rfl
    | _ => exact congrArg Value.mapping alone.symm

/-- What a path finds below its first key it finds in the section there. -/
theorem get?_cons_of_ne_nil (base : Section) (key : String) {rest : List String}
    (nonempty : rest ≠ []) :
    get? base (key :: rest) = get? (sectionOf (Entries.get? base key)) rest := by
  have nothing : get? [] rest = none := get?_nil_of_ne_nil nonempty
  rcases present : Entries.get? base key with _ | value
  · exact (get?_cons_of_none present rest).trans nothing.symm
  · cases value with
    | mapping inner => exact get?_cons_of_mapping present rest
    | _ =>
        rw [get?_cons_of_leaf present (by rintro ⟨_, ⟨⟩⟩), if_neg nonempty]
        exact nothing.symm

theorem get?_merge_of_not_mem (base : Section) (absent : key ∉ Entries.keys override) :
    Entries.get? (merge base override) key = Entries.get? base key := by
  induction override generalizing base with
  | nil => rfl
  | cons entry rest ih =>
      rw [Entries.keys_cons, List.mem_cons, not_or] at absent
      rw [merge, ih _ absent.2, Entries.get?_set, if_neg (Ne.symm absent.1)]

/-- Under a key of the upper section its value comes to lie over what is there. -/
theorem get?_merge_of_mem (base : Section) (nodup : (Entries.keys override).Nodup)
    (member : (key, value) ∈ override) :
    Entries.get? (merge base override) key = some (layer (Entries.get? base key) value) := by
  induction override generalizing base with
  | nil => cases member
  | cons entry rest ih =>
      rw [Entries.keys_cons, List.nodup_cons] at nodup
      rw [merge]
      rcases List.mem_cons.mp member with rfl | later
      · rw [get?_merge_of_not_mem _ nodup.1, Entries.get?_set, if_pos rfl]
      · have other : entry.1 ≠ key := by
          rintro rfl
          exact nodup.1 (List.mem_map.mpr ⟨_, later, rfl⟩)
        rw [ih _ nodup.2 later, Entries.get?_set, if_neg other]

/-! ## What a path finds -/

theorem get?_of_isBlocked (blocked : IsBlocked base keys) : get? base keys = none := by
  induction keys generalizing base with
  | nil => exact absurd blocked not_isBlocked_nil
  | cons key rest ih =>
      rcases present : Entries.get? base key with _ | value
      · exact get?_cons_of_none present rest
      · by_cases isSection : value.IsSection
        · obtain ⟨inner, rfl⟩ := isSection
          rw [get?_cons_of_mapping present]
          exact ih ((isBlocked_cons_of_mapping present rest).mp blocked)
        · rw [get?_cons_of_leaf present isSection, if_neg]
          rintro rfl
          obtain ⟨front, others, leaf, split, nonempty, isLeaf⟩ := blocked
          cases front with
          | nil => exact not_isLeaf_nil isLeaf
          | cons first front => simp_all

/-- What a path finds in a configuration that lies over another one. -/
inductive Finds (base override result : Section) (keys : List String) : Prop
  /-- The path finds something in the upper configuration. -/
  | above {value found : Value} (upper : get? override keys = some value)
      (finds : get? result keys = some found) (resembles : found.Resembles value)
  /-- The path is cut off by a leaf of the upper configuration. -/
  | blocked (blocked : IsBlocked override keys) (finds : get? result keys = none)
  /-- The upper configuration has nothing to say about the path. -/
  | below (upper : get? override keys = none) (free : ¬ IsBlocked override keys)
      (finds : get? result keys = get? base keys)

/-- **What a path finds where one configuration is laid over another.** -/
theorem finds_merge (base : Section) (distinct : Value.HasDistinctKeys (.mapping override))
    (keys : List String) : Finds base override (merge base override) keys := by
  induction keys generalizing base override with
  | nil => exact .above rfl rfl (.inr ⟨⟨_, rfl⟩, ⟨_, rfl⟩⟩)
  | cons key rest ih =>
      obtain ⟨nodup, distinctBelow⟩ := distinct.entries
      rcases upper : Entries.get? override key with _ | value
      · have same := get?_merge_of_not_mem base (Entries.get?_eq_none_iff.mp upper)
        refine .below (get?_cons_of_none upper rest) (not_isBlocked_cons_of_none upper rest) ?_
        rw [get?_cons, same, get?_cons]
      · have member : (key, value) ∈ override := Entries.mem_of_get?_eq_some upper
        have merged := get?_merge_of_mem base nodup member
        by_cases isSection : value.IsSection
        · obtain ⟨entries, rfl⟩ := isSection
          have distinct := distinctBelow _ member
          rw [layer_mapping _ distinct.entries.1] at merged
          have goesOn := get?_cons_of_mapping merged rest
          have upperGoesOn := get?_cons_of_mapping upper rest
          by_cases last : rest = []
          · subst last
            exact .above upperGoesOn goesOn (.inr ⟨⟨_, rfl⟩, ⟨_, rfl⟩⟩)
          · cases ih (sectionOf (Entries.get? base key)) distinct with
            | above found finds resembles =>
                exact .above (upperGoesOn.trans found) (goesOn.trans finds) resembles
            | blocked blocked finds =>
                exact .blocked ((isBlocked_cons_of_mapping upper rest).mpr blocked)
                  (goesOn.trans finds)
            | below absent free finds =>
                refine .below (upperGoesOn.trans absent)
                  (mt (isBlocked_cons_of_mapping upper rest).mp free) ?_
                rw [goesOn, finds, get?_cons_of_ne_nil base key last]
        · rw [layer_of_not_isSection _ isSection] at merged
          have ends := get?_cons_of_leaf merged isSection rest
          by_cases last : rest = []
          · rw [if_pos last] at ends
            refine .above ?_ ends (.inl rfl)
            rw [get?_cons_of_leaf upper isSection, if_pos last]
          · rw [if_neg last] at ends
            exact .blocked (isBlocked_cons_of_leaf upper isSection last) ends

/-- The leaves of a configuration that lies over another one. -/
theorem isLeaf_merge_iff (distinct : Value.HasDistinctKeys (.mapping override)) :
    IsLeaf (merge base override) keys value ↔
      IsLeaf override keys value ∨
        IsLeaf base keys value ∧ get? override keys = none ∧ ¬ IsBlocked override keys := by
  unfold IsLeaf
  cases finds_merge base distinct keys with
  | above upper finds resembles =>
      rw [finds, upper]
      simp only [reduceCtorEq, false_and, and_false, or_false, Option.some.injEq]
      exact and_congr_left resembles.eq_iff
  | blocked blocked finds =>
      rw [finds, get?_of_isBlocked blocked]
      simp [blocked]
  | below upper free finds =>
      rw [finds, upper]
      simp [free]

/-! ## Laying it over again -/

/-- Values that are there already change nothing. -/
theorem merge_eq_self (settled : ∀ entry ∈ override, ∃ held,
    Entries.get? base entry.1 = some held ∧ layer (some held) entry.2 = held) :
    merge base override = base := by
  induction override with
  | nil => rw [merge]
  | cons entry rest ih =>
      obtain ⟨⟨held, found, same⟩, others⟩ := List.forall_mem_cons.mp settled
      rw [merge, found, same, Entries.set_eq_self found, ih others]

/-- A value that has been laid over another one can be laid over the result without effect. -/
theorem layer_layer (distinct : value.HasDistinctKeys) (below : Option Value) :
    layer (some (layer below value)) value = layer below value := by
  induction distinct generalizing below with
  | leaf leaf => rw [layer_of_not_isSection _ leaf, layer_of_not_isSection _ leaf]
  | @mapping entries nodup _ ih =>
      have again : merge (merge (sectionOf below) entries) entries =
          merge (sectionOf below) entries := by
        refine merge_eq_self fun entry member => ?_
        exact ⟨_, get?_merge_of_mem _ nodup member, ih entry member _⟩
      rw [layer_mapping below nodup, layer_mapping _ nodup, sectionOf, again]

/-- **The leaves of a configuration that is laid over another** are those of the upper one, and
those of the lower one at paths at which the upper one has no value and which it does not cut off
with a leaf. Laying it over once more changes nothing. -/
theorem merge_layers (base : Section) (distinct : Value.HasDistinctKeys (.mapping override)) :
    (∀ keys leaf, IsLeaf (merge base override) keys leaf ↔
      IsLeaf override keys leaf ∨
        IsLeaf base keys leaf ∧ get? override keys = none ∧ ¬ IsBlocked override keys) ∧
    merge (merge base override) override = merge base override :=
  ⟨fun _ _ => isLeaf_merge_iff distinct,
    Value.mapping.inj (layer_layer distinct (some (.mapping base)))⟩

/-- A section over a leaf, a leaf over a section, an empty section and a section over a section. -/
theorem merge_layers_clashing :
    let base : Section :=
      [("a", .int 1), ("b", .mapping [("x", .int 2)]), ("c", .mapping [("x", .int 3)]),
        ("d", .mapping [("x", .int 4), ("y", .int 5)])]
    let override : Section :=
      [("a", .mapping [("x", .int 6)]), ("b", .int 7), ("c", .mapping []),
        ("d", .mapping [("x", .null), ("z", .int 8)])]
    Value.HasDistinctKeys (.mapping override) ∧
      merge base override =
        [("a", .mapping [("x", .int 6)]), ("b", .int 7), ("c", .mapping [("x", .int 3)]),
          ("d", .mapping [("x", .null), ("y", .int 5), ("z", .int 8)])] ∧
      (∀ keys leaf, IsLeaf (merge base override) keys leaf ↔
        IsLeaf override keys leaf ∨
          IsLeaf base keys leaf ∧ get? override keys = none ∧ ¬ IsBlocked override keys) ∧
      merge (merge base override) override = merge base override := by
  intro base override
  have flat {entries : Section} (nodup : (Entries.keys entries).Nodup)
      (leaves : ∀ entry ∈ entries, ¬ entry.2.IsSection) :
      Value.HasDistinctKeys (.mapping entries) :=
    .mapping nodup fun entry member => .leaf (leaves entry member)
  have distinct : Value.HasDistinctKeys (.mapping override) := by
    refine .mapping (by decide) ?_
    simp only [override, List.forall_mem_cons]
    refine ⟨flat ?_ ?_, .leaf ?_, flat ?_ ?_, flat ?_ ?_, ?_⟩ <;>
      simp [Entries.keys, Value.IsSection]
  exact ⟨distinct, rfl, merge_layers base distinct⟩

end Config

end SignalFlow
