import SignalFlow.Value
import Mathlib.Data.List.Induction
import Mathlib.Data.List.Nodup
import Mathlib.Data.List.TakeWhile

/-! # Entries by their keys

What setting a key does to the values of a list of entries (`Entries.get?_set`) and to its keys
(`Entries.keys_set`). Since a known key keeps its place, no key comes to stand there twice. A list
of pairs becomes entries with the keys in the order in which they come first, each with the value
that it has last (`Entries.mem_front_iff`, `Entries.exists_split_of_get?`).
-/

namespace SignalFlow.Entries

variable {α : Type} {entries : List (String × α)} {key : String}

@[simp] theorem keys_nil : keys ([] : List (String × α)) = [] := rfl

@[simp] theorem keys_cons (entry : String × α) (rest : List (String × α)) :
    keys (entry :: rest) = entry.1 :: keys rest := rfl

@[simp] theorem keys_append (first rest : List (String × α)) :
    keys (first ++ rest) = keys first ++ keys rest := List.map_append

@[simp] theorem keys_map {β : Type} (change : α → β) (entries : List (String × α)) :
    keys (entries.map fun entry => (entry.1, change entry.2)) = keys entries := by
  simp [keys]

theorem has_iff : has entries key = true ↔ key ∈ keys entries := by
  simp [has, keys]

theorem get?_cons (entry : String × α) (rest : List (String × α)) (key : String) :
    get? (entry :: rest) key = if entry.1 = key then some entry.2 else get? rest key := by
  by_cases same : entry.1 = key <;> simp [get?, same]

/-- A key has a value if it is there. -/
theorem isSome_get?_iff : (get? entries key).isSome ↔ key ∈ keys entries := by
  rw [get?, Option.isSome_map, List.find?_isSome, keys]
  simp

theorem get?_eq_none_iff : get? entries key = none ↔ key ∉ keys entries := by
  rw [← isSome_get?_iff, Option.not_isSome_iff_eq_none]

theorem has_eq_isSome (entries : List (String × α)) (key : String) :
    has entries key = (get? entries key).isSome := by
  rw [Bool.eq_iff_iff, has_iff, isSome_get?_iff]

/-- The value of a key is set to what it is. -/
theorem set_eq_self {value : α} (found : get? entries key = some value) :
    set entries key value = entries := by
  induction entries with
  | nil => cases found
  | cons entry rest ih =>
      rw [get?_cons] at found
      unfold set
      by_cases own : entry.1 = key
      · rw [if_pos own, Option.some.injEq] at found
        rw [if_pos (beq_iff_eq.mpr own), ← found]
      · rw [if_neg own] at found
        rw [if_neg (mt beq_iff_eq.mp own), ih found]

theorem get?_set (entries : List (String × α)) (key : String) (value : α) (other : String) :
    get? (set entries key value) other =
      if key = other then some value else get? entries other := by
  induction entries with
  | nil => rw [set, get?_cons]
  | cons entry rest ih =>
      unfold set
      split
      · rename_i same
        obtain rfl := beq_iff_eq.mp same
        rw [get?_cons, get?_cons]
        split <;> rfl
      · rename_i apart
        rw [beq_iff_eq] at apart
        rw [get?_cons, ih, get?_cons]
        by_cases own : entry.1 = other
        · rw [if_pos own, if_pos own, if_neg fun same => apart (own.trans same.symm)]
        · rw [if_neg own, if_neg own]

/-- Of two values that are set under one key, one after the other, the second one is kept. -/
theorem set_set (entries : List (String × α)) (key : String) (first second : α) :
    set (set entries key first) key second = set entries key second := by
  induction entries with
  | nil => simp [set]
  | cons entry rest ih =>
      by_cases own : (entry.1 == key) = true
      · simp [set, own]
      · simp [set, own, ih]

theorem set_of_not_mem (unknown : key ∉ keys entries) (value : α) :
    set entries key value = entries ++ [(key, value)] := by
  induction entries with
  | nil => rfl
  | cons entry rest ih =>
      rw [keys_cons, List.mem_cons, not_or] at unknown
      rw [set, if_neg (by simpa using Ne.symm unknown.1), ih unknown.2, List.cons_append]

/-- A known key keeps its place, and a new one comes last. -/
theorem keys_set (entries : List (String × α)) (key : String) (value : α) :
    keys (set entries key value) =
      if key ∈ keys entries then keys entries else keys entries ++ [key] := by
  induction entries with
  | nil => rfl
  | cons entry rest ih =>
      unfold set
      split
      · rename_i same
        obtain rfl := beq_iff_eq.mp same
        simp
      · rename_i apart
        rw [beq_iff_eq] at apart
        have inRest : key ∈ keys (entry :: rest) ↔ key ∈ keys rest := by
          rw [keys_cons, List.mem_cons, or_iff_right (Ne.symm apart)]
        rw [keys_cons, ih]
        simp only [inRest]
        split <;> rfl

theorem mem_keys_set {value : α} {other : String} :
    other ∈ keys (set entries key value) ↔ other = key ∨ other ∈ keys entries := by
  rw [keys_set]
  split
  · rename_i known
    exact ⟨.inr, fun own => own.elim (fun same => same ▸ known) id⟩
  · rw [List.mem_append, List.mem_singleton, or_comm]

/-- No key comes to stand twice. -/
theorem nodup_keys_set (nodup : (keys entries).Nodup) (key : String) (value : α) :
    (keys (set entries key value)).Nodup := by
  rw [keys_set]
  split
  · exact nodup
  · rename_i unknown
    rw [List.nodup_append]
    refine ⟨nodup, by simp, fun other known last own same => unknown ?_⟩
    rwa [← List.mem_singleton.mp own, ← same]

/-! ## Entries from pairs -/

variable {pairs : List (String × α)} {value : α}

theorem ofPairs_concat (pairs : List (String × α)) (key : String) (value : α) :
    ofPairs (pairs ++ [(key, value)]) = set (ofPairs pairs) key value := by
  rw [ofPairs, List.foldl_append]
  rfl

theorem map_set {β : Type} (change : α → β) (entries : List (String × α)) (key : String)
    (value : α) : (set entries key value).map (fun entry => (entry.1, change entry.2)) =
      set (entries.map fun entry => (entry.1, change entry.2)) key (change value) := by
  induction entries with
  | nil => rfl
  | cons entry rest ih =>
      rw [List.map_cons]
      unfold set
      split
      · rfl
      · rw [List.map_cons, ih]

/-- Values may be changed before or after. -/
theorem map_ofPairs {β : Type} (change : α → β) (pairs : List (String × α)) :
    (ofPairs pairs).map (fun entry => (entry.1, change entry.2)) =
      ofPairs (pairs.map fun entry => (entry.1, change entry.2)) := by
  induction pairs using List.reverseRecOn with
  | nil => rfl
  | append_singleton pairs pair ih =>
      rw [ofPairs_concat, map_set, ih, List.map_append, List.map_singleton, ofPairs_concat]

theorem mem_keys_ofPairs : key ∈ keys (ofPairs pairs) ↔ key ∈ keys pairs := by
  induction pairs using List.reverseRecOn with
  | nil => rfl
  | append_singleton pairs pair ih =>
      rw [ofPairs_concat, mem_keys_set, ih, keys_append, List.mem_append, or_comm]
      exact or_congr_right List.mem_singleton.symm

theorem nodup_keys_ofPairs (pairs : List (String × α)) : (keys (ofPairs pairs)).Nodup := by
  induction pairs using List.reverseRecOn with
  | nil => exact List.nodup_nil
  | append_singleton pairs pair ih =>
      rw [ofPairs_concat]
      exact nodup_keys_set ih pair.1 pair.2

/-- Pairs with different keys are entries as they are. -/
theorem ofPairs_of_nodup (nodup : (keys pairs).Nodup) : ofPairs pairs = pairs := by
  induction pairs using List.reverseRecOn with
  | nil => rfl
  | append_singleton pairs pair ih =>
      rw [keys_append, List.nodup_append] at nodup
      obtain ⟨others, -, apart⟩ := nodup
      have unknown : pair.1 ∉ keys pairs := fun known =>
        apart _ known _ (List.mem_singleton_self _) rfl
      rw [ofPairs_concat, ih others, set_of_not_mem unknown]

/-- More pairs bring new keys behind the known ones. -/
theorem exists_keys_ofPairs_append (first rest : List (String × α)) :
    ∃ added, keys (ofPairs (first ++ rest)) = keys (ofPairs first) ++ added := by
  induction rest using List.reverseRecOn with
  | nil => exact ⟨[], by simp⟩
  | append_singleton rest pair ih =>
      obtain ⟨added, same⟩ := ih
      rw [← List.append_assoc, ofPairs_concat, keys_set, same]
      split
      · exact ⟨added, rfl⟩
      · exact ⟨added ++ [pair.1], List.append_assoc ..⟩

theorem get?_ofPairs_concat (pairs : List (String × α)) (key : String) (value : α)
    (other : String) : get? (ofPairs (pairs ++ [(key, value)])) other =
      if key = other then some value else get? (ofPairs pairs) other := by
  rw [ofPairs_concat, get?_set]

/-- The value of a key comes from its last pair. -/
theorem exists_split_of_get? (found : get? (ofPairs pairs) key = some value) :
    ∃ above below, pairs = above ++ (key, value) :: below ∧ key ∉ keys below := by
  induction pairs using List.reverseRecOn with
  | nil => cases found
  | append_singleton pairs pair ih =>
      rw [get?_ofPairs_concat] at found
      split at found
      · rename_i own
        cases found
        exact ⟨pairs, [], by rw [← own], List.not_mem_nil⟩
      · rename_i other
        obtain ⟨above, below, rfl, last⟩ := ih found
        refine ⟨above, below ++ [pair], by simp, ?_⟩
        rw [keys_append, List.mem_append, not_or]
        exact ⟨last, fun same => other (List.mem_singleton.mp same).symm⟩

/-- The last pair of a key gives its value. -/
theorem get?_ofPairs_of_last (above : List (String × α)) {below : List (String × α)}
    (last : key ∉ keys below) :
    get? (ofPairs (above ++ (key, value) :: below)) key = some value := by
  induction below using List.reverseRecOn with
  | nil => rw [get?_ofPairs_concat, if_pos rfl]
  | append_singleton below pair ih =>
      rw [keys_append, List.mem_append, not_or] at last
      rw [← List.cons_append, ← List.append_assoc, get?_ofPairs_concat, if_neg, ih last.1]
      exact fun same => last.2 (List.mem_singleton.mpr same.symm)

theorem mem_of_get?_eq_some (found : get? entries key = some value) : (key, value) ∈ entries := by
  obtain ⟨entry, first, rfl⟩ := Option.map_eq_some_iff.mp found
  obtain rfl : entry.1 = key := by simpa using List.find?_some first
  exact List.mem_of_find?_eq_some first

theorem get?_eq_some_of_mem (nodup : (keys entries).Nodup) (member : (key, value) ∈ entries) :
    get? entries key = some value := by
  induction entries with
  | nil => cases member
  | cons entry rest ih =>
      rw [keys_cons, List.nodup_cons] at nodup
      rw [get?_cons]
      rcases List.mem_cons.mp member with rfl | inRest
      · rw [if_pos rfl]
      · rw [if_neg, ih nodup.2 inRest]
        rintro rfl
        exact nodup.1 (List.mem_map.mpr ⟨_, inRest, rfl⟩)

/-- An entry made for each of some names is there. -/
theorem get?_map_of_mem (change : String → α) {names : List String} (member : key ∈ names) :
    get? (names.map fun name => (name, change name)) key = some (change key) := by
  induction names with
  | nil => cases member
  | cons name rest ih =>
      rw [List.map_cons, get?_cons]
      split
      · rename_i same
        rw [← same]
      · rename_i other
        exact ih ((List.mem_cons.mp member).resolve_left fun same => other same.symm)

/-- Entries are determined by their keys, in order, and the value of each. -/
theorem ext_of_nodup {first second : List (String × α)} (keys_eq : keys first = keys second)
    (nodup : (keys second).Nodup)
    (values : ∀ key value, (key, value) ∈ second → get? first key = some value) :
    first = second := by
  induction second generalizing first with
  | nil => exact List.map_eq_nil_iff.mp keys_eq
  | cons entry rest ih =>
      obtain ⟨own, others, rfl⟩ := List.exists_cons_of_ne_nil (l := first)
        (fun empty => by simp [empty] at keys_eq)
      rw [keys_cons, keys_cons, List.cons.injEq] at keys_eq
      rw [keys_cons, List.nodup_cons] at nodup
      have same := values entry.1 entry.2 List.mem_cons_self
      rw [get?_cons, if_pos keys_eq.1, Option.some.injEq] at same
      congr 1
      · exact Prod.ext keys_eq.1 same
      · refine ih keys_eq.2 nodup.2 fun key value member => ?_
        have found := values key value (List.mem_cons_of_mem _ member)
        rwa [get?_cons, if_neg] at found
        rintro rfl
        rw [keys_eq.1] at member
        exact nodup.1 (List.mem_map.mpr ⟨_, member, rfl⟩)

theorem not_mem_keys_takeWhile (pairs : List (String × α)) (key : String) :
    key ∉ keys (pairs.takeWhile (·.1 ≠ key)) := by
  intro member
  obtain ⟨pair, inside, own⟩ := List.mem_map.mp member
  have other := List.mem_takeWhile_imp inside
  simp [own] at other

/-- What comes before the first pair with a key comes before each one. -/
theorem mem_keys_above {above below : List (String × α)} {other : String}
    (before : other ∈ keys ((above ++ (key, value) :: below).takeWhile (·.1 ≠ key))) :
    other ∈ keys above := by
  induction above with
  | nil => simp [keys] at before
  | cons pair above ih =>
      rw [List.cons_append, List.takeWhile_cons] at before
      split at before
      · rw [keys_cons, List.mem_cons] at before ⊢
        exact before.imp_right ih
      · cases before

/-- The pairs before the first one with a key. -/
theorem exists_first_pair (known : key ∈ keys pairs) :
    ∃ first rest, pairs.takeWhile (·.1 ≠ key) ++ (key, first) :: rest = pairs := by
  have all := pairs.takeWhile_append_dropWhile (p := (·.1 ≠ key))
  cases behind : pairs.dropWhile (·.1 ≠ key) with
  | nil =>
      rw [behind, List.append_nil] at all
      rw [← all] at known
      exact absurd known (not_mem_keys_takeWhile pairs key)
  | cons pair rest =>
      have own := List.head?_dropWhile_not (fun pair : String × α => pair.1 ≠ key) pairs
      rw [behind] at own all
      obtain rfl : pair.1 = key := by simpa using own
      exact ⟨pair.2, rest, all⟩

/-- Before the entry of a key stand the keys that come before its first pair. -/
theorem mem_front_iff {front back : List (String × α)}
    (split : ofPairs pairs = front ++ (key, value) :: back) {other : String} :
    other ∈ keys front ↔ other ∈ keys (pairs.takeWhile (·.1 ≠ key)) := by
  have nodup := nodup_keys_ofPairs pairs
  have known : key ∈ keys pairs := by
    rw [← mem_keys_ofPairs, split]
    simp
  obtain ⟨first, rest, parted⟩ := exists_first_pair known
  have unknown := mem_keys_ofPairs.not.mpr (not_mem_keys_takeWhile pairs key)
  generalize pairs.takeWhile (·.1 ≠ key) = before at parted unknown ⊢
  obtain ⟨added, same⟩ := exists_keys_ofPairs_append (before ++ [(key, first)]) rest
  rw [List.append_assoc, List.singleton_append, parted, ofPairs_concat, keys_set, if_neg unknown,
    split, List.append_assoc, List.singleton_append, keys_append, keys_cons] at same
  rw [split, keys_append, keys_cons, List.nodup_middle, List.nodup_cons, List.mem_append,
    not_or] at nodup
  rw [((List.append_cons_inj_of_notMem nodup.1.1 nodup.1.2).mp same).1, mem_keys_ofPairs]

/-! ## Properties of all values -/

variable {property : α → Prop}

/-- All the values of some entries have a property. -/
def All (property : α → Prop) (entries : List (String × α)) : Prop :=
  ∀ entry ∈ entries, property entry.2

theorem All.set (all : All property entries) (key : String) (holds : property value) :
    All property (set entries key value) := by
  induction entries with
  | nil => simpa [All, Entries.set] using holds
  | cons entry rest ih =>
      obtain ⟨first, others⟩ := List.forall_mem_cons.mp all
      unfold Entries.set
      split
      · exact List.forall_mem_cons.mpr ⟨holds, others⟩
      · exact List.forall_mem_cons.mpr ⟨first, ih others⟩

theorem All.update (all : All property entries) (added : All property pairs) :
    All property (update entries pairs) := by
  unfold Entries.update
  induction pairs generalizing entries with
  | nil => exact all
  | cons pair rest ih =>
      obtain ⟨first, others⟩ := List.forall_mem_cons.mp added
      exact ih (all.set pair.1 first) others

theorem All.ofPairs (added : All property pairs) : All property (ofPairs pairs) :=
  All.update (fun _ member => absurd member List.not_mem_nil) added

end SignalFlow.Entries
