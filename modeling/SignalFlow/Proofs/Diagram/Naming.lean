import SignalFlow.Diagram.Read
import SignalFlow.Proofs.Completion
import SignalFlow.Proofs.Diagram.FreshIds

/-! # Naming blocks

The entries of a file are added to a diagram one after the other. An entry is added under its own id
or under a fresh one (`IsNamed`), and that is always possible, so that adding entries breaks off
only where no text can be made of a type (`exists_completes_addEntries`). Of the ids that come of it
(`Names`), the first entry with an own id keeps it, and all the others get ids that no entry brings
along.
-/

namespace SignalFlow

namespace Diagram

/-- An id under which an entry can be added to blocks whose ids are taken: its own one if that is
free, else one that is neither taken nor reserved. -/
inductive IsNamed (reserved taken : List String) : Option String → String → Prop
  | own {id : String} (free : id ∉ taken) : IsNamed reserved taken (some id) id
  | fresh {own : Option String} {number : Nat} (repeated : ∀ id, own = some id → id ∈ taken)
      (unreserved : numbered "b" number ∉ reserved) (free : numbered "b" number ∉ taken) :
      IsNamed reserved taken own (numbered "b" number)

theorem IsNamed.not_mem {reserved taken : List String} {own : Option String} {id : String}
    (named : IsNamed reserved taken own id) : id ∉ taken := by
  cases named with
  | own free => exact free
  | fresh _ _ free => exact free

/-! ## Adding entries -/

section Adding

variable {diagram : Diagram String} {block : Block String} {id : String}

/-- A diagram with one more block. -/
def withBlock (diagram : Diagram String) (block : Block String) : Diagram String :=
  { diagram with blocks := diagram.blocks ++ [block] }

theorem ids_withBlock : (diagram.withBlock block).ids = diagram.ids ++ [block.id] := by
  simp [withBlock, ids]

theorem addBlock_of_not_mem (free : id ∉ diagram.ids) (idText : String → Except Fault String)
    (type : String) (params : List (String × Value)) :
    diagram.addBlock idText ⟨id, type, params⟩ = .ok (diagram.withBlock ⟨id, type, params⟩) := by
  rw [addBlock, if_neg (by rwa [block?_isSome_iff])]
  rfl

theorem outcome_addType (free : id ∉ diagram.ids) (type : Except Fault String)
    (params : List (String × Value)) (log : List Notice) :
    outcome (Noted.ofExcept ((do diagram.addBlock .ok ⟨id, ← type, params⟩ :
        Except Fault (Diagram String)).mapError ReadError.fault)) log =
      ((type.map fun type => diagram.withBlock ⟨id, type, params⟩).mapError .fault, log) := by
  rw [Noted.ofExcept, outcome_liftExcept]
  cases type with
  | error cause => rfl
  | ok type =>
      dsimp only [bind, Except.bind]
      rw [addBlock_of_not_mem free]
      rfl

/-- An entry whose id is free is added under it, and nothing is noted. -/
theorem completes_addEntry_own [Host] (free : id ∉ diagram.ids) (reserved : List String)
    {type : Value} {text : String} (written : type.toText = .ok text)
    (params : List (String × Value)) (log : List Notice) :
    Completes (addEntry reserved diagram ⟨some id, type, params⟩) log
      (diagram.withBlock ⟨id, text, params⟩) log := by
  have absent : ¬ (diagram.block? id).isSome = true := by rwa [block?_isSome_iff]
  simp only [Completes, addEntry, if_neg absent, pure_bind, outcome_addType free, written]
  rfl

/-- An entry can be added to any diagram if a text can be made of its type, and that is all that can
go wrong. -/
theorem exists_outcome_addEntry [Host] (reserved : List String) (diagram : Diagram String)
    (entry : Entry) (before : List Notice) :
    ∃ id next after, IsNamed reserved diagram.ids entry.id id ∧
      outcome (addEntry reserved diagram entry) before =
        ((entry.type.toText.map fun type =>
          { diagram with nextId := next }.withBlock ⟨id, type, entry.params⟩).mapError .fault,
        after) := by
  obtain ⟨number, first, allocated⟩ := diagram.freshId_eq "b" reserved
  obtain ⟨unreserved, unused⟩ := not_or.mp first.free
  have free : numbered "b" number ∉ ids { diagram with nextId := number + 1 } := unused
  rcases entry with ⟨own, type, params⟩
  cases own with
  | none =>
      refine ⟨numbered "b" number, number + 1, before, .fresh (by simp) unreserved unused, ?_⟩
      simp only [addEntry, allocated, pure_bind, outcome_addType free]
  | some own =>
      by_cases taken : own ∈ diagram.ids
      · have found : (diagram.block? own).isSome = true := block?_isSome_iff.mpr taken
        refine ⟨numbered "b" number, number + 1, before ++ [.renamed own (numbered "b" number)],
          .fresh (by simpa using taken) unreserved unused, ?_⟩
        have noted : outcome (note (.renamed own (numbered "b" number)) : Noted ReadError Unit)
            before = (.ok (), before ++ [.renamed own (numbered "b" number)]) := rfl
        simp only [addEntry, allocated, if_pos found, pure_bind, outcome_bind, noted,
          outcome_addType free]
      · have absent : ¬ (diagram.block? own).isSome = true := by rwa [block?_isSome_iff]
        refine ⟨own, diagram.nextId, before, .own taken, ?_⟩
        simp only [addEntry, if_neg absent, pure_bind, outcome_addType taken]

end Adding

/-! ## Adding all entries -/

/-- The ids that come of own ids, each of them chosen with the ids before it taken. -/
inductive Names (reserved : List String) : List (Option String) → List String → Prop
  | nil : Names reserved [] []
  | add {owns : List (Option String)} {ids : List String} {own : Option String} {id : String}
      (names : Names reserved owns ids) (named : IsNamed reserved ids own id) :
      Names reserved (owns ++ [own]) (ids ++ [id])

/-- A block has the type and the parameters of an entry. -/
structure IsKept [Host] (entry : Entry) (block : Block String) : Prop where
  type_text : entry.type.toText = .ok block.type
  params_eq : block.params = entry.params

theorem exists_completes_addEntries [Host] (reserved : List String) {entries : List Entry}
    {types : List String} (written : entries.mapM (·.type.toText) = .ok types)
    (diagram : Diagram String) (before : List Notice) {owns : List (Option String)}
    (names : Names reserved owns diagram.ids) :
    ∃ blocks next after,
      Completes (entries.foldlM (addEntry reserved) diagram) before
        { diagram with blocks := diagram.blocks ++ blocks, nextId := next } after ∧
      Names reserved (owns ++ entries.map (·.id)) (diagram.ids ++ blocks.map (·.id)) ∧
      List.Forall₂ IsKept entries blocks := by
  induction entries generalizing diagram before owns types with
  | nil =>
      refine ⟨[], diagram.nextId, before, ?_, by simpa using names, .nil⟩
      rw [List.append_nil]
      exact completes_pure.mpr ⟨rfl, rfl⟩
  | cons entry rest ih =>
      rw [List.mapM_cons, bind_eq_ok_iff] at written
      obtain ⟨type, typeText, written⟩ := written
      obtain ⟨others, written, -⟩ := bind_eq_ok_iff.mp written
      obtain ⟨id, next, between, named, first⟩ :=
        exists_outcome_addEntry reserved diagram entry before
      rw [typeText] at first
      let block : Block String := ⟨id, type, entry.params⟩
      have longer : Names reserved (owns ++ [entry.id])
          ({ diagram with nextId := next }.withBlock block).ids := by
        rw [ids_withBlock]
        exact .add names named
      obtain ⟨blocks, last, after, added, all, kept⟩ := ih written _ between longer
      refine ⟨block :: blocks, last, after, ?_, ?_, .cons ⟨typeText, rfl⟩ kept⟩
      · rw [List.foldlM_cons, completes_bind]
        refine ⟨_, between, first, ?_⟩
        simpa [withBlock, block] using added
      · simpa [withBlock, block, ids] using all

/-- Adding entries breaks off at the first type of which no text can be made. -/
theorem outcome_addEntries_of_error [Host] (reserved : List String) {entries : List Entry}
    {cause : Fault} (fails : entries.mapM (·.type.toText) = .error cause)
    (diagram : Diagram String) (before : List Notice) :
    (outcome (entries.foldlM (addEntry reserved) diagram) before).1 = .error (.fault cause) := by
  induction entries generalizing diagram before with
  | nil => cases fails
  | cons entry rest ih =>
      obtain ⟨id, next, between, -, first⟩ :=
        exists_outcome_addEntry reserved diagram entry before
      rw [List.mapM_cons] at fails
      rw [List.foldlM_cons, outcome_bind, first]
      cases typeText : entry.type.toText with
      | error found =>
          rw [typeText] at fails
          cases fails
          rfl
      | ok type =>
          have others : rest.mapM (·.type.toText) = .error cause := by
            rw [typeText] at fails
            cases others : rest.mapM (·.type.toText) with
            | error found =>
                rw [others] at fails
                cases fails
                rfl
            | ok types =>
                rw [others] at fails
                cases fails
          exact ih others _ between

/-! ## The ids that come of it -/

section Places

variable {α : Type} [BEq α] {items : List α} {item : α} {place : Nat}

theorem idxOf?_append_of_some (found : items.idxOf? item = some place) (more : List α) :
    (items ++ more).idxOf? item = some place := by
  simp only [List.idxOf?] at found ⊢
  simp [List.findIdx?_append, found]

theorem idxOf?_append_of_none [ReflBEq α] (absent : items.idxOf? item = none) :
    (items ++ [item]).idxOf? item = some items.length := by
  simp only [List.idxOf?] at absent ⊢
  simp [List.findIdx?_append, List.findIdx?_cons, absent]

end Places

namespace Names

variable {reserved : List String} {owns : List (Option String)} {ids : List String}

theorem length_eq (names : Names reserved owns ids) : ids.length = owns.length := by
  induction names with
  | nil => rfl
  | add _ _ ih => simp [ih]

theorem nodup (names : Names reserved owns ids) : ids.Nodup := by
  induction names with
  | nil => exact List.nodup_nil
  | add _ named ih =>
      rw [← List.concat_eq_append]
      exact ih.concat named.not_mem

theorem empty_not_mem (names : Names reserved owns ids) (nonempty : some "" ∉ owns) :
    "" ∉ ids := by
  induction names with
  | nil => exact List.not_mem_nil
  | add _ named ih =>
      rw [List.mem_append, List.mem_singleton, not_or] at nonempty ⊢
      refine ⟨ih nonempty.1, ?_⟩
      cases named with
      | own _ => simpa [eq_comm] using nonempty.2
      | fresh _ _ _ => exact (numbered_ne_empty (by decide) _).symm

/-- A reserved id is had by the block of the first entry that brings it along. -/
theorem idxOf?_eq (names : Names reserved owns ids) {id : String} (member : id ∈ reserved) :
    ids.idxOf? id = owns.idxOf? (some id) := by
  induction names with
  | nil => rfl
  | @add owns ids own name names named ih =>
      simp only [List.idxOf?, List.findIdx?_append, names.length_eq]
      simp only [List.idxOf?] at ih
      rw [ih]
      cases named with
      | own _ => simp [List.findIdx?_cons]
      | fresh repeated unreserved _ =>
          -- A fresh id is not the reserved one, and a repeated own id is found further ahead.
          have other : id ≠ numbered "b" _ := fun same => unreserved (same ▸ member)
          by_cases again : own = some id
          · have found : (owns.findIdx? (· == some id)).isSome = true := by
              rw [← ih]
              simpa using repeated id again
            obtain ⟨place, isPlace⟩ := Option.isSome_iff_exists.mp found
            simp [isPlace]
          · simp [List.findIdx?_cons, again, other.symm]

/-- An entry that does not bring along an id as the first one gets an id that is not reserved. -/
theorem allocated (names : Names reserved owns ids)
    (covers : ∀ id, some id ∈ owns → id ∈ reserved) {place : Nat} (inside : place < owns.length)
    (notFirst : ∀ id, owns[place] = some id → owns.idxOf? (some id) ≠ some place) :
    ∃ number, ids[place]? = some (numbered "b" number) ∧ numbered "b" number ∉ reserved := by
  induction names generalizing place with
  | nil => exact absurd inside (by simp)
  | @add owns ids own name names named ih =>
      by_cases earlier : place < owns.length
      · obtain ⟨number, found, unreserved⟩ := ih
          (fun id member => covers id (List.mem_append_left _ member)) earlier
          (fun id isOwn first => notFirst id (by rwa [List.getElem_append_left earlier])
            (idxOf?_append_of_some first _))
        exact ⟨number, by rwa [List.getElem?_append_left (by rwa [names.length_eq])], unreserved⟩
      · have last : place = owns.length := by
          rw [List.length_append, List.length_singleton] at inside
          omega
        subst last
        cases named with
        | own free =>
            -- The entry would be the first one with this id.
            exfalso
            have absent : owns.idxOf? (some name) = none := by
              rw [← names.idxOf?_eq (covers name (by simp)), List.idxOf?_eq_none_iff]
              exact free
            exact notFirst name (by simp) (idxOf?_append_of_none absent)
        | fresh _ unreserved _ =>
            refine ⟨_, ?_, unreserved⟩
            rw [← names.length_eq]
            simp

end Names

end Diagram

end SignalFlow
