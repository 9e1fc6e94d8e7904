import SignalFlow.Notice
import Mathlib.Data.List.Forall2
import Mathlib.Tactic.Choose

/-! # Parts of computations

Compiling and ticking are computations that carry a state along and may break off: started in a
state, a part of one has an `outcome`. `Completes` says that it ends with a result, and the lemmas
about it take a part apart into what it is made of. Besides, a part may ensure a property of its
result (`Ensures`), may keep a property of the state even where it breaks off (`Keeps`), and may give
the same result in any state (`Gives`).
-/

namespace SignalFlow

variable {ε σ β γ : Type}

/-- How a part ends that is started in a state: with a result or the cause of its breaking off, and
in either case with a state. -/
def outcome (part : ExceptT ε (StateM σ) β) (before : σ) : Except ε β × σ := part.run.run before

@[simp] theorem outcome_pure (value : β) (before : σ) :
    outcome (pure value : ExceptT ε (StateM σ) β) before = (.ok value, before) := rfl

@[simp] theorem outcome_throw (cause : ε) (before : σ) :
    outcome (throw cause : ExceptT ε (StateM σ) β) before = (.error cause, before) := rfl

@[simp] theorem outcome_get (before : σ) :
    outcome (get : ExceptT ε (StateM σ) σ) before = (.ok before, before) := rfl

@[simp] theorem outcome_modify (change : σ → σ) (before : σ) :
    outcome (modify change : ExceptT ε (StateM σ) Unit) before = (.ok (), change before) := rfl

@[simp] theorem outcome_liftExcept (value : Except ε β) (before : σ) :
    outcome (liftExcept value : ExceptT ε (StateM σ) β) before = (value, before) := by
  cases value <;> rfl

/-- A part whose causes of breaking off are given other names ends as before. -/
@[simp] theorem outcome_adapt {ε' : Type} (rename : ε → ε') (part : ExceptT ε (StateM σ) β)
    (before : σ) :
    outcome (ExceptT.adapt rename part) before =
      ((outcome part before).1.mapError rename, (outcome part before).2) := rfl

/-- What follows a part is done in the state that the part leaves, unless it breaks off. -/
theorem outcome_bind (part : ExceptT ε (StateM σ) γ) (next : γ → ExceptT ε (StateM σ) β)
    (before : σ) :
    outcome (part >>= next) before =
      match outcome part before with
      | (.ok middle, between) => outcome (next middle) between
      | (.error cause, between) => (.error cause, between) := by
  change (match outcome part before with
    | (value, between) => (ExceptT.bindCont next value).run between) = _
  rcases outcome part before with ⟨cause | middle, between⟩ <;> rfl

theorem outcome_get_bind (next : σ → ExceptT ε (StateM σ) β) (before : σ) :
    outcome (get >>= next) before = outcome (next before) before := rfl

/-- A computation in two steps succeeds if both of them do. -/
theorem bind_eq_ok_iff {value : Except ε γ} {next : γ → Except ε β} {result : β} :
    (value >>= next) = .ok result ↔ ∃ middle, value = .ok middle ∧ next middle = .ok result := by
  cases value <;> simp [bind, Except.bind]

theorem bind_eq_error_iff {value : Except ε γ} {next : γ → Except ε β} {cause : ε} :
    (value >>= next) = .error cause ↔
      value = .error cause ∨ ∃ middle, value = .ok middle ∧ next middle = .error cause := by
  cases value <;> simp [bind, Except.bind]

theorem exists_bind_eq_ok_iff {value : Except ε γ} {next : γ → Except ε β} :
    (∃ result, (value >>= next) = .ok result) ↔
      ∃ middle, value = .ok middle ∧ ∃ result, next middle = .ok result := by
  simp only [bind_eq_ok_iff]
  exact ⟨fun ⟨result, middle, first, second⟩ => ⟨middle, first, result, second⟩,
    fun ⟨middle, first, result, second⟩ => ⟨result, middle, first, second⟩⟩

theorem mapError_eq_ok_iff {ε' : Type} {rename : ε → ε'} {value : Except ε β} {result : β} :
    value.mapError rename = .ok result ↔ value = .ok result := by
  cases value <;> simp [Except.mapError]

/-- A computation that always goes on after its first step succeeds if that step does. -/
theorem exists_bind_pure_eq_ok_iff {value : Except ε γ} {next : γ → β} :
    (∃ result, (value >>= fun middle => pure (next middle)) = .ok result) ↔
      ∃ middle, value = .ok middle := by
  rw [exists_bind_eq_ok_iff]
  exact exists_congr fun middle => and_iff_left ⟨_, rfl⟩

/-- Computing something for each item of a list succeeds with what each item gives. -/
theorem mapM_eq_ok_iff {items : List γ} {compute : γ → Except ε β} {results : List β} :
    items.mapM compute = .ok results ↔
      List.Forall₂ (fun item result => compute item = .ok result) items results := by
  induction items generalizing results with
  | nil => simp [pure, Except.pure, eq_comm]
  | cons item rest ih =>
      rw [List.mapM_cons]
      constructor
      · intro computed
        cases first : compute item with
        | error cause => simp [first, bind, Except.bind] at computed
        | ok result =>
            cases others : rest.mapM compute with
            | error cause => simp [first, others, bind, Except.bind] at computed
            | ok more =>
                simp only [first, others, bind, Except.bind, pure, Except.pure,
                  Except.ok.injEq] at computed
                subst computed
                exact .cons first (ih.mp others)
      · rintro (_ | ⟨first, others⟩)
        simp [first, ih.mpr others, bind, Except.bind, pure, Except.pure]

/-- Computing something for each item of a list succeeds if it does for every item. -/
theorem exists_mapM_eq_ok {items : List γ} {compute : γ → Except ε β}
    (each : ∀ item ∈ items, ∃ result, compute item = .ok result) :
    ∃ results, items.mapM compute = .ok results := by
  simp only [mapM_eq_ok_iff]
  induction items with
  | nil => exact ⟨[], .nil⟩
  | cons item rest ih =>
      obtain ⟨first, computed⟩ := each item List.mem_cons_self
      obtain ⟨others, all⟩ := ih fun later member => each later (List.mem_cons_of_mem _ member)
      exact ⟨first :: others, .cons computed all⟩

/-- If computing something for the items of a list succeeds, it does for each of them. -/
theorem exists_eq_ok_of_mapM {items : List γ} {compute : γ → Except ε β} {results : List β}
    (computed : items.mapM compute = .ok results) {item : γ} (member : item ∈ items) :
    ∃ result, compute item = .ok result := by
  induction mapM_eq_ok_iff.mp computed with
  | nil => cases member
  | cons first others ih =>
      rcases List.mem_cons.mp member with rfl | later
      · exact ⟨_, first⟩
      · exact ih (mapM_eq_ok_iff.mpr others) later

/-- Each of the results is that of an item. -/
theorem exists_of_mapM_eq_ok {items : List γ} {compute : γ → Except ε β} {results : List β}
    (computed : items.mapM compute = .ok results) {result : β} (member : result ∈ results) :
    ∃ item ∈ items, compute item = .ok result := by
  induction mapM_eq_ok_iff.mp computed with
  | nil => cases member
  | cons first others ih =>
      rcases List.mem_cons.mp member with rfl | later
      · exact ⟨_, List.mem_cons_self, first⟩
      · obtain ⟨item, inside, same⟩ := ih (mapM_eq_ok_iff.mpr others) later
        exact ⟨item, List.mem_cons_of_mem _ inside, same⟩

/-- Computing something for the items of a list fails at the first item for which it fails. -/
theorem mapM_eq_error_iff {items : List γ} {compute : γ → Except ε β} {cause : ε} :
    items.mapM compute = .error cause ↔
      ∃ good bad rest, items = good ++ bad :: rest ∧ (∀ item ∈ good, ∃ result,
        compute item = .ok result) ∧ compute bad = .error cause := by
  induction items with
  | nil => simp [pure, Except.pure]
  | cons item rest ih =>
      rw [List.mapM_cons]
      cases first : compute item with
      | error found =>
          constructor
          · intro fails
            cases fails
            exact ⟨[], item, rest, rfl, nofun, first⟩
          · rintro ⟨good, bad, others, split, passes, fails⟩
            cases good with
            | nil =>
                obtain ⟨rfl, rfl⟩ := List.cons.inj split
                rw [first] at fails
                exact congrArg _ (Except.error.inj fails)
            | cons head good =>
                obtain ⟨rfl, -⟩ := List.cons.inj split
                obtain ⟨result, computed⟩ := passes item List.mem_cons_self
                cases first.symm.trans computed
      | ok result =>
          have later : (do return result :: (← rest.mapM compute)) = .error cause ↔
              rest.mapM compute = .error cause := by
            cases rest.mapM compute <;> simp [bind, Except.bind, pure, Except.pure]
          refine later.trans (ih.trans ⟨?_, ?_⟩)
          · rintro ⟨good, bad, others, rfl, passes, fails⟩
            refine ⟨item :: good, bad, others, rfl, ?_, fails⟩
            exact List.forall_mem_cons.mpr ⟨⟨result, first⟩, passes⟩
          · rintro ⟨good, bad, others, split, passes, fails⟩
            cases good with
            | nil =>
                obtain ⟨rfl, rfl⟩ := List.cons.inj split
                cases first.symm.trans fails
            | cons head good =>
                obtain ⟨rfl, rfl⟩ := List.cons.inj split
                exact ⟨good, bad, others, rfl, (List.forall_mem_cons.mp passes).2, fails⟩

/-! ## Completion -/

/-- A part started in a state completes with a result and a state. -/
def Completes (part : ExceptT ε (StateM σ) β) (before : σ) (result : β) (after : σ) : Prop :=
  outcome part before = (.ok result, after)

/-- A part completes with a result if that is what it gives. -/
theorem exists_completes_iff {part : ExceptT ε (StateM σ) β} {before : σ} {result : β} :
    (∃ after, Completes part before result after) ↔ (outcome part before).1 = .ok result := by
  constructor
  · rintro ⟨after, completes⟩
    rw [completes]
  · intro same
    exact ⟨(outcome part before).2, Prod.ext same rfl⟩

/-- A value that passes a test is there. -/
theorem exists_of_toOption_any {value : Except ε β} {test : β → Bool}
    (passes : value.toOption.any test = true) : ∃ result, value = .ok result ∧ test result = true := by
  cases value with
  | error cause => cases passes
  | ok result => exact ⟨result, rfl, passes⟩

/-- A part completes if there is a result, and one that passes a test. -/
theorem exists_completes_of_any {part : ExceptT ε (StateM σ) β} {before : σ} {test : β → Bool}
    (passes : (outcome part before).1.toOption.any test = true) :
    ∃ result after, Completes part before result after ∧ test result = true := by
  obtain ⟨result, ended, passed⟩ := exists_of_toOption_any passes
  obtain ⟨after, completes⟩ := exists_completes_iff.mpr ended
  exact ⟨result, after, completes, passed⟩

/-- A part completes in at most one way. -/
theorem Completes.unique {part : ExceptT ε (StateM σ) β} {before : σ} {first second : β}
    {afterFirst afterSecond : σ} (one : Completes part before first afterFirst)
    (other : Completes part before second afterSecond) :
    first = second ∧ afterFirst = afterSecond := by
  have same := Eq.trans (Eq.symm one) other
  simpa using same

section Steps

variable {before after : σ} {result : β}

@[simp] theorem completes_pure {value : β} :
    Completes (pure value : ExceptT ε (StateM σ) β) before result after ↔
      result = value ∧ after = before := by
  simp [Completes, eq_comm]

@[simp] theorem not_completes_throw {cause : ε} :
    ¬ Completes (throw cause : ExceptT ε (StateM σ) β) before result after := by
  simp [Completes]

@[simp] theorem completes_get {current : σ} :
    Completes (get : ExceptT ε (StateM σ) σ) before current after ↔
      current = before ∧ after = before := by
  simp [Completes, eq_comm]

@[simp] theorem completes_modify {change : σ → σ} {done : Unit} :
    Completes (modify change : ExceptT ε (StateM σ) Unit) before done after ↔
      after = change before := by
  simp [Completes, eq_comm]

@[simp] theorem completes_liftExcept {value : Except ε β} :
    Completes (liftExcept value : ExceptT ε (StateM σ) β) before result after ↔
      value = .ok result ∧ after = before := by
  simp [Completes, eq_comm]

theorem completes_bind {part : ExceptT ε (StateM σ) γ} {next : γ → ExceptT ε (StateM σ) β} :
    Completes (part >>= next) before result after ↔
      ∃ middle between, Completes part before middle between ∧
        Completes (next middle) between result after := by
  unfold Completes
  rw [outcome_bind]
  rcases outcome part before with ⟨cause | middle, between⟩
  · simp
  · constructor
    · intro completes
      exact ⟨middle, between, rfl, completes⟩
    · rintro ⟨middle, between, same, completes⟩
      cases same
      exact completes

/-- Parts that always complete, done one after the other, fold what each of them does. -/
theorem completes_forM {items : List γ} {visit : γ → ExceptT ε (StateM σ) Unit}
    {change : σ → γ → σ} (each : ∀ item state, Completes (visit item) state () (change state item))
    (before : σ) : Completes (items.forM visit) before () (items.foldl change before) := by
  induction items generalizing before with
  | nil => exact completes_pure.mpr ⟨rfl, rfl⟩
  | cons item rest ih => exact completes_bind.mpr ⟨(), _, each item before, ih _⟩

end Steps

/-! ## What a part ensures, keeps and ignores -/

/-- Whatever a part completes with has a property. -/
def Ensures (property : β → Prop) (part : ExceptT ε (StateM σ) β) : Prop :=
  ∀ before result after, Completes part before result after → property result

theorem ensures_pure {property : β → Prop} {value : β} (holds : property value) :
    Ensures property (pure value : ExceptT ε (StateM σ) β) := by
  intro before result after completes
  rw [(completes_pure.mp completes).1]
  exact holds

/-- What follows a part may rely on what the part ensures. -/
theorem ensures_bind_of {first : γ → Prop} {property : β → Prop} {part : ExceptT ε (StateM σ) γ}
    {next : γ → ExceptT ε (StateM σ) β} (ensured : Ensures first part)
    (rest : ∀ middle, first middle → Ensures property (next middle)) :
    Ensures property (part >>= next) := by
  intro before result after completes
  obtain ⟨middle, between, ends, later⟩ := completes_bind.mp completes
  exact rest middle (ensured before middle between ends) between result after later

theorem ensures_bind {property : β → Prop} {part : ExceptT ε (StateM σ) γ}
    {next : γ → ExceptT ε (StateM σ) β} (rest : ∀ middle, Ensures property (next middle)) :
    Ensures property (part >>= next) :=
  ensures_bind_of (fun _ _ _ _ => trivial) fun middle _ => rest middle

/-- A part keeps a property of the state, also where it breaks off. -/
def Keeps (property : σ → Prop) (part : ExceptT ε (StateM σ) β) : Prop :=
  ∀ before, property before → property (outcome part before).2

section Keeps

variable {property : σ → Prop}

theorem Keeps.of_completes {part : ExceptT ε (StateM σ) β} {before after : σ} {result : β}
    (keeps : Keeps property part) (holds : property before)
    (completes : Completes part before result after) : property after := by
  have kept := keeps before holds
  rwa [completes] at kept

theorem keeps_pure (value : β) : Keeps property (pure value : ExceptT ε (StateM σ) β) :=
  fun _ holds => holds

theorem keeps_get : Keeps property (get : ExceptT ε (StateM σ) σ) :=
  fun _ holds => holds

theorem keeps_liftExcept (value : Except ε β) :
    Keeps property (liftExcept value : ExceptT ε (StateM σ) β) := by
  intro before holds
  simpa using holds

theorem keeps_modify {change : σ → σ} (kept : ∀ state, property state → property (change state)) :
    Keeps property (modify change : ExceptT ε (StateM σ) Unit) :=
  fun before holds => kept before holds

/-- What follows the reading of the state may rely on the state that is read. -/
theorem keeps_get_bind {next : σ → ExceptT ε (StateM σ) β}
    (kept : ∀ before, property before → property (outcome (next before) before).2) :
    Keeps property (get >>= next) := by
  intro before holds
  rw [outcome_get_bind]
  exact kept before holds

theorem keeps_bind {part : ExceptT ε (StateM σ) γ} {next : γ → ExceptT ε (StateM σ) β}
    (first : Keeps property part) (rest : ∀ middle, Keeps property (next middle)) :
    Keeps property (part >>= next) := by
  intro before holds
  have kept := first before holds
  rw [outcome_bind]
  rcases ended : outcome part before with ⟨cause | middle, between⟩
  · rw [ended] at kept
    exact kept
  · rw [ended] at kept
    exact rest middle between kept

theorem keeps_forM {items : List γ} {visit : γ → ExceptT ε (StateM σ) Unit}
    (kept : ∀ item ∈ items, Keeps property (visit item)) : Keeps property (items.forM visit) := by
  induction items with
  | nil => exact keeps_pure ()
  | cons item rest ih =>
      exact keeps_bind (kept item List.mem_cons_self) fun _ =>
        ih fun later member => kept later (List.mem_cons_of_mem _ member)

end Keeps

/-- A part gives the same result, or breaks off for the same cause, in any state. -/
def Gives (part : ExceptT ε (StateM σ) β) (value : Except ε β) : Prop :=
  ∀ before, (outcome part before).1 = value

/-- The result of a part, or the cause of its breaking off, does not depend on the state. -/
def IsOblivious (part : ExceptT ε (StateM σ) β) : Prop := ∃ value, Gives part value

section Gives

theorem gives_pure (value : β) : Gives (pure value : ExceptT ε (StateM σ) β) (.ok value) :=
  fun _ => rfl

theorem gives_note (notice : Notice) : Gives (note notice : Noted ε Unit) (.ok ()) :=
  fun _ => rfl

theorem gives_ofExcept (value : Except ε β) : Gives (Noted.ofExcept value) value := by
  intro before
  simp [Noted.ofExcept]

theorem gives_bind {part : ExceptT ε (StateM σ) γ} {next : γ → ExceptT ε (StateM σ) β}
    {value : Except ε γ} {values : γ → Except ε β} (first : Gives part value)
    (rest : ∀ middle, Gives (next middle) (values middle)) :
    Gives (part >>= next) (value >>= values) := by
  intro before
  have same := first before
  rw [outcome_bind]
  rcases ended : outcome part before with ⟨cause | middle, between⟩
  · rw [ended] at same
    subst same
    rfl
  · rw [ended] at same
    subst same
    exact rest middle between

/-- What follows a part that succeeds in any state depends on its result only. -/
theorem gives_bind_of_ok {part : ExceptT ε (StateM σ) γ} {next : γ → ExceptT ε (StateM σ) β}
    {middle : γ} {value : Except ε β} (first : Gives part (.ok middle))
    (rest : Gives (next middle) value) : Gives (part >>= next) value := by
  intro before
  have same := first before
  rw [outcome_bind]
  rcases ended : outcome part before with ⟨cause | other, between⟩
  · rw [ended] at same
    cases same
  · rw [ended] at same
    cases same
    exact rest between

theorem IsOblivious.gives {part : ExceptT ε (StateM σ) β} (oblivious : IsOblivious part)
    (before : σ) : Gives part (outcome part before).1 := by
  obtain ⟨value, gives⟩ := oblivious
  rwa [gives before]

theorem isOblivious_pure (value : β) : IsOblivious (pure value : ExceptT ε (StateM σ) β) :=
  ⟨_, gives_pure value⟩

theorem isOblivious_note (notice : Notice) : IsOblivious (note notice : Noted ε Unit) :=
  ⟨_, gives_note notice⟩

theorem isOblivious_ofExcept (value : Except ε β) : IsOblivious (Noted.ofExcept value) :=
  ⟨_, gives_ofExcept value⟩

theorem isOblivious_bind {part : ExceptT ε (StateM σ) γ} {next : γ → ExceptT ε (StateM σ) β}
    (first : IsOblivious part) (rest : ∀ middle, IsOblivious (next middle)) :
    IsOblivious (part >>= next) := by
  obtain ⟨value, gives⟩ := first
  choose values others using rest
  exact ⟨_, gives_bind gives others⟩

end Gives

end SignalFlow
