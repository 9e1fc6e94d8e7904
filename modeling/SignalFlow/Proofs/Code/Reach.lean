import SignalFlow.Proofs.Code.Mentions

/-! # Where the cursors of a generated program stand

A delay finds the places of its buffer by a cursor, which is all of the state of a generated program
that decides which items of an array are read. It starts at zero and is only moved around a size, so
it stays below every length that is no less than the sizes around which statements move it
(`Program.Reaches.cursor_lt`). Nothing else of a run matters for that: a test may go either way, and
the loop of a tick may have any number of passes.
-/

namespace SignalFlow.Code

variable {α : Type}

/-- Where a place is in its array, by where the cursors stand. -/
def Place.index (cursors : Field → Nat) : Place → Nat
  | .at place => place
  | .cursor idx => cursors idx
  | .ahead idx steps size => (cursors idx + steps) % size

/-- What is run next in place of a statement, and where the cursors stand then. A test may go either
way. -/
def Statement.step (cursors : Field → Nat) :
    Statement α → List (List (Statement α) × (Field → Nat))
  | .advance idx size => [([], Function.update cursors idx ((cursors idx + 1) % size))]
  | .when _ body => [(body, cursors), ([], cursors)]
  | .block body => [(body, cursors)]
  | _ => [([], cursors)]

/-- The statements of a tick with a number of passes over its loop. -/
def Tick.statements (tick : Tick α) (passes : Nat) : List (Statement α) :=
  tick.outputs ++ tick.seeds ++ (List.replicate passes tick.pass).flatten ++ tick.sinks ++
    tick.updates

/-- A run of a program comes to where some statements of the tick are left and the cursors stand
somewhere. -/
inductive Program.Reaches (program : Program α) : List (Statement α) → (Field → Nat) → Prop
  | start : Reaches program [] fun _ => 0
  | tick {cursors : Field → Nat} (passes : Nat) :
      Reaches program [] cursors → Reaches program (program.tick.statements passes) cursors
  | step {cursors next : Field → Nat} {statement : Statement α} {rest body : List (Statement α)} :
      Reaches program (statement :: rest) cursors → (body, next) ∈ statement.step cursors →
        Reaches program (body ++ rest) next

/-- A cursor is moved, if at all, around sizes up to a length. -/
structure MovesWithin (mentions : List (Mention α)) (idx : Field) (length : Nat) : Prop where
  pos : 0 < length
  le {size : Nat} : .advance idx size ∈ mentions → size ≤ length

/-! ## Steps -/

section Steps

variable {cursors next : Field → Nat} {statement : Statement α} {body : List (Statement α)}
  (steps : (body, next) ∈ statement.step cursors)
include steps

/-- What is run in place of a statement mentions nothing else. -/
theorem Statement.mentions_of_step : mentionsOf body ⊆ statement.mentions := by
  cases statement with
  | when test inner =>
      rcases List.mem_pair.mp steps with same | same <;> cases same
      · exact List.subset_append_right _ _
      · exact List.nil_subset _
  | block inner =>
      cases List.mem_singleton.mp steps
      exact List.Subset.refl _
  | _ =>
      cases List.mem_singleton.mp steps
      exact List.nil_subset _

/-- A step leaves the cursors where they are or moves one of them. -/
theorem Statement.cursors_of_step : next = cursors ∨ ∃ idx size,
    .advance idx size ∈ statement.mentions ∧
      next = Function.update cursors idx ((cursors idx + 1) % size) := by
  cases statement with
  | advance idx size =>
      cases List.mem_singleton.mp steps
      exact .inr ⟨idx, size, List.mem_singleton_self _, rfl⟩
  | when test inner =>
      rcases List.mem_pair.mp steps with same | same <;> cases same <;> exact .inl rfl
  | _ =>
      cases List.mem_singleton.mp steps
      exact .inl rfl

end Steps

/-! ## Runs -/

theorem Tick.mentions_statements (tick : Tick α) (passes : Nat) :
    mentionsOf (tick.statements passes) ⊆ tick.mentions := by
  intro mention member
  obtain ⟨statement, listed, member⟩ := mem_mentionsOf_iff.mp member
  refine mem_mentionsOf_iff.mpr ⟨statement, ?_, member⟩
  have once (repeated : statement ∈ (List.replicate passes tick.pass).flatten) :
      statement ∈ tick.pass := by
    obtain ⟨pass, copies, inside⟩ := List.mem_flatten.mp repeated
    rwa [List.eq_of_mem_replicate copies] at inside
  simp only [Tick.statements, List.mem_append] at listed ⊢
  tauto

namespace Program.Reaches

variable {program : Program α} {statements : List (Statement α)} {cursors : Field → Nat}

/-- The statements that are left mention what the tick does. -/
theorem mentions_subset (reaches : program.Reaches statements cursors) :
    mentionsOf statements ⊆ program.tick.mentions := by
  induction reaches with
  | start => exact List.nil_subset _
  | tick passes _ _ => exact program.tick.mentions_statements passes
  | step _ steps left =>
      obtain ⟨first, rest⟩ := List.append_subset.mp left
      rw [mentionsOf_append]
      exact List.append_subset.mpr
        ⟨List.Subset.trans (Statement.mentions_of_step steps) first, rest⟩

/-- **A cursor stays below every length within which it is moved.** -/
theorem cursor_lt (reaches : program.Reaches statements cursors)
    (positive : ∀ {idx size}, .advance idx size ∈ program.tick.mentions → 0 < size)
    {idx : Field} {length : Nat} (within : MovesWithin program.tick.mentions idx length) :
    cursors idx < length := by
  induction reaches with
  | start => exact within.pos
  | tick _ _ stands => exact stands
  | @step before after statement rest body reaches steps stands =>
      rcases Statement.cursors_of_step steps with kept | ⟨moved, size, mentioned, rfl⟩
      · rwa [kept]
      · by_cases same : idx = moved
        · subst same
          have listed := reaches.mentions_subset (List.mem_append_left _ mentioned)
          rw [Function.update_self]
          exact (Nat.mod_lt _ (positive listed)).trans_le (within.le listed)
        · rwa [Function.update_of_ne same]

end Program.Reaches

end SignalFlow.Code
