import SignalFlow.Proofs.Entries
import SignalFlow.Constants

/-! # What the value of a text depends on

The value of a text depends on a table of constants only by what stands there under some names
(`Constants.reads`): the text itself, what is behind its backslash, and the names in the expression
that it is (`Constants.resolveText_congr`).
-/

namespace SignalFlow

namespace Expr

mutual

/-- The names whose values an expression uses. -/
def names : Expr → List String
  | .name id => [id]
  | .binary _ left right => left.names ++ right.names
  | .unary _ operand => operand.names
  | .call _ arguments _ => namesOf arguments
  | _ => []

/-- The names whose values some expressions use. -/
def namesOf : List Expr → List String
  | [] => []
  | expr :: rest => expr.names ++ namesOf rest

end

section Values

variable {table other : Constants}

mutual

theorem eval_congr [Host] (room : Nat) : (expr : Expr) →
    (∀ name ∈ expr.names, Entries.get? table name = Entries.get? other name) →
      eval table room expr = eval other room expr
  | .literal _, _ | .attribute _ _, _ | .sequence _ _, _ | .starred _, _ | .construct _, _ => by
      unfold eval
      rfl
  | .name id, same => by
      unfold eval
      simp only [same id List.mem_cons_self]
  | .binary _ left right, same => by
      have both := List.forall_mem_append.mp same
      unfold eval
      simp only [eval_congr (room - 1) left both.1, eval_congr (room - 1) right both.2]
  | .unary _ operand, same => by
      unfold eval
      simp only [eval_congr (room - 1) operand same]
  | .call _ arguments _, same => by
      unfold eval
      simp only [evalAll_congr (room - 2) arguments same]

theorem evalAll_congr [Host] (room : Nat) : (items : List Expr) →
    (∀ name ∈ namesOf items, Entries.get? table name = Entries.get? other name) →
      evalAll table room items = evalAll other room items
  | [], _ => by
      unfold evalAll
      rfl
  | expr :: rest, same => by
      have both := List.forall_mem_append.mp same
      unfold evalAll
      rw [eval_congr room expr both.1, evalAll_congr room rest both.2]

end

/-- The names that the text of an expression uses. -/
def namesIn (text : String) : List String :=
  ((parse? (source text)).map names).getD []

theorem evaluate_congr [Host] {text : String}
    (same : ∀ name ∈ namesIn text, Entries.get? table name = Entries.get? other name) :
    evaluate table text = evaluate other text := by
  unfold evaluate
  unfold namesIn at same
  generalize parse? (source text) = parsed at same ⊢
  cases parsed with
  | none => rfl
  | some expr => simp only [valueOf, eval_congr nestingLimit expr same]

end Values

end Expr

namespace Constants

/-- The name that stands behind the backslash of a text. -/
def marked (text : String) : List String :=
  match text.toList with
  | '\\' :: rest => [String.ofList rest]
  | _ => []

/-- The names under which the value of a text is looked up. -/
def reads (text : String) : List String :=
  let text := Text.trim text
  if text.isEmpty || (written? text).isSome then []
  else text :: marked text ++ Expr.namesIn text

variable {table other : Constants}

theorem named?_congr {text : String} (own : Entries.get? table text = Entries.get? other text)
    (behind : ∀ name ∈ marked text, Entries.get? table name = Entries.get? other name) :
    table.named? text = other.named? text := by
  unfold named?
  rw [own]
  split
  · rfl
  · unfold marked at behind
    split
    · rename_i rest characters
      rw [characters] at behind
      exact behind _ List.mem_cons_self
    · rfl

/-- **The value of a text depends on what it reads only.** -/
theorem resolveText_congr [Host] {text : String}
    (same : ∀ name ∈ reads text, Entries.get? table name = Entries.get? other name) :
    table.resolveText text = other.resolveText text := by
  unfold resolveText
  unfold reads at same
  dsimp only at same ⊢
  split
  · rfl
  · rename_i nonempty
    split
    · rfl
    · rename_i unwritten
      rw [if_neg (by simp [nonempty, unwritten]), List.cons_append, List.forall_mem_cons,
        List.forall_mem_append] at same
      rw [named?_congr same.1 same.2.1, Expr.evaluate_congr same.2.2]

end Constants

end SignalFlow
