import SignalFlow.Expr.Eval
import SignalFlow.Proofs.Completion

/-! # Expressions that exhaust the memory

Whole numbers in expressions are exact, so there may be no memory for the result of an operation
(`Expr.IsTooLong`). An expression exhausts the memory if there is such an operation in it that the
evaluation comes to: everything before it has a value (`Expr.Exhausts`). Otherwise the evaluation
gives a value or a reason why there is none (`Expr.eval_eq_outOfMemory_iff`).
-/

namespace SignalFlow.Expr

/-- There is no memory for the result of an operation, or not even for the least power that it may
be. -/
inductive IsTooLong [Host] (operator : BinaryOp) (operation : Quantity → Quantity → Option Quantity)
    (a b : Quantity) : Prop
  | power (isPower : operator = .pow) (long : Host.wholeBits < a.powBits b)
  | result {value : Quantity} (gives : operation a b = some value)
      (long : Host.wholeBits < value.bits)

/-- Evaluating an expression with `room` for that many levels of nesting comes to an operation for
whose result there is no memory. -/
inductive Exhausts [Host] (constants : Constants) : Nat → Expr → Prop
  | left {room : Nat} {operator : BinaryOp} {operation : Quantity → Quantity → Option Quantity}
      {left right : Expr} (known : operator.operation? = some operation)
      (exhausts : Exhausts constants room left) :
      Exhausts constants (room + 1) (.binary operator left right)
  | right {room : Nat} {operator : BinaryOp} {operation : Quantity → Quantity → Option Quantity}
      {left right : Expr} {a : Quantity} (known : operator.operation? = some operation)
      (first : eval constants room left = .ok a) (exhausts : Exhausts constants room right) :
      Exhausts constants (room + 1) (.binary operator left right)
  | result {room : Nat} {operator : BinaryOp} {operation : Quantity → Quantity → Option Quantity}
      {left right : Expr} {a b : Quantity} (known : operator.operation? = some operation)
      (first : eval constants room left = .ok a) (second : eval constants room right = .ok b)
      (long : IsTooLong operator operation a b) :
      Exhausts constants (room + 1) (.binary operator left right)
  | operand {room : Nat} {operator : UnaryOp} {operation : Quantity → Quantity} {operand : Expr}
      (known : operator.operation? = some operation) (exhausts : Exhausts constants room operand) :
      Exhausts constants (room + 1) (.unary operator operand)
  | argument {room : Nat} {target argument : Expr} {before after : List Expr} {function : Function}
      (known : calledFunction target = .ok function)
      (evaluated : ∀ other ∈ before, ∃ value, eval constants room other = .ok value)
      (exhausts : Exhausts constants room argument) :
      Exhausts constants (room + 2) (.call target (before ++ argument :: after) false)

/-! ## What never exhausts the memory -/

theorem literal_eval_ne (value : Literal) : value.eval ≠ .error .outOfMemory := by
  unfold Literal.eval
  repeat' split
  all_goals exact nofun

theorem defined_ne (result : Option Quantity) : defined result ≠ .error .outOfMemory := by
  cases result <;> exact nofun

theorem calledFunction_ne (target : Expr) : calledFunction target ≠ .error .outOfMemory := by
  unfold calledFunction
  dsimp only
  repeat' split
  all_goals exact nofun

section Evaluation

variable [Host] {constants : Constants} {room : Nat}

theorem combined_eq_outOfMemory_iff {operator : BinaryOp}
    {operation : Quantity → Quantity → Option Quantity} {a b : Quantity} :
    combined operator operation a b = .error .outOfMemory ↔ IsTooLong operator operation a b := by
  unfold combined
  by_cases power : operator = .pow ∧ Host.wholeBits < a.powBits b
  · rw [if_pos (by simpa using power)]
    exact iff_of_true rfl (.power power.1 power.2)
  · rw [if_neg (by simpa using power)]
    constructor
    · intro fails
      cases gives : operation a b with
      | none =>
          rw [gives] at fails
          cases fails
      | some value =>
          rw [gives] at fails
          change fitting value = _ at fails
          unfold fitting at fails
          split at fails
          · next long => exact .result gives long
          · cases fails
    · rintro (⟨isPower, long⟩ | ⟨gives, long⟩)
      · exact absurd ⟨isPower, long⟩ power
      · rw [gives]
        exact if_pos long

/-! ## The parts of an evaluation -/

theorem evalAll_eq_mapM (exprs : List Expr) :
    evalAll constants room exprs = exprs.mapM (eval constants room) := by
  induction exprs with
  | nil => rfl
  | cons expr rest ih => rw [evalAll, List.mapM_cons, ih]

theorem eval_name (id : String) : eval constants (room + 1) (.name id) =
    match Entries.get? constants id with
    | some value => .ok (.real value)
    | none => .error (.unknownName id) := by
  conv_lhs => unfold eval
  rfl

theorem eval_attribute (target : Expr) (field : String) :
    eval constants (room + 1) (.attribute target field) =
      match if target.isModule then Entries.get? moduleConstants field else none with
      | some value => .ok (.real value)
      | none => .error .attribute := by
  conv_lhs => unfold eval
  rfl

theorem eval_binary (operator : BinaryOp) (left right : Expr) :
    eval constants (room + 1) (.binary operator left right) =
      match operator.operation? with
      | some operation => eval constants room left >>= fun a =>
          eval constants room right >>= fun b => combined operator operation a b
      | none => .error (.operator operator.name) := by
  conv_lhs => unfold eval
  rfl

theorem eval_unary (operator : UnaryOp) (operand : Expr) :
    eval constants (room + 1) (.unary operator operand) =
      match operator.operation? with
      | some operation => eval constants room operand >>= fun value => pure (operation value)
      | none => .error (.operator operator.name) := by
  conv_lhs => unfold eval
  rfl

theorem eval_call (target : Expr) (arguments : List Expr) :
    eval constants (room + 1) (.call target arguments false) =
      calledFunction target >>= fun function =>
        evalAll constants (room - 1) arguments >>= fun values => defined (function values) := by
  conv_lhs => unfold eval
  rfl

/-! ## Exhaustion -/

/-- An expression that exhausts the memory is not evaluated. -/
theorem eval_of_exhausts {expr : Expr} (exhausts : Exhausts constants room expr) :
    eval constants room expr = .error .outOfMemory := by
  induction exhausts with
  | left known _ ih =>
      rw [eval_binary, known, ih]
      rfl
  | right known first _ ih =>
      rw [eval_binary, known, first, ih]
      rfl
  | result known first second long =>
      rw [eval_binary, known, first, second]
      exact combined_eq_outOfMemory_iff.mpr long
  | operand known _ ih =>
      rw [eval_unary, known, ih]
      rfl
  | argument known evaluated _ ih =>
      rw [eval_call, known, Nat.add_sub_cancel, evalAll_eq_mapM,
        mapM_eq_error_iff.mpr ⟨_, _, _, rfl, evaluated, ih⟩]
      rfl

mutual

/-- If there is no memory for the evaluation of an expression, it exhausts the memory. -/
theorem exhausts_of_eval : (room : Nat) → (expr : Expr) →
    eval constants room expr = .error .outOfMemory → Exhausts constants room expr
  | 0, expr, fails => by
      unfold eval at fails
      cases fails
  | room + 1, .literal value, fails => by
      unfold eval at fails
      exact absurd fails (literal_eval_ne value)
  | room + 1, .name id, fails => by
      rw [eval_name] at fails
      split at fails <;> cases fails
  | room + 1, .attribute target field, fails => by
      rw [eval_attribute] at fails
      split at fails <;> cases fails
  | room + 1, .binary operator left right, fails => by
      rw [eval_binary] at fails
      cases known : operator.operation? with
      | none =>
          rw [known] at fails
          cases fails
      | some operation =>
          rw [known] at fails
          obtain first | ⟨a, first, fails⟩ := bind_eq_error_iff.mp fails
          · exact .left known (exhausts_of_eval room left first)
          obtain second | ⟨b, second, fails⟩ := bind_eq_error_iff.mp fails
          · exact .right known first (exhausts_of_eval room right second)
          · exact .result known first second (combined_eq_outOfMemory_iff.mp fails)
  | room + 1, .unary operator operand, fails => by
      rw [eval_unary] at fails
      cases known : operator.operation? with
      | none =>
          rw [known] at fails
          cases fails
      | some operation =>
          rw [known] at fails
          obtain first | ⟨value, -, fails⟩ := bind_eq_error_iff.mp fails
          · exact .operand known (exhausts_of_eval room operand first)
          · cases fails
  | room + 1, .call target arguments true, fails => by
      unfold eval at fails
      obtain unknown | ⟨_, -, fails⟩ := bind_eq_error_iff.mp fails
      · exact absurd unknown (calledFunction_ne target)
      · cases fails
  | room + 1, .call target arguments false, fails => by
      rw [eval_call] at fails
      obtain unknown | ⟨function, known, fails⟩ := bind_eq_error_iff.mp fails
      · exact absurd unknown (calledFunction_ne target)
      obtain values | ⟨_, -, fails⟩ := bind_eq_error_iff.mp fails
      · obtain ⟨before, argument, after, rfl, evaluated, exhausts⟩ :=
          exhausts_of_evalAll (room - 1) arguments values
        cases room with
        | zero => cases exhausts
        | succ room => exact .argument known evaluated exhausts
      · exact absurd fails (defined_ne _)
  | room + 1, .sequence label items, fails => by
      unfold eval at fails
      cases fails
  | room + 1, .starred items, fails => by
      unfold eval at fails
      cases fails
  | room + 1, .construct label, fails => by
      unfold eval at fails
      cases fails

theorem exhausts_of_evalAll (room : Nat) : (exprs : List Expr) →
    evalAll constants room exprs = .error .outOfMemory → ∃ before expr after,
      exprs = before ++ expr :: after ∧
      (∀ other ∈ before, ∃ value, eval constants room other = .ok value) ∧
      Exhausts constants room expr
  | [], fails => by cases fails
  | expr :: rest, fails => by
      rw [evalAll] at fails
      obtain first | ⟨value, first, fails⟩ := bind_eq_error_iff.mp fails
      · exact ⟨[], expr, rest, rfl, nofun, exhausts_of_eval room expr first⟩
      obtain others | ⟨_, -, fails⟩ := bind_eq_error_iff.mp fails
      · obtain ⟨before, later, after, rfl, evaluated, exhausts⟩ :=
          exhausts_of_evalAll room rest others
        exact ⟨expr :: before, later, after, rfl,
          List.forall_mem_cons.mpr ⟨⟨value, first⟩, evaluated⟩, exhausts⟩
      · cases fails

end

/-- **Evaluating an expression runs out of memory exactly if it comes to an operation for whose
result there is none.** -/
theorem eval_eq_outOfMemory_iff {expr : Expr} :
    eval constants room expr = .error .outOfMemory ↔ Exhausts constants room expr :=
  ⟨exhausts_of_eval room expr, eval_of_exhausts⟩

end Evaluation

end SignalFlow.Expr
