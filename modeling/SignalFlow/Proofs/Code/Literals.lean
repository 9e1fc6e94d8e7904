import SignalFlow.Host.Usual
import SignalFlow.Proofs.BlockTotality
import SignalFlow.Proofs.Code.Mentions
import SignalFlow.Proofs.Doubles.Literals

/-! # The numbers in generated programs

A program writes down numbers: the variables of its diagram, the step and the duration, parameters of
blocks and what follows from these (`Program.literals`). Parameters are finite, and so is what is
chosen among them or halved. What is multiplied, divided and subtracted need not be: the slope of a
sweep, the angular frequency of a filter and the coefficients of a transfer function
(`Payload.derived`). All literals of a program are decimal exactly if these are finite
(`literals_isDecimal_iff`).
-/

namespace SignalFlow

/-! ## Resolved parameters -/

namespace Payload

/-- The parameters that the code of a block takes over as they are. -/
def settings {α : Type} : Payload α → List α
  | .constant x | .step x | .noise x _ | .gain x | .switch x _ | .integrator x | .backlash x
  | .ddelay _ x | .zoh x | .foh x | .dtf _ _ x _ => [x]
  | .ramp x y | .impulse x y | .saturation x y | .rate x y | .chirp x y _ _ _ => [x, y]
  | .sine x y z | .pid x y z => [x, y, z]
  | .sum signs => signs
  | .stateSpace a b c d => [a, b, c, d]
  | .dstateSpace a b c d ts => [a, b, c, d, ts]
  | _ => []

/-- What follows from the parameters of a block by arithmetic, and is part of its code. -/
def derived {α : Type} : Payload α → List α
  | .chirp _ _ _ _ slope => [slope]
  | .lpf _ wc | .hpf _ wc => [wc]
  | .tf _ _ (some model) => model.a.flatten ++ model.b ++ model.c ++ [model.d]
  | .dtf _ _ _ model => model.num ++ model.den.tail
  | _ => []

section Settings

variable {constants : Constants}

theorem ensures_ofExcept {β : Type} {property : β → Prop} {value : Except Fault β}
    (holds : ∀ result, value = .ok result → property result) :
    Ensures property (Noted.ofExcept value) := by
  intro before result after completes
  simp only [Noted.ofExcept, completes_liftExcept] at completes
  exact holds result completes.1

theorem isFinite_signs [Host] {value : Value} {xs : List Float}
    (resolves : signs constants value = .ok xs) : ∀ x ∈ xs, x.isFinite = true := by
  have listed (resolves : constants.resolveList value = .ok xs) : ∀ x ∈ xs, x.isFinite = true :=
    (Constants.failsIff_resolveList constants value).of_eq_ok resolves
  unfold signs at resolves
  split at resolves
  · split at resolves
    · next text signs written =>
        cases resolves
        unfold signsText? at written
        dsimp only at written
        split at written
        · cases written
          intro x member
          obtain ⟨c, -, rfl⟩ := List.mem_map.mp member
          split <;> decide
        · cases written
    · exact listed resolves
  · exact listed resolves

theorem isFinite_samplePeriod {ts period : Float} {step : Setting Float}
    (tsFinite : ts.isFinite = true)
    (stepFinite : ∀ dt, step.number = .ok dt → dt.isFinite = true)
    (sampled : samplePeriod ts step = .ok period) : period.isFinite = true := by
  have minimal : (minimalPeriod : Float).isFinite = true := by decide
  unfold samplePeriod at sampled
  split at sampled
  · obtain ⟨dt, found, same⟩ := bind_eq_ok_iff.mp sampled
    cases same
    exact Scalar.isFinite_max minimal (stepFinite dt found)
  · cases sampled
    exact Scalar.isFinite_max minimal tsFinite

/-- The settings of a resolved block are finite. -/
theorem ensures_isFinite_settings [Host] (kind : Kind) (given : List (String × Value))
    (constants : Constants) {step : Setting Float}
    (stepFinite : ∀ dt, step.number = .ok dt → dt.isFinite = true) :
    Ensures (fun payload : Payload Float => ∀ x ∈ payload.settings, x.isFinite = true)
      (resolve kind given constants step) := by
  have number (name : String) := ensures_isFinite_number constants (kind.parameter given name)
  have zero : (0.0 : Float).isFinite = true := by decide
  have one : (1.0 : Float).isFinite = true := by decide
  have period {ts : Float} (tsFinite : ts.isFinite = true) :
      Ensures (fun period : Float => period.isFinite = true)
        (Noted.ofExcept (samplePeriod ts step)) :=
    ensures_ofExcept fun _ => isFinite_samplePeriod tsFinite stepFinite
  unfold resolve
  cases kind with
  | mult | derivative | unsupported => exact ensures_pure (by simp [settings])
  | labelSource | labelSink | scope | fileSink | lpf | hpf =>
      exact ensures_bind fun _ => ensures_pure (by simp [settings])
  | delay => exact ensures_bind fun _ => ensures_bind fun _ => ensures_pure (by simp [settings])
  | constant | step | gain | integrator | backlash =>
      exact ensures_bind_of (number _) fun x xFinite => ensures_pure (by
        simp [settings, xFinite, Scalar.isFinite_max zero xFinite])
  | ramp | impulse | saturation | rate =>
      exact ensures_bind_of (number _) fun x xFinite => ensures_bind_of (number _) fun y yFinite =>
        ensures_pure (by
          simp [settings, xFinite, yFinite, Scalar.isFinite_max zero xFinite,
            Scalar.isFinite_max zero yFinite])
  | sine | pid =>
      exact ensures_bind_of (number _) fun x xFinite => ensures_bind_of (number _) fun y yFinite =>
        ensures_bind_of (number _) fun z zFinite =>
          ensures_pure (by simp [settings, xFinite, yFinite, zFinite])
  | chirp =>
      exact ensures_bind_of (number _) fun amp ampFinite =>
        ensures_bind_of (number _) fun f0 f0Finite => ensures_bind fun _ => ensures_bind fun _ =>
          ensures_pure (by simp [settings, ampFinite, f0Finite])
  | noise =>
      exact ensures_bind_of (number _) fun amp ampFinite => ensures_bind fun _ =>
        ensures_bind fun _ => ensures_pure (by simp [settings, ampFinite])
  | sum =>
      refine ensures_bind_of (ensures_ofExcept fun _ => isFinite_signs) fun factors finite =>
        ensures_pure fun x member => ?_
      obtain ⟨factor, listed, rfl⟩ := List.mem_map.mp member
      exact Scalar.isFinite_orElse (finite factor listed) one
  | switch =>
      refine ensures_bind_of (number _) fun threshold finite => ensures_bind fun text => ?_
      split
      · exact ensures_pure (by simp [settings, finite])
      · exact ensures_bind fun _ => ensures_pure (by simp [settings, finite])
  | ddelay =>
      refine ensures_bind fun _ => ensures_bind_of (number _) fun ts finite =>
        ensures_bind fun _ => ensures_pure ?_
      have tenth : (0.1 : Float).isFinite = true := by decide
      have minimal : (minimalPeriod : Float).isFinite = true := by decide
      simp [settings, Scalar.isFinite_max minimal (Scalar.isFinite_orElse finite tenth)]
  | zoh | foh =>
      exact ensures_bind_of (number _) fun ts finite => ensures_bind_of (period finite)
        fun _ sampled => ensures_pure (by simp [settings, sampled])
  | stateSpace =>
      exact ensures_bind_of (number _) fun a aFinite => ensures_bind_of (number _) fun b bFinite =>
        ensures_bind_of (number _) fun c cFinite => ensures_bind_of (number _) fun d dFinite =>
          ensures_pure (by simp [settings, aFinite, bFinite, cFinite, dFinite])
  | dstateSpace =>
      exact ensures_bind_of (number _) fun a aFinite => ensures_bind_of (number _) fun b bFinite =>
        ensures_bind_of (number _) fun c cFinite => ensures_bind_of (number _) fun d dFinite =>
          ensures_bind_of (number _) fun ts finite => ensures_bind_of (period finite)
            fun _ sampled =>
              ensures_pure (by simp [settings, aFinite, bFinite, cFinite, dFinite, sampled])
  | tf =>
      change Ensures _ (resolve .tf given constants step)
      exact ensures_resolve_tf fun _ _ _ => ensures_bind fun _ => ensures_pure (by simp [settings])
  | dtf =>
      refine ensures_bind fun num => ensures_bind fun den =>
        ensures_bind_of (number _) fun ts finite => ?_
      split
      · exact ensures_bind fun _ => ensures_bind_of (period finite) fun _ sampled =>
          ensures_pure (by simp [settings, sampled])
      · exact ensures_bind_of (period finite) fun _ sampled =>
          ensures_pure (by simp [settings, sampled])

end Settings

end Payload

/-! ## The code of blocks -/

namespace Code

/-- What is mentioned is finite, if it is a number. -/
@[simp] def Mention.IsFinite : Mention Float → Prop
  | .number x => x.isFinite = true
  | _ => True

theorem allMentions_isFinite_iff {mentions : List (Mention Float)} :
    AllMentions Mention.IsFinite mentions ↔ ∀ x, .number x ∈ mentions → x.isFinite = true := by
  constructor
  · exact fun finite x member => finite _ member
  · intro finite mention member
    cases mention with
    | number x => exact finite x member
    | _ => trivial

/-- The numbers that a field holds at first. -/
def Initial.numbers {α : Type} : Initial α → List α
  | .number value => [value]
  | _ => []

/-- The entries of a matrix or a vector. -/
def Realized.numbers {α : Type} : Realized α → List α
  | .matrix _ rows => rows.flatten
  | .vector _ entries => entries

/-- All the numbers in the code of a block are finite. -/
structure BlockCode.IsFinite (code : BlockCode Float) : Prop where
  mentions : AllMentions Mention.IsFinite code.mentions
  fields : ∀ declaration ∈ code.fields, ∀ x ∈ declaration.initial.numbers, x.isFinite = true
  realized : ∀ table ∈ code.realized, ∀ x ∈ table.numbers, x.isFinite = true

theorem BlockCode.isFinite_iff (code : BlockCode Float) : code.IsFinite ↔
    AllMentions Mention.IsFinite code.mentions ∧
    (∀ declaration ∈ code.fields, ∀ x ∈ declaration.initial.numbers, x.isFinite = true) ∧
      ∀ table ∈ code.realized, ∀ x ∈ table.numbers, x.isFinite = true :=
  ⟨fun finite => ⟨finite.mentions, finite.fields, finite.realized⟩,
    fun ⟨mentions, fields, realized⟩ => ⟨mentions, fields, realized⟩⟩

theorem isFinite_sign {signs : List Float} (finite : ∀ x ∈ signs, x.isFinite = true) (port : Int) :
    (Payload.sign signs port).isFinite = true := by
  have one : (1.0 : Float).isFinite = true := by decide
  cases port with
  | negSucc _ => exact one
  | ofNat place =>
      change (signs.getD place 1.0).isFinite = true
      rw [List.getD_eq_getElem?_getD]
      cases found : signs[place]? with
      | none => exact one
      | some x => exact finite x (List.mem_of_getElem? found)

theorem isFinite_zipIdx_iff {items : List Float} :
    (∀ pair ∈ items.zipIdx, pair.1.isFinite = true) ↔ ∀ x ∈ items, x.isFinite = true := by
  have same := List.forall_mem_map (f := Prod.fst) (l := items.zipIdx)
    (P := fun x : Float => x.isFinite = true)
  rw [List.zipIdx_map_fst] at same
  exact same.symm

/-- The code of a transfer function has finite numbers exactly if its model has. -/
theorem isFinite_modelCode_iff {handle : Nat} {model : StateSpace Float} {u : Term Float}
    (shape : model.HasShape) (input : AllMentions Mention.IsFinite u.mentions) :
    (modelCode handle model u).IsFinite ↔
      ∀ x ∈ model.a.flatten ++ model.b ++ model.c ++ [model.d], x.isFinite = true := by
  have zero : Mention.IsFinite (.number 0.0) := (by decide : (0.0 : Float).isFinite = true)
  have direct : (model.hasFeedthrough = true → model.d.isFinite = true) ↔
      model.d.isFinite = true := by
    refine ⟨fun finite => ?_, fun finite _ => finite⟩
    by_cases direct : model.hasFeedthrough = true
    · exact finite direct
    · exact Binary64.isFinite_of_eq_zero (by simpa [StateSpace.hasFeedthrough, bne] using direct)
  unfold modelCode
  split
  · next isGain =>
      have order : model.order = 0 := beq_iff_eq.mp isGain
      have a : model.a = [] := List.eq_nil_of_length_eq_zero (shape.length_a.trans order)
      have b : model.b = [] := List.eq_nil_of_length_eq_zero order
      have c : model.c = [] := List.eq_nil_of_length_eq_zero (shape.length_c.trans order)
      simp [BlockCode.isFinite_iff, BlockCode.ofValue, BlockCode.mentions, input, a, b, c]
  · simp only [BlockCode.isFinite_iff, BlockCode.mentions, allMentions_append,
      allMentions_modelOutput_iff zero, Mention.IsFinite, input, and_true, direct,
      List.forall_mem_append, List.forall_mem_singleton]
    rw [isFinite_zipIdx_iff]
    simp [input, Realized.numbers, Initial.numbers]
    tauto

/-- The code of a recurrence has finite numbers exactly if its coefficients are. -/
theorem isFinite_recurrenceCode_iff {handle : Nat} {model : Recurrence Float} {period : Float}
    {u : Term Float} (periodFinite : period.isFinite = true)
    (input : AllMentions Mention.IsFinite u.mentions) :
    (recurrenceCode handle model period u).IsFinite ↔
      ∀ x ∈ model.num ++ model.den.tail, x.isFinite = true := by
  have zero : (0.0 : Float).isFinite = true := by decide
  have tolerance : (clockTolerance : Float).isFinite = true := by decide
  have output (inputs outputs : Field) :
      AllMentions Mention.IsFinite (recurrenceOutput model inputs outputs).mentions ↔
        ∀ x ∈ model.num ++ model.den.tail, x.isFinite = true := by
    have zero : Mention.IsFinite (.number 0.0) := zero
    simp only [allMentions_recurrenceOutput_iff zero, Mention.IsFinite, and_true,
      List.forall_mem_append]
    rw [isFinite_zipIdx_iff, isFinite_zipIdx_iff]
  unfold recurrenceCode
  by_cases alone : model.den.length - 1 = 0 <;>
    simp [BlockCode.isFinite_iff, BlockCode.mentions, clocked, Initial.numbers, *]

/-- **The code of a block has finite numbers exactly if what follows from its parameters is
finite.** -/
theorem isFinite_blockCode_iff [Host] {node : Node Float} {code : BlockCode Float}
    (coded : blockCode node = .ok code) (sound : node.payload.IsSound)
    (settings : ∀ x ∈ node.payload.settings, x.isFinite = true) :
    code.IsFinite ↔ ∀ x ∈ node.payload.derived, x.isFinite = true := by
  have inputs : ∀ port, AllMentions Mention.IsFinite (input node port).mentions := by
    refine allMentions_input (fun _ _ => trivial) ?_
    simp only [Mention.IsFinite, Payload.fallback]
    split <;> decide
  have zero : (0.0 : Float).isFinite = true := by decide
  have half : (0.5 : Float).isFinite = true := by decide
  have one : (1.0 : Float).isFinite = true := by decide
  have two : (2.0 : Float).isFinite = true := by decide
  have least : (1e-6 : Float).isFinite = true := by decide
  have tolerance : (clockTolerance : Float).isFinite = true := by decide
  have noise : (largestNoise : Float).isFinite = true := by decide
  unfold blockCode at coded
  cases payload : node.payload with
  | tf num den model =>
      rw [payload] at coded sound
      cases model with
      | none =>
          cases coded
          simp [BlockCode.isFinite_iff, BlockCode.ofValue, BlockCode.mentions, Payload.derived, zero]
      | some model =>
          cases coded
          exact isFinite_modelCode_iff sound (inputs 0)
  | dtf num den ts model =>
      rw [payload] at coded settings
      cases coded
      exact isFinite_recurrenceCode_iff (settings ts List.mem_cons_self) (inputs 0)
  | delay time steps =>
      rw [payload] at coded
      obtain ⟨size, -, coded⟩ := bind_eq_ok_iff.mp coded
      cases coded
      simp [BlockCode.isFinite_iff, BlockCode.mentions, Payload.derived, Initial.numbers, inputs]
  | ddelay steps ts =>
      rw [payload] at coded settings
      obtain ⟨size, -, coded⟩ := bind_eq_ok_iff.mp coded
      cases coded
      have period := settings ts List.mem_cons_self
      simp [BlockCode.isFinite_iff, BlockCode.mentions, Payload.derived, clocked, Initial.numbers, *]
  | sum signs =>
      rw [payload] at coded settings
      cases coded
      have factor (port : Int) : (Payload.sign signs port).isFinite = true :=
        isFinite_sign settings port
      simp [BlockCode.isFinite_iff, BlockCode.ofValue, BlockCode.mentions, Payload.derived,
        allMentions_sumFrom_iff, zero, inputs, factor]
  | mult =>
      rw [payload] at coded
      cases coded
      have joins (a b : Term Float) : (Term.mul a b).mentions = a.mentions ++ b.mentions := rfl
      simp [BlockCode.isFinite_iff, BlockCode.ofValue, BlockCode.mentions, Payload.derived,
        List.foldl_map, allMentions_foldl_iff joins, one, inputs]
  | backlash width =>
      rw [payload] at coded settings
      cases coded
      have halved := Binary64.isFinite_half (settings width List.mem_cons_self)
      simp [BlockCode.isFinite_iff, BlockCode.ofFields, BlockCode.mentions, Payload.derived,
        Initial.numbers, zero, inputs, halved]
  | labelSource name =>
      rw [payload] at coded
      cases coded
      cases node.external <;>
        simp [BlockCode.isFinite_iff, BlockCode.ofValue, BlockCode.mentions, Payload.derived, inputs]
  | _ =>
      rw [payload] at coded settings
      cases coded
      simp only [Payload.settings, List.forall_mem_cons] at settings
      simp [BlockCode.isFinite_iff, BlockCode.ofValue, BlockCode.ofFields, BlockCode.mentions,
        Payload.derived, clocked, clipped, divisor, sumFrom, Initial.numbers, *]

/-! ## Programs -/

/-- The number that is mentioned, if it is one. -/
def Mention.number? {α : Type} : Mention α → Option α
  | .number value => some value
  | _ => none

/-- The numbers of a program: its variables, the entries of realized transfer functions, what its
state holds at first and the numbers in its statements. -/
def Program.numbers (program : Program Float) : List Float :=
  program.vars.map (·.2) ++ program.realized.flatMap (·.numbers) ++
    program.fields.flatMap (·.initial.numbers) ++ program.tick.mentions.filterMap (·.number?)

/-- The texts of the step, of the duration and of all numbers of a program. -/
def Program.literals (program : Program Float) : List String :=
  program.dt.quoted :: program.duration.quoted :: program.numbers.map Decimal.shortest

theorem mem_filterMap_number? {mentions : List (Mention Float)} {x : Float} :
    x ∈ mentions.filterMap (·.number?) ↔ .number x ∈ mentions := by
  rw [List.mem_filterMap]
  constructor
  · rintro ⟨mention, member, same⟩
    cases mention <;> cases same
    exact member
  · exact fun member => ⟨_, member, rfl⟩

/-- A program whose variables are finite has finite numbers exactly if the code of its blocks has. -/
theorem isFinite_numbers_iff [Host] {compiled : Compiled Float}
    {coded : List (Node Float × BlockCode Float)} {program : Program Float}
    (isProgram : IsProgramOf compiled coded program)
    (vars : ∀ var ∈ program.vars, var.2.isFinite = true) :
    (∀ x ∈ program.numbers, x.isFinite = true) ↔ ∀ item ∈ coded, item.2.IsFinite := by
  simp only [Program.numbers, List.forall_mem_append, List.forall_mem_map, mem_filterMap_number?,
    isProgram.realized_eq, isProgram.fields_eq, List.mem_flatMap]
  constructor
  · rintro ⟨⟨⟨-, realized⟩, fields⟩, tick⟩ item listed
    exact ⟨allMentions_isFinite_iff.mpr fun x member =>
        tick x (isProgram.mentions_of_code item listed _ member),
      fun declaration member x number => fields x ⟨declaration, ⟨item, listed, member⟩, number⟩,
      fun table member x number => realized x ⟨table, ⟨item, listed, member⟩, number⟩⟩
  · intro finite
    refine ⟨⟨⟨vars, ?_⟩, ?_⟩, ?_⟩
    · rintro x ⟨table, ⟨item, listed, member⟩, number⟩
      exact (finite item listed).realized table member x number
    · rintro x ⟨declaration, ⟨item, listed, member⟩, number⟩
      exact (finite item listed).fields declaration member x number
    · intro x member
      rcases isProgram.mentions_cases _ member with
        ⟨item, listed, member⟩ | ⟨handle, -, same⟩ | same
      · exact (finite item listed).mentions _ member
      · cases same
      · cases same
        decide

end Code

/-- A setting is a finite number. -/
structure Setting.IsFinite (setting : Setting Float) : Prop where
  given : setting.given.IsFiniteNumber
  number : ∀ x, setting.number = .ok x → x.isFinite = true

theorem Setting.isFinite_ofFloat {x : Float} (finite : x.isFinite = true) :
    (Setting.ofFloat x : Setting Float).IsFinite := by
  refine ⟨finite, fun y same => ?_⟩
  cases same
  exact finite

theorem Compiled.isFinite_settingOf [Host] {constants : Constants} {given : Value}
    {default setting : Setting Float} (finite : default.IsFinite)
    (set : settingOf constants given default = .ok setting) : setting.IsFinite := by
  obtain ⟨x, resolved, chosen⟩ := bind_eq_ok_iff.mp set
  have xFinite : x.isFinite = true := (Constants.failsIff_resolve constants given).of_eq_ok resolved
  split at chosen <;> cases chosen
  · exact finite
  · exact Setting.isFinite_ofFloat xFinite

namespace Code

section Compiling

variable {diagram : Diagram String} {defaultDt defaultRuntime : Setting Float}
  {before after : List Notice} {compiled : Compiled Float} {duration : Option Float} {limit : Int}
  {program : Program Float}

omit duration limit program in
/-- What a compiled diagram has resolved apart from its blocks is finite. -/
theorem isFinite_of_completes [Host] (dtFinite : defaultDt.IsFinite)
    (runtimeFinite : defaultRuntime.IsFinite)
    (compiles : Completes (Compiled.ofDiagram diagram defaultDt defaultRuntime) before compiled
      after) :
    compiled.constants.IsFinite ∧ compiled.dt.IsFinite ∧ compiled.runtime.IsFinite := by
  obtain ⟨constants, dt, runtime, payloads, resolved, rfl⟩ :=
    Compiled.completes_ofDiagram_iff.mp ⟨after, compiles⟩
  have constantsFinite :=
    (Constants.failsIff_ofVariables diagram.vars).of_eq_ok resolved.constants_eq
  exact ⟨constantsFinite, Compiled.isFinite_settingOf dtFinite resolved.dt_eq,
    Compiled.isFinite_settingOf runtimeFinite resolved.runtime_eq⟩

/-- The step, the duration and the variables of a program are finite. -/
theorem isFinite_of_generates [Host] (durationFinite : ∀ x ∈ duration, x.isFinite = true)
    (constantsFinite : compiled.constants.IsFinite) (dtFinite : compiled.dt.IsFinite)
    (runtimeFinite : compiled.runtime.IsFinite)
    (generates : Program.ofCompiled compiled duration limit = .ok program) :
    program.dt.IsFiniteNumber ∧ program.duration.IsFiniteNumber ∧
      ∀ var ∈ program.vars, var.2.isFinite = true := by
  obtain ⟨codes, -, same⟩ := bind_eq_ok_iff.mp generates
  cases same
  refine ⟨dtFinite.given, ?_, fun var listed => ?_⟩
  · cases duration with
    | none => exact runtimeFinite.given
    | some x => exact durationFinite x rfl
  · exact constantsFinite var (List.mem_filter.mp listed).1

/-- **All literals of a program are finite decimal numbers exactly if what follows from the
parameters of its blocks is finite.** -/
theorem literals_isDecimal_iff [Host] (dtFinite : defaultDt.IsFinite)
    (runtimeFinite : defaultRuntime.IsFinite)
    (durationFinite : ∀ x ∈ duration, x.isFinite = true)
    (compiles : Completes (Compiled.ofDiagram diagram defaultDt defaultRuntime) before compiled
      after)
    (generates : Program.ofCompiled compiled duration limit = .ok program) :
    (∀ text ∈ program.literals, IsDecimalLiteral text) ↔
      ∀ node ∈ compiled.nodes, ∀ x ∈ node.payload.derived, x.isFinite = true := by
  obtain ⟨coded, isProgram⟩ :=
    exists_isProgramOf (Compiled.wellFormed_of_completes compiles) generates
  obtain ⟨constantsFinite, stepFinite, timeFinite⟩ :=
    isFinite_of_completes dtFinite runtimeFinite compiles
  obtain ⟨step, time, vars⟩ :=
    isFinite_of_generates durationFinite constantsFinite stepFinite timeFinite generates
  have texts : (∀ text ∈ program.literals, IsDecimalLiteral text) ↔
      ∀ x ∈ program.numbers, x.isFinite = true := by
    simp only [Program.literals, List.forall_mem_cons, List.forall_mem_map,
      Decimal.isDecimalLiteral_shortest_iff]
    exact (and_iff_right (Value.isDecimalLiteral_quoted step)).trans
      (and_iff_right (Value.isDecimalLiteral_quoted time))
  have block {item : Node Float × BlockCode Float} (listed : item ∈ coded) :
      item.2.IsFinite ↔ ∀ x ∈ item.1.payload.derived, x.isFinite = true := by
    obtain ⟨handle, found⟩ := isProgram.exists_getElem? listed
    obtain ⟨_, -, isNode⟩ := Compiled.exists_isNodeOf compiles found
    obtain ⟨_, resolves⟩ := exists_completes_iff.mpr isNode.payload_eq
    exact isFinite_blockCode_iff (isProgram.code_eq item listed)
      (Compiled.isSound_payload compiles found)
      (Payload.ensures_isFinite_settings _ _ _ stepFinite.number _ _ _ resolves)
  have nodes : (∀ node ∈ compiled.nodes, ∀ x ∈ node.payload.derived, x.isFinite = true) ↔
      ∀ item ∈ coded, ∀ x ∈ item.1.payload.derived, x.isFinite = true := by
    simp only [← Array.mem_toList_iff, ← isProgram.nodes_eq, List.forall_mem_map]
  rw [texts, isFinite_numbers_iff isProgram vars, nodes]
  exact forall₂_congr fun _ => block

end Compiling

/-- A sweep from one frequency to another one. -/
def sweepDiagram (f0 f1 : Float) : Diagram String where
  blocks := [⟨"sweep", "chirp", [("f0", .float f0), ("f1", .float f1)]⟩]
  connections := []
  vars := []
  runtime := .null
  dt := .null
  nextId := 1

open Host.Usual

theorem literals_isDecimal_sweep : ∃ compiled after program,
    Compiled.standardDt.IsFinite ∧ Compiled.standardRuntime.IsFinite ∧
      Completes (Compiled.ofDiagram (sweepDiagram 1.0 5.0) Compiled.standardDt
        Compiled.standardRuntime) [] compiled after ∧
      Program.ofCompiled compiled none 50 = .ok program ∧
      ∀ text ∈ program.literals, IsDecimalLiteral text := by
  have passes : programPasses (sweepDiagram 1.0 5.0) (fun compiled _ =>
      compiled.nodes.toList.all fun node => node.payload.derived.all (·.isFinite)) = true := by
    decide +kernel
  obtain ⟨compiled, after, program, compiles, generates, finite⟩ := exists_of_programPasses passes
  have dtFinite : Compiled.standardDt.IsFinite := Setting.isFinite_ofFloat (by decide)
  have runtimeFinite : Compiled.standardRuntime.IsFinite := Setting.isFinite_ofFloat (by decide)
  refine ⟨compiled, after, program, dtFinite, runtimeFinite, compiles, generates, ?_⟩
  rw [literals_isDecimal_iff dtFinite runtimeFinite (by simp) compiles generates]
  intro node member x derived
  have all := List.all_eq_true.mp finite node (Array.mem_toList_iff.mpr member)
  exact List.all_eq_true.mp all x derived

/-- A sweep over a finite range of frequencies may have an infinite slope in its program. -/
theorem literals_infiniteSweep : ∃ compiled after program,
    Completes (Compiled.ofDiagram (sweepDiagram (-1e308) 1e308) Compiled.standardDt
      Compiled.standardRuntime) [] compiled after ∧
      Program.ofCompiled compiled none 50 = .ok program ∧
      ∃ text ∈ program.literals, ¬ IsDecimalLiteral text := by
  have passes : programPasses (sweepDiagram (-1e308) 1e308) (fun _ program =>
      program.numbers.any (!·.isFinite)) = true := by
    decide +kernel
  obtain ⟨compiled, after, program, compiles, generates, infinite⟩ := exists_of_programPasses passes
  refine ⟨compiled, after, program, compiles, generates, ?_⟩
  obtain ⟨x, member, notFinite⟩ := List.any_eq_true.mp infinite
  refine ⟨Decimal.shortest x, ?_, ?_⟩
  · exact List.mem_cons_of_mem _ (List.mem_cons_of_mem _ (List.mem_map_of_mem member))
  · rw [Decimal.isDecimalLiteral_shortest_iff]
    simpa using notFinite

end Code

end SignalFlow
