import SignalFlow.Code.Syntax
import SignalFlow.Compiled.Basic

/-! # The code of blocks

For each block, the statements that a generated program runs in its place (`BlockCode`): before its
output is read, the output itself, and the update at the end of a tick. The arithmetic stands in
the order in which a run of the engine computes it, so that both round alike.
-/

namespace SignalFlow.Code

/-- The code of a block. -/
structure BlockCode (α : Type) where
  /-- The output. -/
  value : Term α
  /-- What is run before the output is read. -/
  output : List (Statement α)
  /-- What is run at the end of a tick. -/
  update : List (Statement α)
  /-- The state fields, in the order of their declaration. -/
  fields : List (Declaration α)
  /-- The realized transfer function. -/
  realized : List (Realized α)
  /-- The order of the realized transfer function, zero if there is none. -/
  order : Nat

namespace BlockCode

variable {α : Type} [Scalar α]

/-- The code of a block without a state. -/
def ofValue (value : Term α) : BlockCode α := ⟨value, [], [], [], [], 0⟩

/-- The code of a block whose fields start at zero. -/
def ofFields (value : Term α) (fields : List Field) (update : List (Statement α)) : BlockCode α :=
  ⟨value, [], update, fields.map fun field => ⟨field, .number 0.0⟩, [], 0⟩

end BlockCode

variable {α : Type} [Scalar α]

/-- The value at a port of a block. -/
def input (node : Node α) (port : Nat) : Term α :=
  match node.driver? port with
  | some driver => .output driver
  | none => .number (Payload.fallback node.kind)

/-- A value kept between two bounds. -/
def clipped (value lower upper : Term α) : Term α := .min upper (.max lower value)

/-- The step by which differences are divided. -/
def divisor : Term α := .max .step (.number 1e-6)

/-- The sum of some terms, added one after the other to a first one. -/
def sumFrom (first : Term α) (terms : List (Term α)) : Term α := terms.foldl .add first

/-- Statements that are run when the clock of a field fires, which moves on by a period. -/
def clocked (next : Field) (period : α) (body : List (Statement α)) : List (Statement α) :=
  [.when (.compare .ge (.add .time (.number clockTolerance)) (.field next))
    (body ++ [.increase next (.number period)])]

/-- The comparison by which a switch chooses. -/
def relationOf : Condition → Relation
  | .ge => .ge
  | .gt => .gt
  | .ne => .ne

/-- The output of a transfer function in the state of a field. -/
def modelOutput (model : StateSpace α) (state : Field) (u : Term α) : Term α :=
  let terms := model.c.zipIdx.map fun (factor, place) =>
    Term.mul (.number factor) (.item state (.at place))
  let terms := if model.hasFeedthrough then terms ++ [.mul (.number model.d) u] else terms
  .grouped (sumFrom (terms.headD (.number 0.0)) terms.tail)

/-- The code of a transfer function with a model. -/
def modelCode (handle : Nat) (model : StateSpace α) (u : Term α) : BlockCode α :=
  if model.order == 0 then .ofValue (.mul (.number model.d) u)
  else
    let state : Field := ⟨.tfState, handle⟩
    { value := modelOutput model state u
      output := []
      update := [.rungeKutta state handle model.order u]
      fields := [⟨state, .zeros model.order⟩]
      realized := [.matrix handle model.a, .vector handle model.b]
      order := model.order }

/-- The next output of a recurrence over the arrays of past inputs and outputs. -/
def recurrenceOutput (model : Recurrence α) (inputs outputs : Field) : Term α :=
  let forward := model.num.zipIdx.foldl (fun sum (factor, place) =>
    Term.add sum (.mul (.number factor) (.item inputs (.at place)))) (.number 0.0)
  model.den.tail.zipIdx.foldl (fun sum (factor, place) =>
    Term.sub sum (.mul (.number factor) (.item outputs (.at place)))) forward

/-- The code of a recurrence. An empty array of past outputs is left out. -/
def recurrenceCode (handle : Nat) (model : Recurrence α) (period : α) (u : Term α) : BlockCode α :=
  let inputs : Field := ⟨.inputHistory, handle⟩
  let outputs : Field := ⟨.outputHistory, handle⟩
  let last : Field := ⟨.last, handle⟩
  let next : Field := ⟨.next, handle⟩
  let size := model.num.length
  let past := model.den.length - 1
  let result : Term α := .localValue (.result handle)
  let remember : List (Statement α) := if past == 0 then [] else
    [.shiftRight outputs past, .store (.item outputs 0) result]
  { value := .field last
    output := []
    update := clocked next period
      ([.shiftRight inputs size, .store (.item inputs 0) u,
        .define (.result handle) (recurrenceOutput model inputs outputs)] ++
        remember ++ [.store (.field last) result])
    fields := [⟨inputs, .zeros size⟩] ++
      (if past == 0 then [] else [⟨outputs, .zeros past⟩]) ++
      [⟨last, .number 0.0⟩, ⟨next, .number 0.0⟩]
    realized := []
    order := 0 }

/-- The code of a block. A buffer longer than an array can be has none. -/
def blockCode [Host] (node : Node α) : Except Fault (BlockCode α) :=
  let h := node.handle
  let u := input node 0
  let field (role : Role) : Field := ⟨role, h⟩
  let read (role : Role) : Term α := .field (field role)
  let store (role : Role) (value : Term α) : Statement α := .store (.field (field role)) value
  match node.payload with
  | .constant value => .ok (.ofValue (.number value))
  | .step stepTime =>
      .ok (.ofValue (.choice .ge .time (.number stepTime) (.number 1.0) (.number 0.0)))
  | .ramp slope start => .ok (.ofValue (.choice .lt .time (.number start) (.number 0.0)
      (.mul (.sub .time (.number start)) (.number slope))))
  | .impulse instant amp => .ok (.ofValue (.choice .le (.abs (.sub .time (.number instant)))
      (.div .step (.number 2.0)) (.div (.number amp) divisor) (.number 0.0)))
  | .sine amp freq phase =>
      let turn := Term.mul (.mul (.number 2.0) .pi) (.number freq)
      .ok (.ofValue (.mul (.number amp) (.sin (.add (.mul turn .time) (.number phase)))))
  | .chirp amp f0 _ _ slope =>
      let bend := Term.mul (.mul (.mul (.number 0.5) (.number slope)) .time) .time
      .ok (.ofValue (.mul (.number amp) (.sin (.mul (.mul (.number 2.0) .pi)
        (.add (.mul (.number f0) .time) bend)))))
  | .noise amp seed =>
      let fraction := Term.grouped (.div (read .rng) (.number largestNoise))
      .ok { value := .mul (.number amp) (.sub (.mul fraction (.number 2.0)) (.number 1.0))
            output := [.drawNoise (field .rng)]
            update := []
            fields := [⟨field .rng, .seed seed⟩]
            realized := []
            order := 0 }
  | .gain factor => .ok (.ofValue (.mul u (.number factor)))
  | .sum signs => .ok (.ofValue (.grouped (sumFrom (.number 0.0) (node.ports.map fun port =>
      .mul (input node port) (.number (Payload.sign signs port))))))
  | .mult => .ok (.ofValue (.grouped ((node.ports.map (input node)).foldl .mul (.number 1.0))))
  | .saturation lower upper => .ok (.ofValue (clipped u (.number lower) (.number upper)))
  | .switch threshold condition => .ok (.ofValue (.choice (relationOf condition) (input node 1)
      (.number threshold) u (input node 2)))
  | .integrator initial =>
      .ok { value := read .x
            output := []
            update := [.increase (field .x) (.mul u .step)]
            fields := [⟨field .x, .number initial⟩]
            realized := []
            order := 0 }
  | .derivative => .ok (.ofFields (read .out) [field .prev, field .out]
      [store .out (.div (.sub u (read .prev)) divisor), store .prev u])
  | .delay _ steps => do
      let size := steps + 1
      let _ ← bufferLength size
      .ok { value := .item (field .buf) (.cursor (field .idx))
            output := []
            update := [.store (.ahead (field .buf) (field .idx) steps size) u,
              .advance (field .idx) size]
            fields := [⟨field .buf, .zeros size⟩, ⟨field .idx, .cursor⟩]
            realized := []
            order := 0 }
  | .rate rise fall => .ok (.ofFields (read .y) [field .y]
      [store .y (clipped u (.sub (read .y) (.mul (.number fall) .step))
        (.add (read .y) (.mul (.number rise) .step)))])
  | .backlash width =>
      let half : Term α := .number (width / 2.0)
      .ok (.ofFields (read .y) [field .y]
        [.when (.compare .gt u (.add (read .y) half)) [store .y (.sub u half)],
          .when (.compare .lt u (.sub (read .y) half)) [store .y (.add u half)]])
  | .lpf _ wc => .ok (.ofFields (read .x) [field .x]
      [.increase (field .x) (.mul (.mul .step (.number wc)) (.sub u (read .x)))])
  | .hpf _ wc => .ok (.ofFields (read .out) [field .x, field .out]
      [.increase (field .x) (.mul (.mul .step (.number wc)) (.sub u (read .x))),
        store .out (.sub u (read .x))])
  | .pid kp ki kd =>
      let rate := Local.rate h
      let effort := sumFrom (.mul (.number kp) u) [.mul (.number ki) (read .integral),
        .mul (.number kd) (.localValue rate)]
      .ok (.ofFields (read .out) [field .integral, field .prev, field .out]
        [.increase (field .integral) (.mul u .step),
          .define rate (.div (.sub u (read .prev)) divisor),
          store .out effort, store .prev u])
  | .tf _ _ none => .ok { BlockCode.ofValue (.number 0.0) with
      output := [.comment "zero denominator: no realization, outputs 0.0"] }
  | .tf _ _ (some model) => .ok (modelCode h model u)
  | .stateSpace a b c d => .ok (.ofFields (read .out) [field .x, field .out]
      [.increase (field .x) (.mul .step (.add (.mul (.number a) (read .x)) (.mul (.number b) u))),
        store .out (.add (.mul (.number c) (read .x)) (.mul (.number d) u))])
  | .ddelay steps ts => do
      let _ ← bufferLength steps
      .ok { value := read .last
            output := []
            update := clocked (field .next) ts
              [.shiftLeft (field .buf) steps, .store (.item (field .buf) (steps - 1)) u,
                store .last (.item (field .buf) (.at 0))]
            fields := [⟨field .buf, .zeros steps⟩, ⟨field .last, .number 0.0⟩,
              ⟨field .next, .number 0.0⟩]
            realized := []
            order := 0 }
  | .zoh ts => .ok (.ofFields (read .held) [field .held, field .next]
      (clocked (field .next) ts [store .held u]))
  | .foh ts => .ok (.ofFields (.add (read .last) (.mul (read .slope)
        (.sub .time (read .lastTime))))
      [field .prev, field .last, field .lastTime, field .slope, field .next]
      (clocked (field .next) ts [store .prev (read .last), store .last u,
        store .lastTime .time,
        store .slope (.div (.sub (read .last) (read .prev)) (.number ts))]))
  | .dtf _ _ ts model => .ok (recurrenceCode h model ts u)
  | .dstateSpace a b c d ts => .ok (.ofFields (read .out) [field .x, field .out, field .next]
      (clocked (field .next) ts
        [store .x (.add (.mul (.number a) (read .x)) (.mul (.number b) u)),
          store .out (.add (.mul (.number c) (read .x)) (.mul (.number d) u))]))
  | .labelSource name =>
      .ok (.ofValue (if node.external then .external (node.label.getD name) else u))
  | .labelSink _ | .scope _ | .fileSink _ => .ok (.ofValue u)
  | .unsupported => .ok { BlockCode.ofValue (.number 0.0) with
      output := [.comment s!"unsupported block type '{node.type}': outputs 0.0"] }

end SignalFlow.Code
