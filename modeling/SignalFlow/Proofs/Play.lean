import SignalFlow.Host.Usual
import SignalFlow.Proofs.Sampled.Schedule
import Mathlib.Algebra.Order.Ring.Rat
import Mathlib.Order.Interval.Set.UnorderedInterval
import Mathlib.Tactic.Linarith
import Mathlib.Tactic.NormNum

/-! # The play

A play holds its position while the input stays within its band and is dragged along at the edge of
the band otherwise, so its new position is the old one, brought into the band around the input
(`Payload.drag_eq_clamp`). As that grows with both of them, a play that the input moves from one
value to another passes only through positions between the first one and the last
(`Payload.drag_mem_uIcc`), whatever the input does in between, as long as it stays between the two
values. So what a play does depends on the turning points of its input, not on how finely it is
sampled between them (`Payload.backlash_plays`). All this is about exact arithmetic.
-/

namespace SignalFlow

namespace Schedule

/-- One schedule goes through the inputs of another one, with further inputs between them: tick
after tick of the coarse schedule is found at a place in the fine one, and between two such places
the inputs stay between the inputs there. Before the first place there is only the first input. -/
structure Refines (fine coarse : Schedule Rat) (place : Nat → Nat) : Prop where
  increasing (tick : Nat) : place tick < place (tick + 1)
  same (tick : Nat) : fine.input (place tick) = coarse.input tick
  first {tick : Nat} (early : tick ≤ place 0) : fine.input tick = coarse.input 0
  between {tick other : Nat} (after : place tick ≤ other) (before : other ≤ place (tick + 1)) :
    fine.input other ∈ Set.uIcc (coarse.input tick) (coarse.input (tick + 1))

/-- A schedule with a further tick. -/
def insertAt {α : Type} (schedule : Schedule α) (place : Nat) (time : α) (inputs : Inputs α) :
    Schedule α where
  step := schedule.step
  time tick :=
    if tick < place then schedule.time tick
    else if tick = place then time else schedule.time (tick - 1)
  inputs tick :=
    if tick < place then schedule.inputs tick
    else if tick = place then inputs else schedule.inputs (tick - 1)

theorem input_insertAt {α : Type} [Scalar α] (schedule : Schedule α) (place : Nat) (time : α)
    (inputs : Inputs α) (tick : Nat) : (schedule.insertAt place time inputs).input tick =
      if tick < place then schedule.input tick
      else if tick = place then Inputs.value inputs 0 else schedule.input (tick - 1) := by
  simp only [input, insertAt]
  split_ifs <;> rfl

/-- A further input that lies between two successive ones makes a schedule finer. -/
theorem refines_insertAt {schedule : Schedule Rat} {place : Nat} {inputs : Inputs Rat}
    (between : Inputs.value inputs 0 ∈
      Set.uIcc (schedule.input place) (schedule.input (place + 1))) (time : Rat) :
    (schedule.insertAt (place + 1) time inputs).Refines schedule
      fun tick => if tick ≤ place then tick else tick + 1 where
  increasing tick := by split_ifs <;> omega
  same tick := by
    rw [input_insertAt]
    split_ifs <;> first | rfl | omega
  first {tick} early := by
    have start : tick = 0 := by simpa using early
    rw [start, input_insertAt, if_pos (Nat.succ_pos place)]
  between {tick other} after before := by
    rw [input_insertAt]
    rcases lt_trichotomy other (place + 1) with early | rfl | late
    · rw [if_pos early]
      have which : other = tick ∨ other = tick + 1 := by
        split_ifs at after before <;> omega
      rcases which with rfl | rfl
      · exact Set.left_mem_uIcc
      · exact Set.right_mem_uIcc
    · rw [if_neg (lt_irrefl _), if_pos rfl]
      have here : tick = place := by
        split_ifs at after before <;> omega
      rw [here]
      exact between
    · rw [if_neg late.not_gt, if_neg late.ne']
      have which : other - 1 = tick ∨ other - 1 = tick + 1 := by
        split_ifs at after before <;> omega
      rcases which with same | same
      · rw [same]
        exact Set.left_mem_uIcc
      · rw [same]
        exact Set.right_mem_uIcc

end Schedule

namespace Payload

/-! ## Dragging -/

section Drag

variable {width y y' u u' v held next : Rat}

/-- A play that is dragged is brought into the band around the input. -/
theorem drag_eq_clamp (nonneg : 0 ≤ width) (y u : Rat) :
    drag width y u = max (u - width / 2) (min (u + width / 2) y) := by
  have two : (2.0 : Rat) = 2 := by norm_num
  unfold drag
  simp only [two]
  rcases lt_or_ge (y + width / 2) u with above | inside
  · rw [if_pos above, if_neg (by linarith), min_eq_right (by linarith), max_eq_left (by linarith)]
  · rw [if_neg (not_lt.mpr inside)]
    rcases lt_or_ge u (y - width / 2) with below | inside
    · rw [if_pos below, min_eq_left (by linarith), max_eq_right (by linarith)]
    · rw [if_neg (not_lt.mpr inside), min_eq_right (by linarith), max_eq_right (by linarith)]

theorem abs_sub_drag_le (nonneg : 0 ≤ width) (y u : Rat) : |u - drag width y u| ≤ width / 2 := by
  rw [drag_eq_clamp nonneg, abs_le]
  constructor
  · have upper : max (u - width / 2) (min (u + width / 2) y) ≤ u + width / 2 :=
      max_le (by linarith) (min_le_left _ _)
    linarith
  · have lower : u - width / 2 ≤ max (u - width / 2) (min (u + width / 2) y) := le_max_left _ _
    linarith

/-- Within the band a play holds its position. -/
theorem drag_eq_self (inside : |u - y| ≤ width / 2) : drag width y u = y := by
  have nonneg : 0 ≤ width := by linarith [abs_nonneg (u - y)]
  obtain ⟨lower, upper⟩ := abs_le.mp inside
  rw [drag_eq_clamp nonneg, min_eq_right (by linarith), max_eq_right (by linarith)]

theorem drag_drag (nonneg : 0 ≤ width) (y u : Rat) :
    drag width (drag width y u) u = drag width y u :=
  drag_eq_self (abs_sub_drag_le nonneg y u)

theorem drag_mono (nonneg : 0 ≤ width) (lower : y ≤ y') (below : u ≤ u') :
    drag width y u ≤ drag width y' u' := by
  rw [drag_eq_clamp nonneg, drag_eq_clamp nonneg]
  exact max_le_max (by linarith) (min_le_min (by linarith) lower)

/-- A play that has been dragged towards where an input would take it is still taken there. -/
theorem drag_of_mem_uIcc (nonneg : 0 ≤ width) (between : held ∈ Set.uIcc y (drag width y next)) :
    drag width held next = drag width y next := by
  have settled := drag_drag nonneg y next
  rcases Set.mem_uIcc.mp between with ⟨lower, upper⟩ | ⟨lower, upper⟩
  · apply le_antisymm
    · rw [← settled]
      exact drag_mono nonneg upper le_rfl
    · exact drag_mono nonneg lower le_rfl
  · apply le_antisymm
    · exact drag_mono nonneg upper le_rfl
    · rw [← settled]
      exact drag_mono nonneg lower le_rfl

/-- On the way from one input to another a play stays between where it is and where it is taken. -/
theorem drag_mem_uIcc (nonneg : 0 ≤ width) (settled : drag width y u = y)
    (between : v ∈ Set.uIcc u next) (inside : held ∈ Set.uIcc y (drag width y next)) :
    drag width held v ∈ Set.uIcc y (drag width y next) := by
  have taken := drag_drag nonneg y next
  rcases le_total u next with rising | falling
  · have forward : y ≤ drag width y next :=
      settled.symm.trans_le (drag_mono nonneg le_rfl rising)
    rw [Set.uIcc_of_le rising] at between
    rw [Set.uIcc_of_le forward] at inside ⊢
    constructor
    · exact settled.symm.trans_le (drag_mono nonneg inside.1 between.1)
    · exact (drag_mono nonneg inside.2 between.2).trans_eq taken
  · have back : drag width y next ≤ y :=
      (drag_mono nonneg le_rfl falling).trans_eq settled
    rw [Set.uIcc_of_ge falling] at between
    rw [Set.uIcc_of_ge back] at inside ⊢
    constructor
    · exact taken.symm.trans_le (drag_mono nonneg inside.1 between.1)
    · exact (drag_mono nonneg inside.2 between.2).trans_eq settled

end Drag

/-! ## Positions -/

section Positions

variable {α : Type} [Scalar α]

/-- The position of a play before a tick. -/
def position (width : α) (schedule : Schedule α) : Nat → α
  | 0 => 0.0
  | tick + 1 => drag width (position width schedule tick) (schedule.input tick)

theorem stateAt_backlash [Host] (width : α) (schedule : Schedule α) (tick : Nat) :
    (backlash width).stateAt schedule tick = .ok (.backlash (position width schedule tick)) := by
  induction tick with
  | zero => rfl
  | succ tick ih => exact stateAt_succ ih rfl

theorem outputAt_backlash [Host] (width : α) (schedule : Schedule α) (tick : Nat) :
    (backlash width).outputAt schedule tick = .ok (position width schedule tick) :=
  outputAt_eq (stateAt_backlash width schedule tick) rfl

end Positions

section Sampling

variable {width : Rat} {fine coarse : Schedule Rat} {place : Nat → Nat}

/-- The first input takes a play to its place at once, if it is read again or not. -/
theorem position_of_le_first (nonneg : 0 ≤ width) (refines : fine.Refines coarse place) {tick : Nat}
    (early : tick ≤ place 0) : position width fine (tick + 1) = position width coarse 1 := by
  induction tick with
  | zero =>
      rw [position, position, refines.first early]
      rfl
  | succ tick ih =>
      rw [position, ih (by omega), refines.first early]
      exact drag_drag nonneg _ _

/-- In a finer schedule a play has come to the same place when the same input has been read. -/
theorem position_of_refines (nonneg : 0 ≤ width) (refines : fine.Refines coarse place)
    (tick : Nat) : position width fine (place tick + 1) = position width coarse (tick + 1) := by
  induction tick with
  | zero => exact position_of_le_first nonneg refines le_rfl
  | succ tick ih =>
      let y := position width coarse (tick + 1)
      let next := coarse.input (tick + 1)
      have settled : drag width y (coarse.input tick) = y := drag_drag nonneg _ _
      have onTheWay : ∀ other, place tick + 1 ≤ other → other ≤ place (tick + 1) →
          position width fine other ∈ Set.uIcc y (drag width y next) := by
        intro other after before
        induction other, after using Nat.le_induction with
        | base =>
            rw [ih]
            exact Set.left_mem_uIcc
        | succ other after inner =>
            exact drag_mem_uIcc nonneg settled (refines.between (by omega) (by omega))
              (inner (by omega))
      have arrived := onTheWay (place (tick + 1)) (refines.increasing tick) le_rfl
      rw [position, refines.same]
      exact drag_of_mem_uIcc nonneg arrived

/-- A further input between two successive ones does not matter once the second one is read. -/
theorem position_insertAt (nonneg : 0 ≤ width) {schedule : Schedule Rat} {step tick : Nat}
    {inputs : Inputs Rat} (between : Inputs.value inputs 0 ∈
      Set.uIcc (schedule.input step) (schedule.input (step + 1))) (time : Rat)
    (later : step + 1 < tick) :
    position width (schedule.insertAt (step + 1) time inputs) (tick + 1) =
      position width schedule tick := by
  obtain ⟨earlier, rfl⟩ := Nat.exists_eq_add_one_of_ne_zero (Nat.ne_zero_of_lt later)
  have arrived := position_of_refines nonneg (Schedule.refines_insertAt between time) earlier
  rwa [if_neg (by omega)] at arrived

/-- An input that is read again does not matter at all. -/
theorem position_insertAt_of_eq (nonneg : 0 ≤ width) {schedule : Schedule Rat} {step tick : Nat}
    {inputs : Inputs Rat} (again : Inputs.value inputs 0 = schedule.input step) (time : Rat)
    (later : step < tick) :
    position width (schedule.insertAt (step + 1) time inputs) (tick + 1) =
      position width schedule tick := by
  have between : Inputs.value inputs 0 ∈
      Set.uIcc (schedule.input step) (schedule.input (step + 1)) := by
    rw [again]
    exact Set.left_mem_uIcc
  rcases Nat.eq_or_lt_of_le later with rfl | later
  · have arrived := position_of_refines nonneg (Schedule.refines_insertAt between time) step
    rw [if_pos le_rfl] at arrived
    rw [position, arrived, Schedule.input_insertAt, if_neg (lt_irrefl _), if_pos rfl, again]
    exact drag_drag nonneg _ _
  · exact position_insertAt nonneg between time later

end Sampling

theorem max_zero_nonneg (raw : Rat) : 0 ≤ Scalar.max 0.0 raw := by
  have zero : (0.0 : Rat) = 0 := by norm_num
  unfold Scalar.max
  split
  · rename_i positive
    rw [zero] at positive
    exact positive.le
  · exact zero.ge

/-- **A backlash is a play**, whatever its width; a block takes zero for a negative one. After it
has read an input, its output lies within half the width of it, and it has not moved if it lay there
already. In a finer schedule its outputs are the same once the same input of the coarse one has been
read. In particular a further input between two successive ones changes no output after the second
one has been read, and reading an input again changes none at all. -/
theorem backlash_plays [Host] (raw : Rat) :
    let block : Payload Rat := .backlash (Scalar.max 0.0 raw)
    (∀ schedule tick, ∃ y after,
      block.outputAt schedule tick = .ok y ∧ block.outputAt schedule (tick + 1) = .ok after ∧
        |schedule.input tick - after| ≤ Scalar.max 0.0 raw / 2 ∧
        (|schedule.input tick - y| ≤ Scalar.max 0.0 raw / 2 → after = y)) ∧
    (∀ fine coarse place, Schedule.Refines fine coarse place →
      ∀ tick, block.outputAt fine (place tick + 1) = block.outputAt coarse (tick + 1)) ∧
    (∀ schedule step time inputs,
      Inputs.value inputs 0 ∈ Set.uIcc (schedule.input step) (schedule.input (step + 1)) →
        ∀ tick, step + 1 < tick →
          block.outputAt (schedule.insertAt (step + 1) time inputs) (tick + 1) =
            block.outputAt schedule tick) ∧
    ∀ schedule step time inputs, Inputs.value inputs 0 = schedule.input step →
      ∀ tick, step < tick →
        block.outputAt (schedule.insertAt (step + 1) time inputs) (tick + 1) =
          block.outputAt schedule tick := by
  intro block
  have nonneg : 0 ≤ Scalar.max 0.0 raw := max_zero_nonneg raw
  simp only [block, outputAt_backlash, Except.ok.injEq]
  refine ⟨fun schedule tick => ?_, ?_, ?_, ?_⟩
  · exact ⟨_, _, rfl, rfl, abs_sub_drag_le nonneg _ _, drag_eq_self⟩
  · exact fun fine coarse place refines => position_of_refines nonneg refines
  · exact fun schedule step time inputs between tick => position_insertAt nonneg between time
  · exact fun schedule step time inputs again tick => position_insertAt_of_eq nonneg again time

open Host.Usual

/-- A play of width two on a ramp that is sampled twice as finely, and on an input that goes to and
fro, with a further value on the way back and one that is read again. -/
theorem backlash_plays_ramp :
    let play : Payload Rat := .backlash (Scalar.max 0.0 2)
    let coarse : Schedule Rat := .driving 0 1 fun tick => tick
    let fine : Schedule Rat := .driving 0 1 fun tick => tick / 2
    let swing : Schedule Rat := .driving 0 1 fun tick => if tick = 1 then 5 else 0
    let slower := swing.insertAt 2 0 [(0, 3)]
    let again := swing.insertAt 2 0 [(0, 5)]
    (fine.Refines coarse fun tick => 2 * tick) ∧
      (∀ tick, play.outputAt fine (2 * tick + 1) = play.outputAt coarse (tick + 1)) ∧
      (List.range 5).map (fun tick => (play.outputAt swing tick).toOption) =
        [some 0, some 0, some 4, some 1, some 1] ∧
      (List.range 6).map (fun tick => (play.outputAt slower tick).toOption) =
        [some 0, some 0, some 4, some 4, some 1, some 1] ∧
      (∀ tick, 2 < tick → play.outputAt slower (tick + 1) = play.outputAt swing tick) ∧
      ∀ tick, 1 < tick → play.outputAt again (tick + 1) = play.outputAt swing tick := by
  intro play coarse fine swing slower again
  have refines : fine.Refines coarse fun tick => 2 * tick := by
    constructor
    · intro tick
      omega
    · intro tick
      change ((2 * tick : Nat) : Rat) / 2 = tick
      push_cast
      linarith
    · intro tick early
      obtain rfl : tick = 0 := by omega
      change ((0 : Nat) : Rat) / 2 = (0 : Nat)
      norm_num
    · intro tick other after before
      change (other : Rat) / 2 ∈ Set.uIcc (tick : Rat) ((tick + 1 : Nat) : Rat)
      have lower : ((2 * tick : Nat) : Rat) ≤ other := Nat.cast_le.mpr after
      have upper : (other : Rat) ≤ ((2 * (tick + 1) : Nat) : Rat) := Nat.cast_le.mpr before
      push_cast at lower upper ⊢
      exact Set.mem_uIcc_of_le (by linarith) (by linarith)
  obtain ⟨-, resampled, inserted, repeated⟩ := backlash_plays 2
  refine ⟨refines, resampled _ _ _ refines, by decide +kernel, by decide +kernel, ?_, ?_⟩
  · exact inserted swing 1 0 [(0, 3)] (Set.mem_uIcc_of_ge (by decide +kernel) (by decide +kernel))
  · exact repeated swing 1 0 [(0, 5)] (by decide +kernel)

end Payload

end SignalFlow
