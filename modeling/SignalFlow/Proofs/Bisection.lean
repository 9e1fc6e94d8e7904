import SignalFlow.Engine.Series

/-! # Bisection

A bisection (`InputSeries.rowsBetween`) halves a range of rows and keeps the half at whose ends the
times lie on different sides of a limit. So whatever the order of the rows, it ends between a row up
to the limit and one beyond it (`InputSeries.isBoundary_rowsBetween`). Where there is one such place
only, it ends there (`InputSeries.rowsBetween_eq`).
-/

namespace SignalFlow.InputSeries

variable {α : Type} [Scalar α] {times : Array α} {limit : α} {low high : Nat}

/-- The time of a row exceeds a limit. -/
def Exceeds (times : Array α) (limit : α) (row : Nat) : Prop := limit < times.getD row 0.0

theorem rowsBetween_of_exceeds (open_ : low < high)
    (exceeds : Exceeds times limit ((low + high) / 2)) :
    rowsBetween times limit low high = rowsBetween times limit low ((low + high) / 2) := by
  rw [rowsBetween, if_pos open_]
  exact if_pos exceeds

theorem rowsBetween_of_not_exceeds (open_ : low < high)
    (upTo : ¬ Exceeds times limit ((low + high) / 2)) :
    rowsBetween times limit low high = rowsBetween times limit ((low + high) / 2 + 1) high := by
  rw [rowsBetween, if_pos open_]
  exact if_neg upTo

/-- In a range of rows there is a boundary at a place: the row before it, if there is one in the
range, is up to a limit, and the row behind it, if there is one, exceeds the limit. -/
structure IsBoundary (times : Array α) (limit : α) (low high place : Nat) : Prop where
  low_le : low ≤ place
  le_high : place ≤ high
  before : low < place → ¬ Exceeds times limit (place - 1)
  behind : place < high → Exceeds times limit place

/-- **A bisection finds a boundary**, whatever the order of the rows. -/
theorem isBoundary_rowsBetween (ordered : low ≤ high) :
    IsBoundary times limit low high (rowsBetween times limit low high) := by
  induction low, high using rowsBetween.induct times limit with
  | case1 low high open_ middle exceeds ih =>
      rw [rowsBetween_of_exceeds open_ exceeds]
      obtain ⟨low_le, le_high, before, behind⟩ : IsBoundary times limit low ((low + high) / 2)
        (rowsBetween times limit low ((low + high) / 2)) := ih (by omega)
      refine ⟨low_le, by omega, before, fun _ => ?_⟩
      -- The place may be the middle, which exceeds the limit itself.
      rcases Nat.lt_or_eq_of_le le_high with inside | atMiddle
      · exact behind inside
      · rw [atMiddle]
        exact exceeds
  | case2 low high open_ middle upTo ih =>
      rw [rowsBetween_of_not_exceeds open_ upTo]
      obtain ⟨low_le, le_high, before, behind⟩ :
        IsBoundary times limit ((low + high) / 2 + 1) high
          (rowsBetween times limit ((low + high) / 2 + 1) high) := ih (by omega)
      refine ⟨by omega, le_high, fun _ => ?_, behind⟩
      rcases Nat.lt_or_eq_of_le low_le with inside | atMiddle
      · exact before inside
      · rw [← atMiddle, Nat.add_sub_cancel]
        exact upTo
  | case3 low high closed =>
      rw [rowsBetween, if_neg closed]
      exact ⟨Nat.le_refl _, ordered, fun less => absurd less (Nat.lt_irrefl _), fun less =>
        absurd less closed⟩

/-- A bisection ends at the place that has no row beyond the limit before it and only such rows
behind it. -/
theorem rowsBetween_eq {place : Nat} (low_le : low ≤ place) (le_high : place ≤ high)
    (before : ∀ row, row < place → ¬ Exceeds times limit row)
    (behind : ∀ row, place ≤ row → row < high → Exceeds times limit row) :
    rowsBetween times limit low high = place := by
  have found : IsBoundary times limit low high (rowsBetween times limit low high) :=
    isBoundary_rowsBetween (Nat.le_trans low_le le_high)
  rcases Nat.lt_trichotomy (rowsBetween times limit low high) place with less | same | more
  · exact absurd (found.behind (by omega)) (before _ less)
  · exact same
  · have below := found.le_high
    exact absurd (behind (rowsBetween times limit low high - 1) (by omega) (by omega))
      (found.before (by omega))

end SignalFlow.InputSeries
