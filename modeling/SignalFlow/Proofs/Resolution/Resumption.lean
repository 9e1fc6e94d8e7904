import SignalFlow.Host.Usual
import SignalFlow.Proofs.Alike
import SignalFlow.Proofs.Resolution.FixedPoint

/-! # Resolving with different limits

Passes do not know the limit under which they are made. So passes with a limit go on as passes with a
larger one do (`Compiled.settleFrom_add`), and resolving with a larger limit either ends where it
ends with the smaller one, or goes on from there without settling the mirrors anew
(`Compiled.resolve_resumes`). Once a pass makes no progress, no later one does.
-/

namespace SignalFlow.Compiled

variable {α : Type} [Scalar α] {compiled : Compiled α}

/-! ## Going on at a limit -/

/-- Passes with some room and then with more are passes with all of that room. -/
theorem settleFrom_add (passes few more : Nat) :
    compiled.settleFrom passes (few + more) = (do
      let resolution ← compiled.settleFrom passes few
      if resolution.converged then return resolution
      else compiled.settleFrom resolution.passes more) := by
  induction few generalizing passes with
  | zero => simp [settleFrom]
  | succ few ih =>
      have number : few + 1 + more = few + more + 1 := by omega
      rw [number, settleFrom, settleFrom, bind_assoc]
      congr 1
      funext progress
      cases progress with
      | false => simp
      | true => simpa using ih (passes + 1)

/-- Resolving with a larger limit resolves with a smaller one and goes on if that is reached. -/
theorem resolve_add (few more : Nat) :
    compiled.resolve (few + more) = (do
      let resolution ← compiled.resolve few
      if resolution.converged then return resolution
      else compiled.settleFrom resolution.passes more) := by
  unfold resolve
  rw [bind_assoc]
  congr 1
  funext _
  split
  · simp
  · exact settleFrom_add 0 few more

/-- How resolving with a larger limit ends is determined by the resolution with a smaller one. -/
theorem outcome_resolve_of_le {few many : Nat} (le : few ≤ many) {state final : RunState α}
    {resolution : Resolution} (resolves : Completes (compiled.resolve few) state resolution final) :
    outcome (compiled.resolve many) state =
      if resolution.converged then (.ok resolution, final)
      else outcome (compiled.settleFrom resolution.passes (many - few)) final := by
  obtain ⟨more, rfl⟩ := Nat.exists_eq_add_of_le le
  rw [resolve_add, resolves.outcome_bind, Nat.add_sub_cancel_left]
  split <;> rfl

/-! ## Passes without progress -/

section Still

variable (wellFormed : compiled.WellFormed)
include wellFormed

/-- A pass that reports no progress leaves the state as it is. -/
theorem eq_of_completes_pass {state after : RunState α}
    (still : Completes compiled.pass state false after) :
    after = state ∧ compiled.hasProgress state = false := by
  obtain ⟨noProgress, rfl⟩ := still.unique (completes_pass wellFormed state)
  exact ⟨passed_of_not_hasProgress noProgress.symm, noProgress.symm⟩

/-- Where a pass makes no progress, all passes leave the state as it is. -/
theorem completes_passTimes_of_not_hasProgress {state : RunState α}
    (still : compiled.hasProgress state = false) (count : Nat) :
    Completes (compiled.passTimes count) state () state := by
  have passes := completes_passTimes wellFormed count state
  rwa [Function.iterate_fixed (passed_of_not_hasProgress still)] at passes

end Still

/-! ## Limits -/

/-- **A larger limit changes nothing but that more passes may follow.** A pass without progress and
all passes after it leave the state as it is. If resolving with the smaller limit converges, it does
so with the larger one, with the same report and in the same state; else its state is that after as
many passes as the limit allows, and resolving with the larger limit goes on from there. -/
theorem resolve_resumes [Host] {diagram : Diagram String} {defaultDt defaultRuntime : Setting α}
    {before after : List Notice}
    (compiles : Completes (ofDiagram diagram defaultDt defaultRuntime) before compiled after)
    {few many : Nat} (le : few ≤ many) (state : RunState α) :
    (∀ still next, Completes compiled.pass still false next → next = still ∧
      ∀ count, Completes (compiled.passTimes count) next () next ∧
        Completes compiled.pass next false next) ∧
    ∃ resolution final, Completes (compiled.resolve few) state resolution final ∧
      (resolution.converged = true → Completes (compiled.resolve many) state resolution final) ∧
      (resolution.converged = false → resolution.passes = few ∧
        (∃ seeded, Completes compiled.seedLoop state () seeded ∧
          Completes (compiled.passTimes few) seeded () final) ∧
        outcome (compiled.resolve many) state =
          outcome (compiled.settleFrom few (many - few)) final) := by
  have wellFormed := wellFormed_of_completes compiles
  constructor
  · intro still next passes
    obtain ⟨rfl, noProgress⟩ := eq_of_completes_pass wellFormed passes
    exact ⟨rfl, fun count =>
      ⟨completes_passTimes_of_not_hasProgress wellFormed noProgress count, passes⟩⟩
  · rcases completes_resolve wellFormed few state with
      ⟨_, _, -, -, -, resolves⟩ | ⟨-, resolves⟩
    · exact ⟨_, _, resolves, fun _ => outcome_resolve_of_le le resolves, nofun⟩
    · refine ⟨_, _, resolves, nofun, fun _ => ⟨rfl, ?_, ?_⟩⟩
      · exact ⟨_, completes_seedLoop state, completes_passTimes wellFormed few _⟩
      · exact outcome_resolve_of_le le resolves

/-- A constant gets from label to label, one further in each pass. -/
def handedDiagram : Diagram String where
  blocks := [⟨"third", "labelSource", [("name", .text "c")]⟩,
    ⟨"second", "labelSource", [("name", .text "b")]⟩,
    ⟨"first", "labelSource", [("name", .text "a")]⟩, ⟨"x", "constant", []⟩,
    ⟨"a", "labelSink", []⟩, ⟨"b", "labelSink", []⟩, ⟨"c", "labelSink", []⟩]
  connections := [⟨"x", "a", 0, 0⟩, ⟨"first", "b", 0, 0⟩, ⟨"second", "c", 0, 0⟩]
  vars := []
  runtime := .null
  dt := .null
  nextId := 1

open Host.Usual

/-- Three passes are too few, the fourth makes no progress, and more room changes nothing. -/
theorem resolve_resumes_handedDiagram :
    ∃ (compiled : Compiled Rat) (after : List Notice) (start opened : RunState Rat),
      Completes (ofDiagram handedDiagram standardDt standardRuntime) [] compiled after ∧
      RunState.create compiled = .ok start ∧
      Completes (compiled.outputPhase []) start.clear () opened ∧ 3 ≤ 9 ∧ 9 ≤ 100 ∧
      ∃ seeded reached final, Completes (compiled.resolve 3) opened ⟨3, false⟩ reached ∧
        Completes compiled.seedLoop opened () seeded ∧
        Completes (compiled.passTimes 3) seeded () reached ∧
        Completes (compiled.settleFrom 3 6) reached ⟨4, true⟩ final ∧
        Completes (compiled.resolve 9) opened ⟨4, true⟩ final ∧
        Completes (compiled.resolve 100) opened ⟨4, true⟩ final := by
  have runs : (outcome (ofDiagram handedDiagram (standardDt : Setting Rat) standardRuntime)
      []).1.toOption.any (fun compiled =>
        (RunState.create compiled).toOption.any fun start =>
          (outcome (compiled.outputPhase []) start.clear).1.toOption.any fun _ =>
            let opened := (outcome (compiled.outputPhase []) start.clear).2
            ((outcome (compiled.resolve 3) opened).1.toOption.any fun resolution =>
              resolution == ⟨3, false⟩) &&
            (outcome (compiled.resolve 9) opened).1.toOption.any fun resolution =>
              resolution == ⟨4, true⟩) = true := by
    decide +kernel
  obtain ⟨compiled, after, compiles, runs⟩ := exists_completes_of_any runs
  obtain ⟨start, created, runs⟩ := exists_of_toOption_any runs
  obtain ⟨_, opened, opens, runs⟩ := exists_completes_of_any runs
  rw [opens, Bool.and_eq_true] at runs
  obtain ⟨three, nine⟩ := runs
  obtain ⟨_, reached, stops, isThree⟩ := exists_completes_of_any three
  obtain ⟨_, final, ends, isFour⟩ := exists_completes_of_any nine
  obtain rfl := beq_iff_eq.mp isThree
  obtain rfl := beq_iff_eq.mp isFour
  have larger : 3 ≤ 9 := by decide
  obtain ⟨_, _, first, -, resumes⟩ := (resolve_resumes compiles larger opened).2
  obtain ⟨rfl, rfl⟩ := first.unique stops
  obtain ⟨-, ⟨seeded, seeds, passes⟩, onward⟩ := resumes rfl
  have largest : 9 ≤ 100 := by decide
  obtain ⟨_, _, second, same, -⟩ := (resolve_resumes compiles largest opened).2
  obtain ⟨rfl, rfl⟩ := second.unique ends
  exact ⟨compiled, after, start, opened, compiles, created, opens, larger, largest, seeded, _, _,
    first, seeds, passes, onward.symm.trans ends, ends, same rfl⟩

end SignalFlow.Compiled
