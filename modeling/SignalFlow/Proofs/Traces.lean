import SignalFlow.Host.Usual
import SignalFlow.Proofs.Alike
import SignalFlow.Proofs.EngineRun
import SignalFlow.Proofs.Entries

/-! # Traces

A run records the value of every scope and file sink tick by tick, each under a key
(`Compiled.traceKeys`): its label, or its label and its id if the label is a key already. A run
keeps the values of the last block of each key (`Engine.records_of_run`), so all of them are recorded
if the keys differ. They do unless a label together with its id is a key before it as well
(`nodup_traceKeys_iff`).
-/

namespace SignalFlow

variable {α : Type}

/-! ## Keys -/

/-- The key of a block behind some others. -/
def traceKey (keys : List String) (node : Node α) : String :=
  if node.traceLabel ∈ keys then node.traceLabel ++ "_" ++ node.id else node.traceLabel

/-- The keys of the traces of some blocks, in order. -/
def traceNames (nodes : List (Node α)) : List String := (traceKeys nodes).map (·.2)

theorem traceKeys_concat (nodes : List (Node α)) (node : Node α) :
    traceKeys (nodes ++ [node]) =
      traceKeys nodes ++ [(node.handle, traceKey (traceNames nodes) node)] := by
  have same : ((traceKeys nodes).any (·.2 == node.traceLabel) = true) ↔
      node.traceLabel ∈ traceNames nodes := by
    simp [traceNames]
  rw [traceKeys, List.foldl_append, traceKey]
  simp only [List.foldl_cons, List.foldl_nil, ← same]
  rfl

theorem traceNames_concat (nodes : List (Node α)) (node : Node α) :
    traceNames (nodes ++ [node]) = traceNames nodes ++ [traceKey (traceNames nodes) node] := by
  rw [traceNames, traceKeys_concat, List.map_append]
  rfl

/-- Every block has a key. -/
theorem handles_traceKeys (nodes : List (Node α)) :
    (traceKeys nodes).map (·.1) = nodes.map (·.handle) := by
  induction nodes using List.reverseRecOn with
  | nil => rfl
  | append_singleton nodes node ih =>
      rw [traceKeys_concat, List.map_append, List.map_append, ih]
      rfl

/-- The key of a block clashes if neither its label is free nor its label with its id. -/
def Clashes (keys : List String) (node : Node α) : Prop :=
  node.traceLabel ∈ keys ∧ node.traceLabel ++ "_" ++ node.id ∈ keys

theorem traceKey_mem_iff {keys : List String} {node : Node α} :
    traceKey keys node ∈ keys ↔ Clashes keys node := by
  rw [traceKey, Clashes]
  split
  · rename_i taken
    exact (and_iff_right taken).symm
  · rename_i free
    exact iff_of_false free fun clashes => free clashes.1

/-- **The keys of some blocks differ unless one clashes with those before it.** -/
theorem nodup_traceNames_iff {nodes : List (Node α)} :
    (traceNames nodes).Nodup ↔
      ∀ before node after, nodes = before ++ node :: after → ¬ Clashes (traceNames before) node := by
  induction nodes using List.reverseRecOn with
  | nil => simp [traceNames, traceKeys]
  | append_singleton nodes last ih =>
      rw [traceNames_concat, List.nodup_append_comm, List.singleton_append, List.nodup_cons,
        traceKey_mem_iff, ih]
      constructor
      · rintro ⟨free, others⟩ before node after split
        rcases List.eq_nil_or_concat after with rfl | ⟨inner, other, rfl⟩
        · obtain ⟨rfl, same⟩ := List.append_inj' split rfl
          rwa [← List.singleton_inj.mp same]
        · rw [List.concat_eq_append, ← List.cons_append, ← List.append_assoc] at split
          exact others before node inner (List.append_inj' split rfl).1
      · intro free
        refine ⟨free nodes last [] rfl, fun before node after split => ?_⟩
        exact free before node (after ++ [last]) (by rw [split]; simp)

/-! ## Records -/

variable [Scalar α]

/-- A result records what the traced blocks of a diagram give in some ticks: each block has a key,
each key has a place, in order of first appearance, and there stand the values of the last block of
this key, tick by tick. -/
structure Records (compiled : Compiled α) (ticks : List (TickResult α × RunState α))
    (result : RunResult α) : Prop where
  handles_eq : compiled.traceKeys.map (·.1) = compiled.traceNodes.map (·.handle)
  names_eq : Entries.keys result.traces = (traceNames compiled.traceNodes).eraseDups
  last {before after : List (Nat × String)} {handle : Nat} {key : String} :
    compiled.traceKeys = before ++ (handle, key) :: after → key ∉ after.map (·.2) →
      Entries.get? result.traces key = some (ticks.map (·.2.outputOf handle))

/-- The traces of all traced blocks of a diagram, each under its key. -/
def Compiled.allTraces (compiled : Compiled α) (ticks : List (TickResult α × RunState α)) :
    List (String × List α) :=
  compiled.traceKeys.map fun (handle, key) => (key, ticks.map (·.2.outputOf handle))

/-- **All traces are recorded exactly if no key stands twice.** -/
theorem Records.traces_eq_iff {compiled : Compiled α} {ticks : List (TickResult α × RunState α)}
    {result : RunResult α} (records : Records compiled ticks result) :
    result.traces = compiled.allTraces ticks ↔ (traceNames compiled.traceNodes).Nodup := by
  have allKeys : Entries.keys (compiled.allTraces ticks) = traceNames compiled.traceNodes := by
    simp [Compiled.allTraces, Entries.keys, traceNames, Compiled.traceKeys]
  constructor
  · intro complete
    rw [← allKeys, ← complete, records.names_eq]
    exact nodup_eraseDups _
  · intro nodup
    have keys_eq := records.names_eq
    rw [eraseDups_of_nodup nodup, ← allKeys] at keys_eq
    refine Entries.ext_of_nodup keys_eq (allKeys ▸ nodup) fun key values member => ?_
    obtain ⟨⟨handle, key⟩, listed, same⟩ := List.mem_map.mp member
    obtain ⟨rfl, rfl⟩ := Prod.mk.inj same
    obtain ⟨before, after, split⟩ := List.append_of_mem listed
    refine records.last split fun again => ?_
    rw [traceNames] at nodup
    change (compiled.traceKeys.map (·.2)).Nodup at nodup
    rw [split, List.map_append, List.map_cons, List.nodup_middle, List.nodup_cons] at nodup
    exact nodup.1 (List.mem_append_right _ again)

namespace Compiled

variable {compiled : Compiled α} {limit : Nat} {ticks : List (TickResult α × RunState α)}

/-- A tick shows under each key the value of the last block of this key. -/
theorem get?_traces_of_simulate [Host] (wellFormed : compiled.WellFormed)
    {given : List (List (String × α))} (simulated : compiled.simulate limit given = .ok ticks)
    {result : TickResult α} {after : RunState α} (member : (result, after) ∈ ticks)
    {above below : List (Nat × String)} {handle : Nat} {key : String}
    (split : compiled.traceKeys = above ++ (handle, key) :: below)
    (last : key ∉ below.map (·.2)) :
    Entries.get? result.traces key = some (after.outputOf handle) := by
  obtain ⟨resolution, time, rfl⟩ := exists_results_of_simulate wellFormed simulated member
  simp only [results, split, List.map_append, List.map_cons]
  refine Entries.get?_ofPairs_of_last _ fun again => last ?_
  simpa [Entries.keys] using again

/-- The result of a simulation records it. -/
theorem records_of_simulate [Host] (wellFormed : compiled.WellFormed)
    {given : List (List (String × α))}
    (simulated : compiled.simulate limit given = .ok ticks) :
    Records compiled ticks (.ofTicks compiled (ticks.map (·.1))) := by
  refine ⟨handles_traceKeys _, ?_, ?_⟩
  · simp [RunResult.ofTicks, Entries.keys, traceNames, traceKeys, Function.comp_def]
  · intro above below handle key split last
    have listed : key ∈ (compiled.traceKeys.map (·.2)).eraseDups := by
      rw [List.mem_eraseDups, split]
      simp
    have shown : (ticks.map (·.1)).filterMap (fun tick => Entries.get? tick.traces key) =
        ticks.map (·.2.outputOf handle) := by
      rw [List.filterMap_map, ← List.filterMap_eq_map]
      refine List.filterMap_congr fun tick member => ?_
      exact get?_traces_of_simulate wellFormed simulated member split last
    rw [RunResult.ofTicks, ← shown]
    exact Entries.get?_map_of_mem _ listed

end Compiled

/-- **Every run of a diagram that compiles records it**: all traced blocks have a trace, with their
values tick by tick, exactly if the keys differ, and that is the case unless one of them clashes. -/
theorem Engine.exists_records_of_run [Host] {diagram : Diagram String}
    {defaultDt defaultRuntime : Setting α} {before after notices told : List Notice}
    {engine left : Engine α} {duration : Option α} {series : Option (InputSeries α)}
    {result : RunResult α}
    (compiles : Completes (Compiled.ofDiagram diagram defaultDt defaultRuntime) before
      engine.compiled after)
    (ended : ending (run duration series) engine notices = ((.ok result, left), told)) :
    ∃ ticks, engine.compiled.simulate engine.limit
        (result.times.map (InputSeries.inputsAt series)) = .ok ticks ∧
      Records engine.compiled ticks result ∧
      (result.traces = engine.compiled.allTraces ticks ↔
        (traceNames engine.compiled.traceNodes).Nodup) ∧
      ((traceNames engine.compiled.traceNodes).Nodup ↔
        ∀ above node below, engine.compiled.traceNodes = above ++ node :: below →
          ¬ Clashes (traceNames above) node) := by
  have wellFormed := Compiled.wellFormed_of_completes compiles
  obtain ⟨ticks, simulated, result_eq⟩ := exists_simulate_of_run wellFormed ended
  have records : Records engine.compiled ticks result := by
    rw [result_eq]
    exact Compiled.records_of_simulate wellFormed simulated
  exact ⟨ticks, simulated, records, records.traces_eq_iff, nodup_traceNames_iff⟩

/-- Two scopes of one label and a file sink, behind a constant. -/
def tracedDiagram : Diagram String where
  blocks := [⟨"src", "constant", [("value", .int 4)]⟩, ⟨"s1", "scope", [("labels", .text "x")]⟩,
    ⟨"s2", "scope", [("labels", .text "x")]⟩, ⟨"log", "fileSink", []⟩]
  connections := [⟨"src", "s1", 0, 0⟩, ⟨"src", "s2", 0, 0⟩, ⟨"src", "log", 0, 0⟩]
  vars := []
  runtime := .null
  dt := .null
  nextId := 1

open Host.Usual

theorem Engine.exists_records_of_run_tracedDiagram :
    ∃ (engine : Engine Rat) (result : RunResult Rat) (ticks : List (TickResult Rat × RunState Rat)),
      traceNames engine.compiled.traceNodes = ["x", "x_s2", "log"] ∧
      result.traces = [("x", [4, 4, 4]), ("x_s2", [4, 4, 4]), ("log", [4, 4, 4])] ∧
      Records engine.compiled ticks result ∧ result.traces = engine.compiled.allTraces ticks := by
  let engineOf (compiled : Compiled Rat) : Engine Rat :=
    ⟨compiled, 50, .text "ignore", none, false⟩
  have runs : (outcome (Compiled.ofDiagram tracedDiagram (Compiled.standardDt : Setting Rat)
      Compiled.standardRuntime) []).1.toOption.any (fun compiled =>
        (traceNames compiled.traceNodes == ["x", "x_s2", "log"]) &&
        (ending (run (some 0.02) none) (engineOf compiled) []).1.1.toOption.any fun result =>
          result.traces == [("x", [4, 4, 4]), ("x_s2", [4, 4, 4]), ("log", [4, 4, 4])]) = true := by
    decide +kernel
  obtain ⟨compiled, after, compiles, runs⟩ := exists_completes_of_any runs
  rw [Bool.and_eq_true, beq_iff_eq] at runs
  obtain ⟨result, ended, traces⟩ := exists_of_toOption_any runs.2
  have runsSo : ending (run (some 0.02) none) (engineOf compiled) [] =
    ((.ok result, _), _) := Prod.ext (Prod.ext ended rfl) rfl
  obtain ⟨ticks, -, records, complete, -⟩ := exists_records_of_run compiles runsSo
  refine ⟨engineOf compiled, result, ticks, runs.1, beq_iff_eq.mp traces, records, ?_⟩
  rw [complete, show (engineOf compiled).compiled = compiled from rfl, runs.1]
  decide

/-- The label of the first scope is that of the third one with its id, and the label of the second
scope is that of the third one. -/
def clashingDiagram : Diagram String where
  blocks := [⟨"src", "constant", [("value", .int 4)]⟩, ⟨"s1", "scope", [("labels", .text "x_s3")]⟩,
    ⟨"s2", "scope", [("labels", .text "x")]⟩, ⟨"s3", "scope", [("labels", .text "x")]⟩]
  connections := [⟨"src", "s1", 0, 0⟩]
  vars := []
  runtime := .null
  dt := .null
  nextId := 1

/-- The trace of the first scope, which reads the constant, is lost: there are three scopes, and the
third one has the key of the first one. -/
theorem Engine.not_nodup_clashingDiagram :
    ∃ (engine : Engine Rat) (result : RunResult Rat) (after : List Notice) (left : Engine Rat),
      Completes (Compiled.ofDiagram clashingDiagram Compiled.standardDt Compiled.standardRuntime) []
        engine.compiled after ∧
      ending (run (some 0) none) engine [] = ((.ok result, left), []) ∧
      engine.compiled.traceKeys = [(1, "x_s3"), (2, "x"), (3, "x_s3")] ∧
      ¬ (traceNames engine.compiled.traceNodes).Nodup ∧
      result.traces = [("x_s3", [0]), ("x", [0])] := by
  let engineOf (compiled : Compiled Rat) : Engine Rat :=
    ⟨compiled, 50, .text "ignore", none, false⟩
  have runs : (outcome (Compiled.ofDiagram clashingDiagram (Compiled.standardDt : Setting Rat)
      Compiled.standardRuntime) []).1.toOption.any (fun compiled =>
        (compiled.traceKeys == [(1, "x_s3"), (2, "x"), (3, "x_s3")]) &&
        ((ending (run (some 0) none) (engineOf compiled) []).2.isEmpty &&
        (ending (run (some 0) none) (engineOf compiled) []).1.1.toOption.any fun result =>
          result.traces == [("x_s3", [0]), ("x", [0])])) = true := by
    decide +kernel
  obtain ⟨compiled, after, compiles, runs⟩ := exists_completes_of_any runs
  rw [Bool.and_eq_true, Bool.and_eq_true, beq_iff_eq, List.isEmpty_iff] at runs
  obtain ⟨keys, silent, runs⟩ := runs
  obtain ⟨result, ended, traces⟩ := exists_of_toOption_any runs
  refine ⟨engineOf compiled, result, after, _, compiles, Prod.ext (Prod.ext ended rfl) silent, keys,
    ?_, beq_iff_eq.mp traces⟩
  change ¬ (compiled.traceKeys.map (·.2)).Nodup
  rw [keys]
  decide

end SignalFlow
