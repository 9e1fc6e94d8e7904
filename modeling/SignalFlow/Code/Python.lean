import SignalFlow.Code.Replay

/-! # Programs as Python modules

The text of a program as a module with a function for the first state, one for a tick and, if asked
for, one that replays a table of inputs and writes a table of outputs.
-/

namespace SignalFlow.Code

/-- What a state field holds at first. -/
def Initial.pythonText : Initial Float → String
  | .number value => Decimal.shortest value
  | .seed value => Decimal.digitsOf value.toNat
  | .cursor => "0"
  | .zeros length => "[0.0] * " ++ Decimal.digitsOf (Language.python.arrayLength length)

namespace Python

/-- Indents lines. -/
def inner (lines : List String) : List String := Language.python.indented lines

/-- The step of a transfer function. -/
def rungeKutta : List String :=
  ["def _rk4(A, B, x, u, dt):",
   "    n = len(x)",
   "",
   "    def f(z):",
   "        return [sum(A[i][j] * z[j] for j in range(n)) + B[i] * u for i in range(n)]",
   "",
   "    k1 = f(x)",
   "    k2 = f([x[i] + 0.5 * dt * k1[i] for i in range(n)])",
   "    k3 = f([x[i] + 0.5 * dt * k2[i] for i in range(n)])",
   "    k4 = f([x[i] + dt * k3[i] for i in range(n)])",
   "    return [x[i] + (dt / 6.0) * (k1[i] + 2.0 * k2[i] + 2.0 * k3[i] + k4[i]) for i in range(n)]"]

/-- The start of the function that replays a table of inputs, up to the inputs of a tick. -/
def mainHead : List String :=
  ["def _cell(text):",
   "    try:",
   "        return float(text) if text not in (None, \"\") else 0.0",
   "    except ValueError:",
   "        return 0.0",
   "",
   "",
   "def _read_input_csv(path):",
   "    if not path:",
   "        return [], []",
   "    with open(path, newline=\"\") as f:",
   "        reader = csv.DictReader(f)",
   "        header = reader.fieldnames or []",
   "        time_column = \"t\" if \"t\" in header else \"time\" if \"time\" in header else None",
   "        if time_column is None:",
   "            raise SystemExit(f\"\x7bpath\x7d: missing 't' or 'time' column\")",
   "        times = []",
   "        rows = []",
   "        for row in reader:",
   "            times.append(_cell(row.get(time_column)))",
   "            rows.append(\x7bname: _cell(row.get(name)) for name in INPUT_NAMES\x7d)",
   "    return times, rows",
   "",
   "",
   "def main(argv=None):",
   "    parser = argparse.ArgumentParser(description=\"Run the generated model\")",
   "    parser.add_argument(\"-t\", dest=\"duration\", type=float, default=DURATION)",
   "    parser.add_argument(\"-i\", dest=\"input\", default=None)",
   "    parser.add_argument(\"-o\", dest=\"output\", default=None)",
   "    args = parser.parse_args(argv)",
   "",
   "    state = init_model_state()",
   "    times, rows = _read_input_csv(args.input)",
   "    idx = 0",
   "    out_f = open(args.output, \"w\", newline=\"\") if args.output else sys.stdout",
   "    try:",
   "        writer = csv.writer(out_f, lineterminator=\"\\n\")",
   "        writer.writerow([\"t\"] + OUTPUT_NAMES)",
   "        t = 0.0",
   "        while t <= args.duration + 1e-9:"]

/-- The end of the function that replays a table of inputs, behind the inputs of a tick. -/
def mainTail : List String :=
  ["            outputs = \x7b\x7d",
   "            run_step(state, inputs, outputs, t)",
   "            writer.writerow([f\"\x7bt:.6f\x7d\"] + " ++
     "[f\"\x7boutputs.get(name, 0.0):.6f\x7d\" for name in OUTPUT_NAMES])",
   "            t += DT",
   "    finally:",
   "        if args.output:",
   "            out_f.close()",
   "    return 0",
   "",
   "",
   "if __name__ == \"__main__\":",
   "    sys.exit(main())"]

/-- The function that replays a table of inputs. -/
def mainLines : List String := mainHead ++ Language.python.replayLines ++ mainTail

/-- A list of names. -/
def nameList (names : List String) : String := (Value.list (names.map .text)).quoted

/-- The start of a module: what it needs, its settings and its constants. -/
def header (program : Program Float) (withMain : Bool) : List String :=
  let blocks := Decimal.digitsOf (Language.python.arrayLength program.blockCount)
  let vars := program.vars.map fun (name, value) =>
    Program.variableName name ++ " = " ++ Decimal.shortest value
  let tables := program.realized.map Language.python.realized
  ["\"\"\"",
    "Generated by diagsim from a block diagram.",
    "",
    s!"{blocks} blocks, dt = {program.dt.quoted}.",
    "\"\"\"",
    ""] ++
  (if withMain then ["import argparse", "import csv", "import math", "import sys"]
    else ["import math"]) ++
  ["",
    s!"DT = {program.dt.quoted}",
    s!"DURATION = {program.duration.quoted}",
    s!"MAX_ITERATIONS = {wholeText program.limit}",
    s!"BLOCK_COUNT = {blocks}",
    s!"INPUT_NAMES = {nameList program.inputNames}",
    s!"OUTPUT_NAMES = {nameList program.outputNames}",
    ""] ++
  (if vars.isEmpty then [] else "# Diagram variables" :: vars ++ [""]) ++
  (if tables.isEmpty then [] else "# Realized transfer functions" :: tables ++ [""])

/-- The function for the first state. -/
def firstState (fields : List (Declaration Float)) : List String :=
  let entries := fields.map fun declaration =>
    "\"" ++ declaration.field.name ++ "\": " ++ declaration.initial.pythonText ++ ","
  ["def init_model_state():", "    \"\"\"Fresh model state at t = 0.\"\"\""] ++
  inner (if fields.isEmpty then ["return \x7b\x7d"]
    else "return \x7b" :: inner entries ++ ["\x7d"])

/-- The function for a tick. -/
def tickLines (tick : Tick Float) : List String :=
  let lines := Language.python.statements
  "def run_step(state, inputs=None, outputs=None, t=0.0, dt=None):" :: inner (
    ["\"\"\"Run one tick at time \x60\x60t\x60\x60; named outputs are written into " ++
      "\x60\x60outputs\x60\x60.\"\"\"",
      "inputs = inputs or \x7b\x7d",
      "if outputs is None:",
      "    outputs = \x7b\x7d",
      "if dt is None:",
      "    dt = DT",
      "o = [0.0] * BLOCK_COUNT",
      "v = [False] * BLOCK_COUNT",
      "",
      "# output phase"] ++ lines tick.outputs ++
    ["", "# algebraic loop"] ++ lines tick.seeds ++
    ["for _ in range(MAX_ITERATIONS):"] ++
    inner (["updated = False"] ++ lines tick.pass ++ ["if not updated:", "    break"]) ++
    ["", "# sink phase"] ++ lines tick.sinks ++
    ["", "# update phase"] ++ lines tick.updates ++
    ["return outputs"])

/-- The lines of a module. -/
def moduleLines (program : Program Float) (withMain : Bool) : List String :=
  header program withMain ++
  (if program.realized.isEmpty then [] else rungeKutta ++ ["", ""]) ++
  firstState program.fields ++ ["", ""] ++
  tickLines program.tick ++
  if withMain then ["", ""] ++ mainLines else []

end Python

end SignalFlow.Code
