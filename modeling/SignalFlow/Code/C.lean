import SignalFlow.Code.Replay

/-! # Programs in C

The text of a program in C with its structures, a function for the first state, one for a tick and,
if asked for, a `main` that replays a table of inputs and writes a table of outputs.
-/

namespace SignalFlow.Code

/-- The declaration of a state field. -/
def Declaration.cText (declaration : Declaration Float) : String :=
  let name := declaration.field.name
  match declaration.initial with
  | .number _ => "double " ++ name ++ ";"
  | .seed _ => "uint32_t " ++ name ++ ";"
  | .cursor => "int " ++ name ++ ";"
  | .zeros length =>
      "double " ++ name ++ "[" ++ Decimal.digitsOf (Language.c.arrayLength length) ++ "];"

/-- What has to be stored into a state field that is all zeros. -/
def Declaration.cStart (declaration : Declaration Float) : List String :=
  let store (value : String) : List String :=
    [Language.c.field declaration.field ++ " = " ++ value ++ ";"]
  match declaration.initial with
  | .number value => if value == 0.0 then [] else store (Decimal.shortest value)
  | .seed value => store (Decimal.digitsOf value.toNat ++ "u")
  | .cursor => store "0"
  | .zeros _ => []

namespace CSource

/-- Indents lines. -/
def inner (lines : List String) : List String := Language.c.indented lines

/-- Lines, or other ones in place of none. -/
def orElse (lines instead : List String) : List String :=
  if lines.isEmpty then instead else lines

/-- The step of a transfer function. -/
def rungeKutta : List String :=
  ["static void tf_derivative(int n, const double* A, const " ++
     "double* B, const double* x, double u, double* dx) \x7b",
   "  for (int i = 0; i < n; i++) \x7b",
   "    double acc = 0.0;",
   "    for (int j = 0; j < n; j++) acc += A[i * n + j] * x[j];",
   "    dx[i] = acc + B[i] * u;",
   "  \x7d",
   "\x7d",
   "",
   "static void tf_rk4(int n, const double* A, const " ++
     "double* B, double* x, double u, double dt) \x7b",
   "  double k1[TF_MAX_ORDER], k2[TF_MAX_ORDER], " ++
     "k3[TF_MAX_ORDER], k4[TF_MAX_ORDER], tmp[TF_MAX_ORDER];",
   "  tf_derivative(n, A, B, x, u, k1);",
   "  for (int i = 0; i < n; i++) tmp[i] = x[i] + 0.5 * dt * k1[i];",
   "  tf_derivative(n, A, B, tmp, u, k2);",
   "  for (int i = 0; i < n; i++) tmp[i] = x[i] + 0.5 * dt * k2[i];",
   "  tf_derivative(n, A, B, tmp, u, k3);",
   "  for (int i = 0; i < n; i++) tmp[i] = x[i] + dt * k3[i];",
   "  tf_derivative(n, A, B, tmp, u, k4);",
   "  for (int i = 0; i < n; i++) x[i] = x[i] + (dt / 6.0) " ++
     "* (k1[i] + 2.0 * k2[i] + 2.0 * k3[i] + k4[i]);",
   "\x7d"]

/-- How tables are read and written. -/
def tableSupport : List String :=
  ["#define MAX_LINE 8192",
   "#define MAX_FIELDS 256",
   "",
   "typedef struct \x7b",
   "  int count;",
   "  int capacity;",
   "  double* times;",
   "  double* values;",
   "\x7d InputSeries;",
   "",
   "static void trim_line(char* line) \x7b",
   "  size_t len = strlen(line);",
   "  while (len > 0 && (line[len - 1] == '\\n' || line[len - 1] == '\\r')) line[--len] = '\\0';",
   "\x7d",
   "",
   "static int split_fields(char* line, char** fields, int max_fields) \x7b",
   "  int n = 0;",
   "  char* p = line;",
   "  while (n < max_fields) \x7b",
   "    char* comma = strchr(p, ',');",
   "    fields[n++] = p;",
   "    if (!comma) break;",
   "    *comma = '\\0';",
   "    p = comma + 1;",
   "  \x7d",
   "  return n;",
   "\x7d",
   "",
   "static double parse_cell(const char* text) \x7b",
   "  char* end;",
   "  double value;",
   "  if (!text || !*text) return 0.0;",
   "  value = strtod(text, &end);",
   "  return end == text ? 0.0 : value;",
   "\x7d",
   "",
   "static int read_csv(const char* path, InputSeries* series) \x7b",
   "  char line[MAX_LINE];",
   "  char* fields[MAX_FIELDS];",
   "  int columns[INPUT_SLOTS];",
   "  int t_col = -1, time_col = -1, n;",
   "  FILE* f = fopen(path, \"r\");",
   "  if (!f) \x7b",
   "    fprintf(stderr, \"%s: cannot open input file\\n\", path);",
   "    return -1;",
   "  \x7d",
   "  if (!fgets(line, sizeof line, f)) \x7b",
   "    fprintf(stderr, \"%s: missing header\\n\", path);",
   "    fclose(f);",
   "    return -1;",
   "  \x7d",
   "  trim_line(line);",
   "  n = split_fields(line, fields, MAX_FIELDS);",
   "  for (int i = 0; i < INPUT_SLOTS; i++) columns[i] = -1;",
   "  for (int c = 0; c < n; c++) \x7b",
   "    if (strcmp(fields[c], \"t\") == 0) t_col = c;",
   "    if (strcmp(fields[c], \"time\") == 0) time_col = c;",
   "    for (int i = 0; i < INPUT_COUNT; i++) \x7b",
   "      if (strcmp(fields[c], input_names[i]) == 0) columns[i] = c;",
   "    \x7d",
   "  \x7d",
   "  if (t_col < 0) t_col = time_col;",
   "  if (t_col < 0) \x7b",
   "    fprintf(stderr, \"%s: missing 't' or 'time' column\\n\", path);",
   "    fclose(f);",
   "    return -1;",
   "  \x7d",
   "  while (fgets(line, sizeof line, f)) \x7b",
   "    trim_line(line);",
   "    if (!*line) continue;",
   "    n = split_fields(line, fields, MAX_FIELDS);",
   "    if (series->count == series->capacity) \x7b",
   "      int capacity = series->capacity ? series->capacity * 2 : 64;",
   "      double* times = (double*)realloc(series->times, sizeof(double) * capacity);",
   "      double* values = (double*)realloc(series->values, " ++
     "sizeof(double) * capacity * INPUT_SLOTS);",
   "      if (!times || !values) \x7b",
   "        fprintf(stderr, \"%s: out of memory\\n\", path);",
   "        free(times ? times : series->times);",
   "        free(values ? values : series->values);",
   "        series->times = NULL;",
   "        series->values = NULL;",
   "        fclose(f);",
   "        return -1;",
   "      \x7d",
   "      series->times = times;",
   "      series->values = values;",
   "      series->capacity = capacity;",
   "    \x7d",
   "    series->times[series->count] = t_col < n ? parse_cell(fields[t_col]) : 0.0;",
   "    for (int i = 0; i < INPUT_SLOTS; i++) \x7b",
   "      int c = columns[i];",
   "      series->values[series->count * INPUT_SLOTS + i] = " ++
     "(c >= 0 && c < n) ? parse_cell(fields[c]) : 0.0;",
   "    \x7d",
   "    series->count++;",
   "  \x7d",
   "  fclose(f);",
   "  return 0;",
   "\x7d",
   "",
   "static void write_header(FILE* f) \x7b",
   "  fprintf(f, \"t\");",
   "  for (int i = 0; i < OUTPUT_COUNT; i++) fprintf(f, \",%s\", output_names[i]);",
   "  fprintf(f, \"\\n\");",
   "\x7d"]

/-- The start of `main`, up to the inputs of a tick. -/
def mainHead : List String :=
  ["int main(int argc, char** argv) \x7b",
   "  double tEnd = DURATION;",
   "  const char* inPath = NULL;",
   "  const char* outPath = NULL;",
   "  InputSeries series = \x7b0, 0, NULL, NULL\x7d;",
   "  ModelState state;",
   "  ModelInput in;",
   "  ModelOutput out;",
   "  FILE* outFile;",
   "  int idx = 0;",
   "  for (int i = 1; i < argc; i++) \x7b",
   "    if (strcmp(argv[i], \"-t\") == 0 && i + 1 < argc) tEnd = atof(argv[++i]);",
   "    else if (strcmp(argv[i], \"-i\") == 0 && i + 1 < argc) inPath = argv[++i];",
   "    else if (strcmp(argv[i], \"-o\") == 0 && i + 1 < argc) outPath = argv[++i];",
   "    else \x7b",
   "      fprintf(stderr, \"usage: %s [-t duration] [-i input.csv] [-o output.csv]\\n\", argv[0]);",
   "      return 2;",
   "    \x7d",
   "  \x7d",
   "  if (inPath && read_csv(inPath, &series) != 0) return 1;",
   "  outFile = outPath ? fopen(outPath, \"w\") : stdout;",
   "  if (!outFile) \x7b",
   "    fprintf(stderr, \"%s: cannot open output file\\n\", outPath);",
   "    return 1;",
   "  \x7d",
   "  InitModel(&state);",
   "  memset(&in, 0, sizeof in);",
   "  write_header(outFile);",
   "  for (double t = 0.0; t <= tEnd + 1e-9; t += DT) \x7b",
   "    memset(&out, 0, sizeof out);"]

/-- The start of `main`, up to the row of a tick. -/
def mainStart : List String :=
  mainHead ++ Language.c.replayLines ++ ["    RunStep(&state, &in, &out, t);"]

/-- The end of `main`, behind the row of a tick. -/
def mainEnd : List String :=
  ["  \x7d",
   "  if (outPath) fclose(outFile);",
   "  free(series.times);",
   "  free(series.values);",
   "  return 0;",
   "\x7d"]

/-- The start of a source: what it includes, its settings and its constants. -/
def header (program : Program Float) : List String :=
  let blocks := Decimal.digitsOf program.blockCount
  let inputs := program.inputNames.length
  let vars := program.vars.map fun (name, value) =>
    s!"static const double {Program.variableName name} = {Decimal.shortest value};"
  let tables := program.realized.map Language.c.realized
  [s!"/* Generated by diagsim from a block diagram: {blocks} blocks, dt = {program.dt.quoted}. */",
    "#include <math.h>",
    "#include <stdint.h>",
    "#include <stdio.h>",
    "#include <stdlib.h>",
    "#include <string.h>",
    "",
    "#ifndef M_PI",
    "#define M_PI 3.14159265358979323846",
    "#endif",
    "",
    "#define BLOCK_COUNT " ++ Decimal.digitsOf (Language.c.arrayLength program.blockCount),
    s!"#define MAX_ITERATIONS {wholeText program.limit}",
    s!"#define INPUT_COUNT {Decimal.digitsOf inputs}",
    "#define INPUT_SLOTS " ++ Decimal.digitsOf (Language.c.arrayLength inputs),
    s!"#define OUTPUT_COUNT {Decimal.digitsOf program.outputNames.length}",
    "#define TF_MAX_ORDER " ++ Decimal.digitsOf (Language.c.arrayLength program.largestOrder),
    "",
    s!"static const double DT = {program.dt.quoted};",
    s!"static const double DURATION = {program.duration.quoted};"] ++
  vars ++
  (if tables.isEmpty then [] else ["", "/* realized transfer functions */"] ++ tables) ++
  [""]

/-- A structure. -/
def structLines (name : String) (members : List String) : List String :=
  "typedef struct \x7b" :: inner (orElse members ["double _unused;"]) ++
    ["\x7d " ++ name ++ ";", ""]

/-- An array of names. -/
def nameArray (array : String) (names : List String) : List String :=
  s!"static const char* {array}[] = \x7b" ::
    inner (orElse (names.map fun name => "\"" ++ name ++ "\",") ["\"_unused\","]) ++ ["\x7d;"]

/-- The structures for the state, the inputs and the outputs. -/
def structures (program : Program Float) : List String :=
  structLines "ModelState"
    (orElse (program.fields.map Declaration.cText) ["int _unused;"]) ++
  structLines "ModelInput" (program.inputNames.map fun name => s!"double u_{name};") ++
  structLines "ModelOutput" (program.outputNames.map fun name => s!"double y_{name};") ++
  nameArray "input_names" program.inputNames ++
  nameArray "output_names" program.outputNames ++
  [""]

/-- The function for the first state. -/
def firstState (fields : List (Declaration Float)) : List String :=
  "void InitModel(ModelState* s) \x7b" ::
    inner ("memset(s, 0, sizeof(*s));" :: fields.flatMap Declaration.cStart) ++ ["\x7d", ""]

/-- The function for a tick. -/
def tickLines (tick : Tick Float) : List String :=
  let lines := Language.c.statements
  "void RunStep(ModelState* s, const ModelInput* in, ModelOutput* out, double t) \x7b" :: inner (
    ["const double dt = DT;",
      "double o[BLOCK_COUNT];",
      "int v[BLOCK_COUNT];",
      "(void)in;",
      "(void)dt;",
      "memset(o, 0, sizeof o);",
      "memset(v, 0, sizeof v);",
      "",
      "/* output phase */"] ++ lines tick.outputs ++
    ["", "/* algebraic loop */"] ++ lines tick.seeds ++
    ["for (int iter = 0; iter < MAX_ITERATIONS; iter++) \x7b"] ++
    inner (["int updated = 0;"] ++ lines tick.pass ++ ["if (!updated) break;"]) ++ ["\x7d"] ++
    ["", "/* sink phase */"] ++ lines tick.sinks ++
    ["", "/* update phase */"] ++ lines tick.updates) ++
  ["\x7d", ""]

/-- The function that takes the inputs from a row of a table. -/
def fillLines (names : List String) : List String :=
  let fill := names.zipIdx.map fun (name, place) =>
    s!"in->u_{name} = series->values[idx * INPUT_SLOTS + {Decimal.digitsOf place}];"
  "static void fill_inputs(const InputSeries* series, int idx, ModelInput* in) \x7b" ::
    inner (orElse fill ["(void)series;", "(void)idx;", "(void)in;"]) ++ ["\x7d", ""]

/-- What writes the row of a tick. -/
def rowLines (names : List String) : List String :=
  ["fprintf(outFile, \"%.6f\", t);"] ++
    names.map (fun name => s!"fprintf(outFile, \",%.6f\", out.y_{name});") ++
    ["fprintf(outFile, \"\\n\");"]

/-- The lines of a source. -/
def sourceLines (program : Program Float) (withMain : Bool) : List String :=
  header program ++ structures program ++
  (if program.realized.isEmpty then [] else rungeKutta ++ [""]) ++
  firstState program.fields ++ tickLines program.tick ++
  if withMain then
    tableSupport ++ [""] ++ fillLines program.inputNames ++ mainStart ++
      inner (inner (rowLines program.outputNames)) ++ mainEnd
  else []

end CSource

end SignalFlow.Code
