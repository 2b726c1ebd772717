import DenseSketch.CommandLine.Options
import DenseSketch.CommandLine.Generate
import DenseSketch.Model.Compatibility
import DenseSketch.Model.Extraction
import DenseSketch.Model.File

/-!
# Compiling from the command line

The program compiles a snapshot or a model file.  A snapshot brings its labels and its window, which
options may replace; a model file needs both.  With `--check-only` the project is validated and
nothing is written.  This is `tinytrainer-compile` (SPEC_FULL, section 9.1).
-/

namespace DenseSketch.CommandLine

def compileGrammar : Grammar where
  rules :=
    [⟨"-h", .help⟩, ⟨"--help", .help⟩, ⟨"--snapshot", .text⟩, ⟨"--model-file", .text⟩,
      ⟨"--model-class", .text⟩, ⟨"--init-kwarg", .text⟩, ⟨"--weights", .text⟩,
      ⟨"--labels", .text⟩,
      ⟨"--variant", .oneOf [Variant.classification.name, Variant.regression.name]⟩,
      ⟨"--window-size", .number⟩, ⟨"--target", .oneOf Board.names⟩,
      ⟨"--sensor", .oneOf Sensor.names⟩, ⟨"--sample-interval-ms", .number⟩,
      ⟨"--prediction-interval-ms", .number⟩, ⟨"--baud-rate", .number⟩, ⟨"--device-name", .text⟩,
      ⟨"--timestamp", .text⟩, ⟨"--output", .text⟩, ⟨"--save-snapshot", .text⟩,
      ⟨"--check-only", .nothing⟩]
  alternatives := ["--snapshot", "--model-file"]

/-- What is to be compiled, and how.  A value that is null is not given. -/
structure CompileRequest where
  /-- The snapshot; empty if a model file is compiled. -/
  snapshot : String
  modelFile : Option String
  modelClass : Option String
  initKwargs : List Document
  /-- The state of the model; empty if there is none. -/
  weights : String
  labels : Option (List String)
  variant : Document
  window : Document
  board : Document
  sensor : Document
  sampleInterval : Document
  predictionInterval : Document
  baudRate : Document
  deviceName : Document
  timestamp : Document
  /-- Where the files go. -/
  output : Document
  /-- Where a snapshot is saved; empty if none is. -/
  saveSnapshot : String
  isCheckOnly : Bool

namespace CompileRequest

/-- The labels of a value: a text lists them. -/
def labelsOf : Document → List String
  | .text s => Message.labelsOfText s
  | _ => []

def ofGiven (given : Given) : CompileRequest where
  snapshot := (given.text? "--snapshot").getD ""
  modelFile := given.text? "--model-file"
  modelClass := given.textOrEmpty? "--model-class"
  initKwargs := given.values "--init-kwarg"
  weights := (given.textOrEmpty? "--weights").getD ""
  labels := (given.latest? "--labels").map labelsOf
  variant := given.latestOr "--variant" (.text Variant.classification.name)
  window := given.latestOr "--window-size" .null
  board := given.latestOr "--target" (.text Board.defaultName)
  sensor := given.latestOr "--sensor" (.text Sensor.defaultName)
  sampleInterval := given.latestOr "--sample-interval-ms" (.integer 20)
  predictionInterval := given.latestOr "--prediction-interval-ms" (.integer 100)
  baudRate := given.latestOr "--baud-rate" (.integer 115200)
  deviceName := given.latestOr "--device-name" .null
  timestamp := given.latestOr "--timestamp" .null
  output := given.latestOr "--output" (.text defaultOutput)
  saveSnapshot := (given.textOrEmpty? "--save-snapshot").getD ""
  isCheckOnly := given.has "--check-only"

/-! ### Inputs -/

/-- The metadata of a snapshot, labels and window replaced where they are given.  A window of zero
    replaces nothing. -/
def override (r : CompileRequest) (m : Metadata) : Except Fault Metadata :=
  if r.labels.isNone && r.window.isNull then .ok m
  else
    let window := if r.window.isTruthy then r.window else .integer m.window
    Metadata.create (r.labels.getD m.labels) m.variant window

def snapshotInputs (r : CompileRequest) : Work (Network × Metadata) := do
  let (net, m) ← Job.ofExcept (Snapshot.load (.ofText r.snapshot) (← get).tree)
  return (net, ← Job.ofExcept (r.override m))

def checkModel (model : Model) : Work Unit := do
  let report ← Job.ofExcept model.scan
  Work.print report.summary
  if !report.isCompatible then throw .uncompilable

def extract (model : Model) : Work Network := do
  let (lines, result) := model.extractWithReport
  lines.forM Work.print
  Job.ofExcept result

def textOrNull (s : Option String) : Document := (s.map .text).getD .null

def loadModel (r : CompileRequest) (around : Surroundings) (tree : Tree) :
    Except Fault Model := do
  let kwargs ← Literal.assignments r.initKwargs
  let request : ModelRequest :=
    { path := textOrNull r.modelFile
      className := textOrNull r.modelClass
      arguments := .record (kwargs.map fun k => (k.1, k.2.toDocument))
      weights := .text r.weights }
  return .tree (← request.load around.workingDirectory tree)

def modelInputs (r : CompileRequest) (around : Surroundings) : Work (Network × Metadata) := do
  match r.labels, r.window with
  | none, _ | _, .null => throw (.setting .noLabelsOrWindow)
  | some labels, window =>
    let model ← Job.ofExcept (r.loadModel around (← get).tree)
    checkModel model
    let variant ← Job.ofExcept (Variant.ofDocument r.variant)
    let m ← Job.ofExcept (Metadata.create labels variant window)
    return (← extract model, m)

def inputs (r : CompileRequest) (around : Surroundings) : Work (Network × Metadata) :=
  if r.snapshot ≠ "" then r.snapshotInputs else r.modelInputs around

/-! ### Compiling -/

def transport (r : CompileRequest) (variant : Variant) : Transport :=
  let base := Transport.forVariant variant
  { base with deviceName := if r.deviceName.isNull then base.deviceName else r.deviceName }

def settings (r : CompileRequest) (around : Surroundings) (variant : Variant) : Settings :=
  { around.settings with
    boardName := r.board
    sensorName := r.sensor
    transport := some (r.transport variant)
    sampleInterval := r.sampleInterval
    predictionInterval := r.predictionInterval
    baudRate := r.baudRate
    generatedAt := r.timestamp }

def check (p : Project) : Work Unit := do
  p.validate
  Work.print "[OK] Model can be compiled"

def save (r : CompileRequest) (p : Project) : Work Unit := do
  let extra := [("target", r.board), ("sensor", r.sensor)]
  let text := Snapshot.fileText (Snapshot.document p.network p.metadata p.createdAt extra)
  let path ← Work.onTree (Snapshot.save (.ofText r.saveSnapshot) text)
  Work.print s!"  [Snapshot] Wrote {path}"

def run (r : CompileRequest) (around : Surroundings) : Work Unit := do
  let (net, m) ← r.inputs around
  let p ← Job.ofExcept (Project.create net m (r.settings around m.variant))
  if r.isCheckOnly then check p
  else
    if r.saveSnapshot ≠ "" then r.save p
    discard (p.writeAll r.output)

def faultLine (fault : Fault) : String :=
  "ERROR: " ++ fault.description

/-- Compiles what is requested.  A fault of the input is printed; any other one is passed on. -/
def finish (r : CompileRequest) (around : Surroundings) : Work Ending :=
  tryCatch
    (do
      r.run around
      return .success)
    fun fault =>
      if fault.isValueFault then do
        Work.print (faultLine fault)
        return .failure
      else throw fault

end CompileRequest

/-- The program: reads the command line and compiles what it requests. -/
def compile (around : Surroundings) (arguments : List String) : Work Ending :=
  match compileGrammar.read arguments with
  | .error .help => return .success
  | .error .misuse => return .misuse
  | .ok given => (CompileRequest.ofGiven given).finish around

end DenseSketch.CommandLine
