import DenseSketch.Sketch.Basic
import DenseSketch.Header
import DenseSketch.Readme
import DenseSketch.Artifact
import DenseSketch.Snapshot.Basic

/-!
# Workbenches

A workbench is where a project is compiled: it holds the draft, what the last complete run left
behind, the files and what has been printed.  A job changes the workbench; what it has changed
before a refusal stays changed.  The checks are the preconditions of SPEC_FULL, section 7.  Printing
a line always succeeds: that a console may be unable to show a single surrogate is left out.
-/

namespace DenseSketch

/-- Draft, traces of the last complete run, files and printed lines. -/
structure Workbench where
  draft : Draft := {}
  /-- The stages of the last complete run, in order. -/
  lastStages : Option (List String) := none
  /-- Where the last exported snapshot went. -/
  snapshotPath : Option String := none
  tree : Tree := {}
  printed : List String := []

/-- A computation on some state that may be refused and keeps what it has changed. -/
abbrev Job (σ α : Type) := ExceptT Fault (StateM σ) α

namespace Job

variable {σ α : Type}

def ofExcept (result : Except Fault α) : Job σ α :=
  match result with
  | .ok a => pure a
  | .error fault => throw fault

/-- Runs a job: the state it leaves and its result. -/
def runOn (job : Job σ α) (state : σ) : Except Fault α × σ :=
  Id.run (StateT.run (ExceptT.run job) state)

/-- A step that may change the state even where it is refused. -/
def ofStep (step : σ → σ × Except Fault α) : Job σ α :=
  ExceptT.mk do
    let state ← get
    let (changed, result) := step state
    set changed
    pure result

end Job

abbrev Work (α : Type) := Job Workbench α

namespace Work

def print (line : String) : Work Unit :=
  modify fun bench => { bench with printed := bench.printed ++ [line] }

def report (p : Project) (line : String) : Work Unit :=
  if p.verbose then print line else pure ()

/-- A step on the files. -/
def onTree {α : Type} (step : Tree → Tree × Except Fault α) : Work α :=
  Job.ofStep fun bench =>
    let (tree, result) := step bench.tree
    ({ bench with tree := tree }, result)

end Work

namespace Project

/-! ### Checks -/

def checkCounts (p : Project) : Except Fault Unit := do
  let m := p.metadata
  if m.outputCount ≠ p.network.outputs then
    throw (.outputCount (.labels m.outputCount p.network.outputs))
  if m.window ≠ p.network.inputs then
    throw (.window (.network m.window p.network.inputs))
  let frameSize ← p.sensor.frameSize
  if frameSize = 0 then throw .zeroDivisor
  if m.window % frameSize ≠ 0 then
    throw (.window (.frames m.window frameSize (Sensor.shownField p.sensor.name)))

def checkPins (p : Project) : Except Fault Unit :=
  match p.metadata.variant with
  | .classification => .ok ()
  | .regression =>
    match p.board.pwmPins (.integer p.metadata.outputCount) with
    | .ok _ => .ok ()
    | .error (.board cause) => .error (.outputCount (.pins cause))
    | .error fault => .error fault

def checkCapacity (p : Project) : Except Fault Unit := do
  let longest ← Message.maxLength p.metadata
  let capacity := p.transport.txCapacity
  if ← capacity.isBelow (.integer longest) then
    match p.metadata.variant with
    | .classification => throw (.label (.message longest capacity.shown))
    | .regression => throw (.outputCount (.message longest capacity.shown))

def check (p : Project) : Except Fault Unit := do
  p.network.checkChain
  Message.checkLabels p.metadata.variant p.metadata.labels
  p.checkCounts
  p.checkPins
  p.checkCapacity

/-! ### Stages -/

def validate (p : Project) : Work Unit := do
  Job.ofExcept p.check
  Work.report p (s!"  [Validate] {p.network.layers.length} layers, " ++
    s!"{p.network.parameterCount} parameters, {p.metadata.outputCount} outputs " ++
    s!"({p.metadata.variant.name})")

def buildPlan (p : Project) : Work (List Step) := do
  let plan ← Job.ofExcept p.plan
  modify fun bench =>
    { bench with
      draft := { bench.draft with steps := plan.steps, unitDefines := plan.unitDefines } }
  let pins ← Job.ofExcept p.pins
  modify fun bench => { bench with draft := { bench.draft with pins := pins } }
  return plan.steps

def serializeWeights (p : Project) : Work String := do
  let lines ← Job.ofExcept p.tables
  modify fun bench =>
    { bench with draft := { bench.draft with tableBytes := Table.sizeInBytes p.network } }
  return Text.unlines lines

def generateSketch (p : Project) : Work String := do
  Job.ofExcept (p.sketch (← get).draft)

def generateHeader (p : Project) (tables : String) : Work String := do
  Job.ofExcept (p.header (← get).draft tables)

def generateReadme (p : Project) : Work String := do
  Job.ofExcept (p.readme (← get).draft)

end Project

end DenseSketch
