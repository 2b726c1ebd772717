import DenseSketch.Workbench

/-!
# Pipelines

A compilation runs six passes in order.  A run keeps a context: which passes are complete, what they
found, the rendered parts and files and, at the end, the artifact.  The passes may be run in any
order; a pass that is refused leaves the context as it had changed it so far.  This is the pipeline
of SPEC_FULL, section 9.3, with `generate_all` and `write_all` of the Artifact Assembler (section
4.5).
-/

namespace DenseSketch

inductive Pass where
  | validate
  | buildLayerSpecs
  | serializeWeights
  | emitSketch
  | renderDocs
  | assemble
  deriving DecidableEq, Repr

namespace Pass

def name : Pass → String
  | .validate => "validate"
  | .buildLayerSpecs => "build_layer_specs"
  | .serializeWeights => "serialize_weights"
  | .emitSketch => "emit_sketch"
  | .renderDocs => "render_docs"
  | .assemble => "assemble"

def all : List Pass :=
  [.validate, .buildLayerSpecs, .serializeWeights, .emitSketch, .renderDocs, .assemble]

def ofName? (name : String) : Option Pass := all.find? (·.name == name)

end Pass

structure Diagnostics where
  layerCount : Option Nat := none
  parameterCount : Option Nat := none
  layerSpecsCount : Option Nat := none
  tableBytes : Option Nat := none
  artifactFiles : Option (List String) := none
  /-- The passes that have been recorded, in order. -/
  stages : List String := []

/-- What a run has to show so far. -/
structure Context where
  diagnostics : Diagnostics := {}
  fragments : List (String × String) := []
  files : List (String × String) := []
  artifact : Option Artifact := none
  /-- The complete passes, in order. -/
  stageOrder : List String := []

structure Run where
  bench : Workbench
  context : Context := {}

namespace Run

def work {α : Type} (job : Work α) : Job Run α :=
  Job.ofStep fun run =>
    let (result, bench) := Job.runOn job run.bench
    ({ run with bench := bench }, result)

def note (change : Context → Context) : Job Run Unit :=
  modify fun run => { run with context := change run.context }

def keepFile (name text : String) : Job Run Unit :=
  note fun c => { c with files := put name text c.files }

end Run

namespace Pass

/-- The key of the rendered tables among the parts of a run. -/
def tablesKey : String := "weight_tables"

def run (p : Project) : Pass → Job Run Unit
  | .validate => do
    Run.work p.validate
    Run.note fun c =>
      { c with
        diagnostics :=
          { c.diagnostics with
            layerCount := some p.network.layers.length
            parameterCount := some p.network.parameterCount } }
  | .buildLayerSpecs => do
    let steps ← Run.work p.buildPlan
    Run.note fun c =>
      { c with diagnostics := { c.diagnostics with layerSpecsCount := some steps.length } }
  | .serializeWeights => do
    let tables ← Run.work p.serializeWeights
    Run.note fun c =>
      { c with
        fragments := put tablesKey tables c.fragments
        diagnostics :=
          { c.diagnostics with tableBytes := some (Table.sizeInBytes p.network) } }
  | .emitSketch => do
    let sketch ← Run.work p.generateSketch
    Run.keepFile p.sketchName sketch
    match lookup? tablesKey (← get).context.fragments with
    | none => throw (.noSuchKey tablesKey)
    | some tables =>
      let header ← Run.work (p.generateHeader tables)
      Run.keepFile Project.headerName header
  | .renderDocs => do
    let readme ← Run.work p.generateReadme
    Run.keepFile Project.readmeName readme
  | .assemble => do
    let artifact ← Job.ofExcept (Artifact.create (← get).context.files)
    Run.note fun c =>
      { c with
        artifact := some artifact
        diagnostics :=
          { c.diagnostics with
            artifactFiles := some (artifact.names.mergeSort fun a b => decide (a ≤ b)) } }

def record (name : String) : Job Run Unit :=
  Run.note fun c =>
    { c with
      stageOrder := c.stageOrder ++ [name]
      diagnostics := { c.diagnostics with stages := c.diagnostics.stages ++ [name] } }

def runEach (p : Project) (isVerbose : Bool) : List Pass → Job Run Unit
  | [] => pure ()
  | pass :: rest => do
    pass.run p
    record pass.name
    if isVerbose then Run.work (Work.print s!"  [Pipeline] {pass.name}: {p.elapsed}s")
    runEach p isVerbose rest

def runAll (p : Project) (isVerbose : Bool) (passes : List Pass) : Job Run Unit := do
  if isVerbose then Run.work (Work.print "\n[Pipeline] Running sketch generation pipeline...")
  runEach p isVerbose passes

end Pass

namespace Project

/-- Compiles the project in a context of its own and yields that context. -/
def runPasses (p : Project) : Work Context :=
  Job.ofStep fun bench =>
    let (result, run) := Job.runOn (Pass.runAll p p.verbose Pass.all) { bench := bench }
    (run.bench, result.map fun _ => run.context)

/-- Exports a snapshot that names the board and the sensor. -/
def exportSnapshot (p : Project) : Work Unit := do
  let extra := [("target", p.board.name), ("sensor", p.sensor.name)]
  let text := Snapshot.fileText (Snapshot.document p.network p.metadata p.createdAt extra)
  let path ← Work.onTree (Snapshot.save (Snapshot.location p.snapshotDirectory "") text)
  modify fun bench => { bench with snapshotPath := some path }
  Work.report p s!"  [Snapshot] Wrote {path}"

/-- Runs all passes, exports a snapshot if the project asks for one, and yields the artifact. -/
def generateAll (p : Project) : Work Artifact := do
  Work.report p (s!"[Codegen] Target: {p.board.displayName.shown}, " ++
    s!"sensor: {Sensor.shownField p.sensor.name}")
  let context ← p.runPasses
  modify fun bench => { bench with lastStages := some context.stageOrder }
  if p.snapshotDirectory ≠ "" then p.exportSnapshot
  match context.artifact with
  | none => throw .noSuchMember
  | some artifact =>
    Work.report p s!"[OK] Generated {commaSeparated artifact.names}"
    return artifact

/-- Where files are written: to the directory that is given, or where none is, to the project's
    own. -/
def destination (p : Project) (directory : Document) : Document :=
  if directory.isNull then (p.outputDirectory.map .text).getD .null else directory

/-- Generates all files and writes them into a directory, by default the project's own.  That the
    directory has a text for a name only matters when there are files. -/
def writeAll (p : Project) (directory : Document) : Work (List String) := do
  match p.destination directory with
  | .null => throw (.setting .noOutputDirectory)
  | directory =>
    let artifact ← p.generateAll
    let location ← Job.ofExcept (Location.ofDocument directory)
    let paths ← Work.onTree (artifact.writeTo location)
    paths.forM fun path => Work.report p s!"  [OK] Wrote {path}"
    return paths

end Project

end DenseSketch
