import DenseSketch.Proofs.Pipeline.Contexts
import DenseSketch.Proofs.Pipeline.Outcome

/-!
# What a compilation yields

A compilation that comes to its end has passed every check and has found the plan, the pins and the
tables; its files are rendered from these alone, whatever the workbench held before.
-/

namespace DenseSketch

namespace Pass

variable {p : Project} {isVerbose : Bool} {bench : Workbench} {passes : List Pass} {run last : Run}

/-- Passes that advance one after the other. -/
inductive AdvanceAll (p : Project) : List Pass → Run.Progress → Run.Progress → Prop
  | nil {before : Run.Progress} : AdvanceAll p [] before before
  | cons {pass : Pass} {rest : List Pass} {before between behind : Run.Progress}
    (hpass : Advances p pass before between) (hrest : AdvanceAll p rest between behind) :
    AdvanceAll p (pass :: rest) before behind

theorem advanceAll_of_runEach
    (h : Job.runOn (runEach p isVerbose passes) run = (.ok (), last)) :
    AdvanceAll p passes run.progress last.progress := by
  induction passes generalizing run with
  | nil =>
    cases h
    exact .nil
  | cons pass rest ih =>
    rcases run_cases p pass run with ⟨after, hpass, hadvance⟩ | ⟨fault, after, hpass, -, -⟩
    · obtain ⟨next, hnext, hprogress, -⟩ := runEach_singleton_of_ok hpass isVerbose
      rw [← List.singleton_append, runEach_append, Job.runOn_bind_of_ok hnext] at h
      rw [← hprogress] at hadvance
      exact .cons hadvance (ih h)
    · rw [runEach_cons_of_error hpass] at h
      cases h

theorem Reaches.exists_advanceAll (h : Reaches p isVerbose bench passes run) :
    ∃ start : Run.Progress, start.made = ⟨[], [], none⟩ ∧
      AdvanceAll p passes start run.progress := by
  rw [← List.nil_append passes] at h
  obtain ⟨start, hstart, hrest⟩ := h.exists_of_append
  obtain ⟨fresh, hfresh, hcontext⟩ := reaches_nil p isVerbose bench
  cases hfresh.symm.trans hstart
  refine ⟨start.progress, ?_, advanceAll_of_runEach hrest⟩
  rw [Run.progress, Run.products, hcontext]

end Pass

/-- What the stages before the files find where none of them is refused. -/
structure Findings (p : Project) where
  plan : Plan
  pins : List Document
  tables : List String
  check_eq : p.check = .ok ()
  plan_eq : p.plan = .ok plan
  pins_eq : p.pins = .ok pins
  tables_eq : p.tables = .ok tables

/-- The complete draft. -/
def Findings.draft {p : Project} (found : Findings p) : Draft :=
  ⟨found.plan.steps, found.plan.unitDefines, found.pins, Table.sizeInBytes p.network⟩

/-- A compilation that has come to its end: its files are rendered from the complete draft. -/
structure Compilation (p : Project) extends Findings p where
  sketch : String
  header : String
  readme : String
  sketch_eq : p.sketch toFindings.draft = .ok sketch
  header_eq : p.header toFindings.draft (Text.unlines tables) = .ok header
  readme_eq : p.readme toFindings.draft = .ok readme

namespace Compilation

variable {p : Project} {artifact : Artifact}

/-- The files in the order in which they are made. -/
def files (c : Compilation p) : List (String × String) :=
  [(p.sketchName, c.sketch), (Project.headerName, c.header), (Project.readmeName, c.readme)]

theorem text_eq_ok (c : Compilation p) (h : artifact.files = c.files) {name text : String}
    (hmem : (name, text) ∈ c.files) : artifact.text name = .ok text := by
  have hnodup : (c.files.map (·.1)).Nodup := p.nodup_fileNames
  rw [Artifact.text, h, lookup?_eq_some_of_mem hnodup hmem]

end Compilation

namespace Project

variable {p : Project} {bench : Workbench} {artifact : Artifact}

/-- What is announced is the artifact that is there. -/
theorem artifact_of_announced {found : Option Artifact}
    (h : (Job.runOn (p.announced found) bench).1 = .ok artifact) : found = some artifact := by
  cases found with
  | none => cases h
  | some made =>
    obtain ⟨_, reported, -, h⟩ := Job.exists_of_runOn_bind_eq_ok h
    exact congrArg some (Except.ok.inj h)

theorem exists_reaches_of_generateAll (h : (Job.runOn p.generateAll bench).1 = .ok artifact) :
    ∃ start run, Pass.Reaches p p.verbose start Pass.all run ∧
      run.context.artifact = some artifact := by
  rw [generateAll] at h
  obtain ⟨_, reported, -, h⟩ := Job.exists_of_runOn_bind_eq_ok h
  obtain ⟨context, compiled, hpasses, h⟩ := Job.exists_of_runOn_bind_eq_ok h
  obtain ⟨_, noted, -, h⟩ := Job.exists_of_runOn_bind_eq_ok h
  have hfound : context.artifact = some artifact := by
    dsimp only at h
    split at h
    · obtain ⟨_, exported, -, h⟩ := Job.exists_of_runOn_bind_eq_ok h
      exact artifact_of_announced h
    · exact artifact_of_announced h
  rw [runPasses, Job.runOn_ofStep] at hpasses
  cases hrun : Job.runOn (Pass.runAll p p.verbose Pass.all) { bench := reported } with
  | mk result run =>
    rw [hrun] at hpasses
    cases result with
    | error fault => cases hpasses
    | ok _ =>
      cases hpasses
      exact ⟨reported, run, hrun, hfound⟩

theorem exists_compilation_of_advanceAll {start last : Run.Progress}
    (hstart : start.made = ⟨[], [], none⟩) (h : Pass.AdvanceAll p Pass.all start last) :
    ∃ c : Compilation p, ∃ artifact, last.made.artifact = some artifact ∧
      artifact.files = c.files := by
  cases h with | cons hcheck h =>
  cases h with | cons hbuild h =>
  cases h with | cons hserialize h =>
  cases h with | cons hemit h =>
  cases h with | cons hrender h =>
  cases h with | cons hassemble h =>
  cases h
  cases hcheck with | validate hcheck =>
  cases hbuild with | buildLayerSpecs plan pins hplan hpins =>
  cases hserialize with | serializeWeights tables htables =>
  cases hemit with | emitSketch sketch found header hsketch hfound hheader =>
  cases hrender with | renderDocs readme hreadme =>
  cases hassemble with | assemble artifact hcreate =>
  -- The tables that the header is made of are those of the pass before it.
  rw [lookup?_put_self, Option.some.injEq] at hfound
  subst hfound
  obtain ⟨-, hfiles⟩ := Artifact.create_eq_ok.1 hcreate
  let found : Findings p := ⟨plan, pins, tables, hcheck, hplan, hpins, htables⟩
  refine ⟨⟨found, sketch, header, readme, hsketch, hheader, hreadme⟩, artifact, rfl, ?_⟩
  rw [hfiles, hstart]
  simp only [put, p.sketchName_ne.1, p.sketchName_ne.2, Bool.false_eq_true, if_false]
  rfl

/-- A compilation with an artifact has come to its end, and the artifact has its files. -/
theorem exists_compilation (h : (Job.runOn p.generateAll bench).1 = .ok artifact) :
    ∃ c : Compilation p, artifact.files = c.files := by
  obtain ⟨start, run, hrun, hartifact⟩ := exists_reaches_of_generateAll h
  obtain ⟨first, hfresh, hadvance⟩ := hrun.exists_advanceAll
  obtain ⟨c, made, hmade, hfiles⟩ := exists_compilation_of_advanceAll hfresh hadvance
  have hsame : some made = some artifact := hmade.symm.trans hartifact
  cases hsame
  exact ⟨c, hfiles⟩

end Project

end DenseSketch
