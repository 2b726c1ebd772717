import DenseSketch.Pipeline
import DenseSketch.Proofs.Project.Files
import DenseSketch.Proofs.Workbench.Stages

/-!
# Passes of a pipeline

What each pass makes of the products of a run: the parts and files that have been rendered, and the
artifact.  What is recorded about a run beside its products does not bear on the passes.
-/

namespace DenseSketch

namespace Run

/-- What a run has made so far: parts, files and the artifact. -/
structure Products where
  fragments : List (String × String)
  files : List (String × String)
  artifact : Option Artifact

/-- The products of a run. -/
def products (run : Run) : Products :=
  ⟨run.context.fragments, run.context.files, run.context.artifact⟩

@[simp]
theorem runOn_work {α : Type} (job : Work α) (run : Run) :
    Job.runOn (work job) run =
      ((Job.runOn job run.bench).1, { run with bench := (Job.runOn job run.bench).2 }) :=
  rfl

@[simp]
theorem runOn_note (change : Context → Context) (run : Run) :
    Job.runOn (note change) run = (.ok (), { run with context := change run.context }) :=
  rfl

end Run

namespace Pass

variable {p : Project} {run after : Run}

/-! ### One pass -/

theorem runOn_validate (hcheck : p.check = .ok ()) (run : Run) :
    ∃ after, Job.runOn (Pass.validate.run p) run = (.ok (), after) ∧
      after.products = run.products := by
  obtain ⟨printed, hvalidate⟩ := Project.runOn_validate p run.bench
  simp [Pass.run, Job.runOn_bind, hvalidate, hcheck, Run.products]

/-- The first pass is refused for what the checks are refused for. -/
theorem runOn_validate_of_error {fault : Fault} (hcheck : p.check = .error fault) (run : Run) :
    ∃ after, Job.runOn (Pass.validate.run p) run = (.error fault, after) := by
  obtain ⟨printed, hvalidate⟩ := Project.runOn_validate p run.bench
  simp [Pass.run, Job.runOn_bind, hvalidate, hcheck]

theorem runOn_buildLayerSpecs (hcheck : p.check = .ok ()) (run : Run) :
    ∃ after, Job.runOn (Pass.buildLayerSpecs.run p) run = (.ok (), after) ∧
      after.products = run.products := by
  obtain ⟨pins, hpins⟩ := Project.pins_of_check hcheck
  have hbuild := Project.runOn_buildPlan (Project.plan_of_check hcheck) hpins run.bench
  simp [Pass.run, Job.runOn_bind, hbuild, Run.products]

theorem runOn_serializeWeights {lines : List String} (htables : p.tables = .ok lines) (run : Run) :
    ∃ after, Job.runOn (Pass.serializeWeights.run p) run = (.ok (), after) ∧
      after.products =
        { run.products with
          fragments := put tablesKey (Text.unlines lines) run.products.fragments } := by
  have hserialize := Project.runOn_serializeWeights p run.bench
  simp [Pass.run, Job.runOn_bind, hserialize, htables, Except.map, Run.products]

theorem runOn_serializeWeights_of_error {fault : Fault} (htables : p.tables = .error fault)
    (run : Run) :
    ∃ after, Job.runOn (Pass.serializeWeights.run p) run = (.error fault, after) := by
  have hserialize := Project.runOn_serializeWeights p run.bench
  simp [Pass.run, Job.runOn_bind, hserialize, htables, Except.map]

theorem runOn_emitSketch (htyped : p.WellTyped) (hcheck : p.check = .ok ()) {tables : String}
    (hfound : lookup? tablesKey run.products.fragments = some tables) :
    ∃ sketch header after, Job.runOn (Pass.emitSketch.run p) run = (.ok (), after) ∧
      after.products =
        { run.products with
          files :=
            put Project.headerName header (put p.sketchName sketch run.products.files) } := by
  obtain ⟨sketch, hsketch⟩ := Project.sketch_of_check htyped hcheck run.bench.draft
  have hheader := Project.header_of_check htyped hcheck run.bench.draft tables
  have hthere : lookup? tablesKey run.context.fragments = some tables := hfound
  refine ⟨sketch, Header.text p run.bench.draft tables, ?_⟩
  simp [Pass.run, Job.runOn_bind, Run.keepFile, hsketch, hheader, hthere, Run.products]

theorem runOn_renderDocs (htyped : p.WellTyped) (hcheck : p.check = .ok ()) (run : Run) :
    ∃ readme after, Job.runOn (Pass.renderDocs.run p) run = (.ok (), after) ∧
      after.products =
        { run.products with files := put Project.readmeName readme run.products.files } := by
  obtain ⟨readme, hreadme⟩ := Project.readme_of_check htyped hcheck run.bench.draft
  refine ⟨readme, ?_⟩
  simp [Pass.run, Job.runOn_bind, Run.keepFile, hreadme, Run.products]

theorem runOn_assemble {artifact : Artifact}
    (hcreate : Artifact.create run.products.files = .ok artifact) :
    ∃ after, Job.runOn (Pass.assemble.run p) run = (.ok (), after) ∧
      after.products = { run.products with artifact := some artifact } := by
  have hfiles : Artifact.create run.context.files = .ok artifact := hcreate
  simp [Pass.run, Job.runOn_bind, hfiles, Run.products]

/-! ### Several passes -/

variable {pass : Pass} {rest : List Pass} {isVerbose : Bool}

theorem runOn_record (name : String) (run : Run) :
    ∃ recorded, Job.runOn (record name) run = (.ok (), recorded) ∧
      recorded.products = run.products :=
  ⟨_, rfl, rfl⟩

theorem runOn_print (line : String) (run : Run) :
    ∃ printed, Job.runOn (Run.work (Work.print line)) run = (.ok (), printed) ∧
      printed.products = run.products :=
  ⟨_, rfl, rfl⟩

/-- The passes behind one that is complete find its products. -/
theorem runEach_cons_of_ok (hpass : Job.runOn (pass.run p) run = (.ok (), after))
    (isVerbose : Bool) (rest : List Pass) :
    ∃ next, next.products = after.products ∧
      Job.runOn (runEach p isVerbose (pass :: rest)) run =
        Job.runOn (runEach p isVerbose rest) next := by
  obtain ⟨recorded, hrecord, hproducts⟩ := runOn_record pass.name after
  rw [runEach, Job.runOn_bind_of_ok hpass, Job.runOn_bind_of_ok hrecord]
  cases isVerbose with
  | true =>
    obtain ⟨printed, hprint, hsame⟩ :=
      runOn_print s!"  [Pipeline] {pass.name}: {p.elapsed}s" recorded
    exact ⟨printed, hsame.trans hproducts, Job.runOn_bind_of_ok hprint _⟩
  | false => exact ⟨recorded, hproducts, rfl⟩

/-- Behind a pass that is refused nothing is run. -/
theorem runEach_cons_of_error {fault : Fault}
    (hpass : Job.runOn (pass.run p) run = (.error fault, after)) (isVerbose : Bool)
    (rest : List Pass) :
    Job.runOn (runEach p isVerbose (pass :: rest)) run = (.error fault, after) := by
  rw [runEach, Job.runOn_bind_of_error hpass]

/-- From products of one kind the pass makes products of another. -/
def Completes (p : Project) (pass : Pass) (before behind : Run.Products → Prop) : Prop :=
  ∀ run : Run, before run.products →
    ∃ after, Job.runOn (pass.run p) run = (.ok (), after) ∧ behind after.products

/-- The same for several passes, one after the other. -/
def AllComplete (p : Project) (passes : List Pass) (before behind : Run.Products → Prop) : Prop :=
  ∀ (isVerbose : Bool) (run : Run), before run.products →
    ∃ after, Job.runOn (runEach p isVerbose passes) run = (.ok (), after) ∧ behind after.products

/-- From products of this kind one of the passes is refused. -/
def Refused (p : Project) (passes : List Pass) (before : Run.Products → Prop) (fault : Fault) :
    Prop :=
  ∀ (isVerbose : Bool) (run : Run), before run.products →
    ∃ after, Job.runOn (runEach p isVerbose passes) run = (.error fault, after)

variable {before between behind : Run.Products → Prop} {fault : Fault}

theorem Completes.runEach_cons (hpass : pass.Completes p before between) (isVerbose : Bool)
    (rest : List Pass) (hbefore : before run.products) :
    ∃ next : Run, between next.products ∧
      Job.runOn (runEach p isVerbose (pass :: rest)) run =
        Job.runOn (runEach p isVerbose rest) next := by
  obtain ⟨after, hafter, hbetween⟩ := hpass run hbefore
  obtain ⟨next, hnext, heach⟩ := runEach_cons_of_ok hafter isVerbose rest
  exact ⟨next, hnext ▸ hbetween, heach⟩

theorem AllComplete.nil (p : Project) (before : Run.Products → Prop) :
    AllComplete p [] before before :=
  fun _ run hbefore => ⟨run, rfl, hbefore⟩

theorem AllComplete.cons (hpass : pass.Completes p before between)
    (hrest : AllComplete p rest between behind) : AllComplete p (pass :: rest) before behind := by
  intro isVerbose run hbefore
  obtain ⟨next, hnext, heach⟩ := hpass.runEach_cons isVerbose rest hbefore
  rw [heach]
  exact hrest isVerbose next hnext

theorem Refused.head
    (hpass : ∀ run : Run, before run.products →
      ∃ after, Job.runOn (pass.run p) run = (.error fault, after)) (rest : List Pass) :
    Refused p (pass :: rest) before fault := by
  intro isVerbose run hbefore
  obtain ⟨after, hafter⟩ := hpass run hbefore
  exact ⟨after, runEach_cons_of_error hafter isVerbose rest⟩

theorem Refused.cons (hpass : pass.Completes p before between)
    (hrest : Refused p rest between fault) : Refused p (pass :: rest) before fault := by
  intro isVerbose run hbefore
  obtain ⟨next, hnext, heach⟩ := hpass.runEach_cons isVerbose rest hbefore
  rw [heach]
  exact hrest isVerbose next hnext

/-- A pipeline runs its passes, whatever it prints before them. -/
theorem runOn_runAll (p : Project) (isVerbose : Bool) (passes : List Pass) (run : Run) :
    ∃ start, start.products = run.products ∧
      Job.runOn (runAll p isVerbose passes) run = Job.runOn (runEach p isVerbose passes) start := by
  cases isVerbose with
  | true =>
    obtain ⟨printed, hprint, hsame⟩ :=
      runOn_print "\n[Pipeline] Running sketch generation pipeline..." run
    exact ⟨printed, hsame, Job.runOn_bind_of_ok hprint _⟩
  | false => exact ⟨run, rfl, rfl⟩

end Pass

/-! ### The end of a compilation -/

/-- What a compilation comes to behind its last trace: the artifact is announced where there is one. -/
def Project.announced (p : Project) : Option Artifact → Work Artifact
  | none => throw .noSuchMember
  | some artifact => do
    Work.report p s!"[OK] Generated {commaSeparated artifact.names}"
    return artifact

end DenseSketch
