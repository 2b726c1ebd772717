import DenseSketch.Proofs.Pipeline.Passes
import DenseSketch.Proofs.Sample
import DenseSketch.Proofs.Workbench.Refusals

/-!
# Refused compilations

A compilation that a check refuses leaves nothing behind.  The passes write to the draft alone; what
is written for good is written behind the last pass, where only the storage can refuse anything.
This is what SPEC_FULL, section 7, asks for: no partial artifact is returned.
-/

namespace DenseSketch

open Workbench

/-! ### Passes -/

namespace Run

/-- What the workbench of a run shows. -/
def traces (run : Run) : Tree × Option (List String) × Option String := run.bench.traces

variable {α : Type}

theorem keeps_work {job : Work α} (hjob : Job.Keeps Workbench.traces job) :
    Job.Keeps traces (work job) := by
  intro run
  rw [runOn_work]
  exact hjob run.bench

theorem keeps_note (change : Context → Context) : Job.Keeps traces (note change) := fun _ => rfl

end Run

namespace Pass

open Run

variable (p : Project)

/-- No pass changes what is there for good. -/
theorem keeps_run (pass : Pass) : Job.Keeps Run.traces (pass.run p) := by
  cases pass with
  | validate => exact .bind (keeps_work p.keeps_validate) fun _ => keeps_note _
  | buildLayerSpecs => exact .bind (keeps_work p.keeps_buildPlan) fun _ => keeps_note _
  | serializeWeights => exact .bind (keeps_work p.keeps_serializeWeights) fun _ => keeps_note _
  | emitSketch =>
    refine .bind (keeps_work p.keeps_generateSketch) fun _ => .bind (keeps_note _) fun _ =>
      .bind .get fun run => ?_
    cases lookup? tablesKey run.context.fragments with
    | none => exact .throw _
    | some tables =>
      exact .bind (keeps_work (p.keeps_generateHeader tables)) fun _ => keeps_note _
  | renderDocs => exact .bind (keeps_work p.keeps_generateReadme) fun _ => keeps_note _
  | assemble => exact .bind .get fun _ => .bind (.ofExcept _) fun _ => keeps_note _

theorem keeps_runEach (isVerbose : Bool) (passes : List Pass) :
    Job.Keeps Run.traces (runEach p isVerbose passes) := by
  induction passes with
  | nil => exact .pure _
  | cons pass rest ih =>
    refine .bind (keeps_run p pass) fun _ => .bind (keeps_note _) fun _ => ?_
    cases isVerbose with
    | true => exact .bind (keeps_work (Work.keeps_print _)) fun _ => ih
    | false => exact ih

theorem keeps_runAll (isVerbose : Bool) (passes : List Pass) :
    Job.Keeps Run.traces (runAll p isVerbose passes) := by
  cases isVerbose with
  | true => exact .bind (keeps_work (Work.keeps_print _)) fun _ => keeps_runEach p true passes
  | false => exact keeps_runEach p false passes

end Pass

/-! ### Compilations -/

theorem Fault.isSome_message?_of_isCompilation {fault : Fault} (h : fault.isCompilation = true) :
    fault.message?.isSome = true := by
  cases fault <;> first | rfl | cases h

namespace Project

variable (p : Project)

theorem keeps_runPasses : Job.Keeps traces p.runPasses := by
  intro bench
  rw [runPasses, Job.runOn_ofStep]
  exact Pass.keeps_runAll p p.verbose Pass.all { bench := bench }

/-- Where the snapshot cannot be written, the storage says so. -/
theorem isSilent_exportSnapshot : Job.IsSilent p.exportSnapshot :=
  .bind (Work.isSilent_onTree fun _ => Snapshot.silent_save _ _ _) fun _ =>
  .bind (.modify _) fun _ => Work.isSilent_report p _

/-- What announces an artifact is refused only where there is none. -/
theorem isSilent_announced (artifact : Option Artifact) : Job.IsSilent (p.announced artifact) := by
  cases artifact with
  | none => exact .throw rfl
  | some artifact => exact .bind (Work.isSilent_report p _) fun _ => .pure _

/-- All checks stand before the first trace is left. -/
theorem keepsRefused_generateAll : Job.KeepsRefused traces p.generateAll := by
  refine (Work.keeps_report p _).bind_keepsRefused fun _ =>
    p.keeps_runPasses.bind_keepsRefused fun context => Job.IsSilent.keepsRefused ?_
  -- From here on traces are left, and no check is made any more.
  refine .bind (.modify _) fun _ => ?_
  by_cases hsnapshot : p.snapshotDirectory ≠ ""
  · rw [if_pos hsnapshot]
    exact .bind p.isSilent_exportSnapshot fun _ => p.isSilent_announced context.artifact
  · rw [if_neg hsnapshot]
    exact p.isSilent_announced context.artifact

theorem keepsRefused_writeAll (directory : Document) :
    Job.KeepsRefused traces (p.writeAll directory) := by
  unfold writeAll
  split
  · exact Job.Keeps.keepsRefused (.throw _)
  · refine p.keepsRefused_generateAll.bind fun artifact => ?_
    refine .bind (.ofExcept (Location.silent_ofDocument _)) fun location => ?_
    refine .bind (Work.isSilent_onTree (artifact.silent_writeTo location)) fun paths => ?_
    exact .bind (.forM (fun _ => Work.isSilent_report p _) paths) fun _ => .pure _

/-- A compilation that a check refuses leaves nothing behind, whatever has been done on the workbench
    before: every file and every directory is as it was, and the stages of the last complete run and
    the place of the last snapshot stand as they stood. -/
theorem refused_leaves_nothing (bench : Workbench) (directory : Document) {fault : Fault}
    (hchecked : fault.isCompilation = true ∨ fault.message?.isSome = true) :
    ((Job.runOn p.generateAll bench).1 = .error fault →
      (Job.runOn p.generateAll bench).2.tree = bench.tree ∧
      (Job.runOn p.generateAll bench).2.lastStages = bench.lastStages ∧
      (Job.runOn p.generateAll bench).2.snapshotPath = bench.snapshotPath) ∧
    ((Job.runOn (p.writeAll directory) bench).1 = .error fault →
      (Job.runOn (p.writeAll directory) bench).2.tree = bench.tree ∧
      (Job.runOn (p.writeAll directory) bench).2.lastStages = bench.lastStages ∧
      (Job.runOn (p.writeAll directory) bench).2.snapshotPath = bench.snapshotPath) := by
  have hworded : fault.message?.isSome = true :=
    hchecked.elim Fault.isSome_message?_of_isCompilation id
  constructor
  · intro hrefused
    simpa [traces] using p.keepsRefused_generateAll bench fault hrefused hworded
  · intro hrefused
    simpa [traces] using p.keepsRefused_writeAll directory bench fault hrefused hworded

end Project

/-! ### A refused compilation -/

/-- The sample with a window that is too wide for its network, and with a place for snapshots. -/
def Project.misfit : Project :=
  { Project.sample with
    metadata := ⟨["left", "right"], 6, .classification, by decide⟩
    snapshotDirectory := "snapshots" }

/-- A workbench on which something has been compiled and saved. -/
def Workbench.used : Workbench where
  lastStages := some (Pass.all.map Pass.name)
  snapshotPath := some "snapshots/model_ir.json"
  tree := { files := [(["snapshots", "model_ir.json"], .text "")] }

theorem Project.refused_leaves_nothing_misfit :
    (Job.runOn (misfit.writeAll (.text "out")) .used).1 = .error (.window (.network 6 5)) ∧
    (Job.runOn (misfit.writeAll (.text "out")) .used).2.tree = Workbench.used.tree ∧
    (Job.runOn (misfit.writeAll (.text "out")) .used).2.lastStages =
      Workbench.used.lastStages ∧
    (Job.runOn (misfit.writeAll (.text "out")) .used).2.snapshotPath =
      Workbench.used.snapshotPath := by
  have hrefused : (Job.runOn (misfit.writeAll (.text "out")) .used).1 =
      .error (.window (.network 6 5)) := rfl
  exact ⟨hrefused,
    (Project.refused_leaves_nothing misfit .used (.text "out") (.inl rfl)).2 hrefused⟩

end DenseSketch
