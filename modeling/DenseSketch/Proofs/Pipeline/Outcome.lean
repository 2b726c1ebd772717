import DenseSketch.Proofs.Pipeline.Passes
import DenseSketch.Proofs.Sample

/-!
# The outcome of a compilation

A compilation yields an artifact exactly when every check passes and every value of the network is
finite.  There are three files then; otherwise the fault is that of the checks, or that of a value
which is not finite.  SPEC_FULL, section 4.5, names the files, section 7 the errors.
-/

namespace DenseSketch

/-! ### All passes -/

namespace Run.Products

/-- No file has been made. -/
def IsFresh (made : Products) : Prop := made.files = []

/-- No file has been made, but the tables are there. -/
def HasTables (made : Products) : Prop :=
  made.files = [] ∧ ∃ tables, lookup? Pass.tablesKey made.fragments = some tables

/-- The sketch and the header have been made. -/
def HasSketch (p : Project) (made : Products) : Prop :=
  ∃ sketch header, made.files = [(p.sketchName, sketch), (Project.headerName, header)]

/-- All three files have been made. -/
def HasFiles (p : Project) (made : Products) : Prop :=
  ∃ sketch header readme, made.files =
    [(p.sketchName, sketch), (Project.headerName, header), (Project.readmeName, readme)]

/-- The artifact is there and has the three files. -/
def HasArtifact (p : Project) (made : Products) : Prop :=
  ∃ artifact, made.artifact = some artifact ∧
    artifact.names = [p.sketchName, Project.headerName, Project.readmeName]

end Run.Products

theorem Project.sketchName_ne (p : Project) :
    (p.sketchName == headerName) = false ∧ (p.sketchName == readmeName) = false := by
  unfold sketchName
  cases p.metadata.variant <;> exact ⟨rfl, rfl⟩

namespace Pass

open Run.Products

variable {p : Project} {fault : Fault}

theorem completes_validate (hcheck : p.check = .ok ()) :
    validate.Completes p IsFresh IsFresh := by
  intro run hfresh
  obtain ⟨after, hafter, hmade⟩ := runOn_validate hcheck run
  exact ⟨after, hafter, hmade ▸ hfresh⟩

theorem completes_buildLayerSpecs (hcheck : p.check = .ok ()) :
    buildLayerSpecs.Completes p IsFresh IsFresh := by
  intro run hfresh
  obtain ⟨after, hafter, hmade⟩ := runOn_buildLayerSpecs hcheck run
  exact ⟨after, hafter, hmade ▸ hfresh⟩

theorem completes_serializeWeights {lines : List String} (htables : p.tables = .ok lines) :
    serializeWeights.Completes p IsFresh HasTables := by
  intro run hfresh
  obtain ⟨after, hafter, hmade⟩ := runOn_serializeWeights htables run
  refine ⟨after, hafter, ?_⟩
  rw [hmade]
  exact ⟨hfresh, _, lookup?_put_self ..⟩

theorem completes_emitSketch (htyped : p.WellTyped) (hcheck : p.check = .ok ()) :
    emitSketch.Completes p HasTables (HasSketch p) := by
  rintro run ⟨hfiles, tables, hfound⟩
  obtain ⟨sketch, header, after, hafter, hmade⟩ := runOn_emitSketch htyped hcheck hfound
  refine ⟨after, hafter, sketch, header, ?_⟩
  rw [hmade, hfiles]
  simp only [put, p.sketchName_ne.1, Bool.false_eq_true, if_false]

theorem completes_renderDocs (htyped : p.WellTyped) (hcheck : p.check = .ok ()) :
    renderDocs.Completes p (HasSketch p) (HasFiles p) := by
  rintro run ⟨sketch, header, hfiles⟩
  obtain ⟨readme, after, hafter, hmade⟩ := runOn_renderDocs htyped hcheck run
  refine ⟨after, hafter, sketch, header, readme, ?_⟩
  rw [hmade, hfiles]
  simp only [put, p.sketchName_ne.2, Bool.false_eq_true, if_false]
  rfl

theorem completes_assemble (p : Project) : assemble.Completes p (HasFiles p) (HasArtifact p) := by
  rintro run ⟨sketch, header, readme, hfiles⟩
  have hcreate : Artifact.create run.products.files = .ok ⟨run.products.files, by simp [hfiles]⟩ :=
    dif_pos _
  obtain ⟨after, hafter, hmade⟩ := runOn_assemble (p := p) hcreate
  refine ⟨after, hafter, ?_⟩
  rw [hmade]
  exact ⟨_, rfl, by simp [Artifact.names, hfiles]⟩

/-- Behind the checks and the tables no pass is refused. -/
theorem allComplete_all (htyped : p.WellTyped) (hcheck : p.check = .ok ()) {lines : List String}
    (htables : p.tables = .ok lines) : AllComplete p all IsFresh (HasArtifact p) :=
  .cons (completes_validate hcheck) <|
  .cons (completes_buildLayerSpecs hcheck) <|
  .cons (completes_serializeWeights htables) <|
  .cons (completes_emitSketch htyped hcheck) <|
  .cons (completes_renderDocs htyped hcheck) <|
  .cons (completes_assemble p) <|
  .nil p (HasArtifact p)

theorem refused_all_of_check (hcheck : p.check = .error fault) : Refused p all IsFresh fault :=
  .head (fun run _ => runOn_validate_of_error hcheck run) _

theorem refused_all_of_tables (hcheck : p.check = .ok ()) (htables : p.tables = .error fault) :
    Refused p all IsFresh fault :=
  .cons (completes_validate hcheck) <|
  .cons (completes_buildLayerSpecs hcheck) <|
  .head (fun run _ => runOn_serializeWeights_of_error htables run) _

end Pass

/-! ### The artifact -/

namespace Project

open Run.Products

variable {p : Project}

theorem runOn_runPasses (p : Project) (bench : Workbench) :
    ∃ start : Run, IsFresh start.products ∧
      Job.runOn p.runPasses bench =
        ((Job.runOn (Pass.runEach p p.verbose Pass.all) start).1.map fun _ =>
            (Job.runOn (Pass.runEach p p.verbose Pass.all) start).2.context,
          (Job.runOn (Pass.runEach p p.verbose Pass.all) start).2.bench) := by
  obtain ⟨start, hstart, hrun⟩ := Pass.runOn_runAll p p.verbose Pass.all { bench := bench }
  refine ⟨start, ?_, ?_⟩
  · rw [IsFresh, hstart]
    rfl
  · rw [← hrun]
    rfl

theorem generateAll_of_allComplete (hsnapshot : p.snapshotDirectory = "")
    (hcomplete : Pass.AllComplete p Pass.all IsFresh (HasArtifact p)) (bench : Workbench) :
    ∃ artifact, (Job.runOn p.generateAll bench).1 = .ok artifact ∧
      artifact.names = [p.sketchName, headerName, readmeName] := by
  rw [generateAll, Job.runOn_bind_of_ok (Work.runOn_report p _ bench)]
  obtain ⟨start, hfresh, hpasses⟩ := p.runOn_runPasses _
  obtain ⟨after, hafter, artifact, hartifact, hnames⟩ := hcomplete p.verbose start hfresh
  rw [hafter] at hpasses
  refine ⟨artifact, ?_, hnames⟩
  have hfound : after.context.artifact = some artifact := hartifact
  rw [Job.runOn_bind_of_ok hpasses]
  simp [Job.runOn_bind, Job.runOn_map, hsnapshot, hfound, Work.runOn_report, Except.map]

/-- What has passed the checks is compiled where every value is finite. -/
theorem exists_artifact_of_check (htyped : p.WellTyped) (hcheck : p.check = .ok ())
    (hfinite : ∀ x ∈ p.network.layers.flatMap Layer.parameters, x.isFinite)
    (hsnapshot : p.snapshotDirectory = "") (bench : Workbench) :
    ∃ artifact, (Job.runOn p.generateAll bench).1 = .ok artifact := by
  obtain ⟨lines, htables⟩ := p.needsFinite_tables.exists_eq_ok_iff.2 hfinite
  obtain ⟨artifact, hartifact, -⟩ :=
    generateAll_of_allComplete hsnapshot (Pass.allComplete_all htyped hcheck htables) bench
  exact ⟨artifact, hartifact⟩

theorem generateAll_of_refused {fault : Fault} (hrefused : Pass.Refused p Pass.all IsFresh fault)
    (bench : Workbench) : (Job.runOn p.generateAll bench).1 = .error fault := by
  rw [generateAll, Job.runOn_bind_of_ok (Work.runOn_report p _ bench)]
  obtain ⟨start, hfresh, hpasses⟩ := p.runOn_runPasses _
  obtain ⟨after, hafter⟩ := hrefused p.verbose start hfresh
  rw [hafter] at hpasses
  rw [Job.runOn_bind_of_error hpasses]

/-- A project whose settings have been accepted is compiled exactly when it is valid and all values
    of its network are finite.  The sketch, the header and the description come in this order.  What
    validation refuses is refused in the same way; behind it only a value that is not finite is. -/
theorem generateAll_outcome {network : Network} {metadata : Metadata} {s : Settings}
    (hcreate : create network metadata s = .ok p) (htyped : s.WellTyped)
    (hsnapshot : Text.strip s.snapshotDirectory = "") (bench : Workbench) :
    ((∃ artifact, (Job.runOn p.generateAll bench).1 = .ok artifact) ↔
      (Job.runOn p.validate bench).1 = .ok () ∧
        ∀ layer ∈ network.layers, ∀ x ∈ layer.parameters, x.isFinite) ∧
    (∀ artifact, (Job.runOn p.generateAll bench).1 = .ok artifact →
      artifact.names =
        [match metadata.variant with
          | .classification => "gesture_model.ino"
          | .regression => "regression_model.ino",
          "model_data.h", "README.md"]) ∧
    (∀ fault, (Job.runOn p.validate bench).1 = .error fault →
      (Job.runOn p.generateAll bench).1 = .error fault) ∧
    (∀ fault, (Job.runOn p.validate bench).1 = .ok () →
      (Job.runOn p.generateAll bench).1 = .error fault →
      ∃ layer ∈ network.layers, ∃ x ∈ layer.parameters, x.isFinite = false ∧
        fault = .nonFinite (.value x)) := by
  have hmade := madeOf_of_create hcreate
  have hproject := hmade.wellTyped htyped
  have hdirectory : p.snapshotDirectory = "" := hmade.snapshotDirectory.trans hsnapshot
  have hneeds := p.needsFinite_tables
  have hfinite := hneeds.exists_eq_ok_iff
  simp only [List.forall_mem_flatMap, hmade.network] at hneeds hfinite
  obtain ⟨_, hvalidate⟩ := p.runOn_validate bench
  rw [hvalidate]
  -- A compilation ends in its checks, in its tables, or with an artifact.
  cases hcheck : p.check with
  | error fault =>
    have hresult := generateAll_of_refused (Pass.refused_all_of_check hcheck) bench
    simp [hresult]
  | ok _ =>
    cases htables : p.tables with
    | error fault =>
      have hresult := generateAll_of_refused (Pass.refused_all_of_tables hcheck htables) bench
      have hnot : ¬ ∀ layer ∈ network.layers, ∀ x ∈ layer.parameters, x.isFinite := by
        simp [← hfinite, htables]
      obtain ⟨x, hmem, hx, rfl⟩ := hneeds.exists_of_eq_error htables
      obtain ⟨layer, hlayer, hxlayer⟩ := List.mem_flatMap.1 hmem
      rw [hresult]
      refine ⟨?_, ?_, ?_, ?_⟩
      · simpa using hnot
      · simp
      · simp
      · rintro _ _ ⟨⟩
        exact ⟨layer, hlayer, x, hxlayer, hx, rfl⟩
    | ok lines =>
      obtain ⟨artifact, hresult, hnames⟩ :=
        generateAll_of_allComplete hdirectory (Pass.allComplete_all hproject hcheck htables) bench
      have hall := hfinite.1 ⟨lines, htables⟩
      rw [hresult]
      refine ⟨?_, ?_, ?_, ?_⟩
      · exact ⟨fun _ => ⟨rfl, hall⟩, fun _ => ⟨artifact, rfl⟩⟩
      · rintro _ ⟨⟩
        rw [hnames, sketchName, hmade.metadata]
        rfl
      · simp
      · simp

/-- The sample is compiled to three files. -/
theorem generateAll_outcome_sample :
    ∃ artifact, (Job.runOn sample.generateAll {}).1 = .ok artifact ∧
      artifact.names = ["gesture_model.ino", "model_data.h", "README.md"] := by
  have hcreate : create .sample .sample { sensorName := .text "color" } = .ok sample := rfl
  have htyped : Settings.WellTyped { sensorName := .text "color" } := ⟨by simp, by simp⟩
  have hvalid : (Job.runOn sample.validate {}).1 = .ok () := by
    obtain ⟨_, hvalidate⟩ := sample.runOn_validate {}
    rw [hvalidate]
    rfl
  have hfinite : ∀ layer ∈ Network.sample.layers, ∀ x ∈ layer.parameters, x.isFinite := by decide
  obtain ⟨hok, hnames, _⟩ := generateAll_outcome hcreate htyped (by decide) {}
  obtain ⟨artifact, hartifact⟩ := hok.2 ⟨hvalid, hfinite⟩
  exact ⟨artifact, hartifact, hnames artifact hartifact⟩

end Project

end DenseSketch
