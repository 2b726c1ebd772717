import DenseSketch.Proofs.Document.Ascii
import DenseSketch.Proofs.Pipeline.History
import DenseSketch.Proofs.Pipeline.Outcome
import DenseSketch.Proofs.Pipeline.Refusals

/-!
# What happens to the files

A compilation works on a whole workbench, and of that the files are changed at a few places only.
So a job on a workbench is followed by a job on its files that comes to the same result: whatever is
printed or kept in a draft falls away.
-/

namespace DenseSketch

namespace Job

variable {σ τ α β : Type} {view : σ → τ} {job : Job σ α} {next : α → Job σ β} {seen : Job τ α}
  {seenNext : α → Job τ β}

/-- What the job comes to, and what it makes of the part of the state that is seen, is what another
    job makes of that part. -/
def Sees (view : σ → τ) (job : Job σ α) (seen : Job τ α) : Prop :=
  ∀ state, runOn seen (view state) = ((runOn job state).1, view (runOn job state).2)

theorem Sees.pure (a : α) : Sees view (Pure.pure a : Job σ α) (Pure.pure a) := fun _ => rfl

theorem Sees.throw (fault : Fault) :
    Sees view (MonadExcept.throw fault : Job σ α) (MonadExcept.throw fault) :=
  fun _ => rfl

theorem Sees.ofExcept (result : Except Fault α) :
    Sees view (Job.ofExcept result : Job σ α) (Job.ofExcept result) := by
  intro state
  rw [runOn_ofExcept, runOn_ofExcept]

theorem Sees.bind (hjob : Sees view job seen) (hnext : ∀ a, Sees view (next a) (seenNext a)) :
    Sees view (job >>= next) (seen >>= seenNext) := by
  intro state
  rw [runOn_bind, runOn_bind, hjob state]
  cases runOn job state with
  | mk result changed =>
    cases result with
    | error fault => rfl
    | ok a => exact hnext a changed

/-- A step that always comes to the same result, and changes nothing that is seen, falls away. -/
theorem Sees.skip {a : α} (hresult : ∀ state, (runOn job state).1 = .ok a)
    (hkeeps : Keeps view job) {seen : Job τ β} (hnext : Sees view (next a) seen) :
    Sees view (job >>= next) seen := by
  intro state
  have hstep : runOn job state = (.ok a, (runOn job state).2) := Prod.ext (hresult state) rfl
  rw [runOn_bind_of_ok hstep, ← hkeeps state]
  exact hnext _

/-- A step that is always refused for one fault, and changes nothing that is seen, is the end. -/
theorem Sees.stop {fault : Fault} (hresult : ∀ state, (runOn job state).1 = .error fault)
    (hkeeps : Keeps view job) :
    Sees view (job >>= next) (MonadExcept.throw fault : Job τ β) := by
  intro state
  have hstep : runOn job state = (.error fault, (runOn job state).2) :=
    Prod.ext (hresult state) rfl
  rw [runOn_bind_of_error hstep, hkeeps state]
  rfl

theorem runOn_discard (job : Job σ α) (state : σ) :
    runOn (discard job) state = ((runOn job state).1.map fun _ => ⟨⟩, (runOn job state).2) :=
  runOn_map (fun _ => PUnit.unit) job state

theorem Sees.discard (hjob : Sees view job seen) :
    Sees view (Functor.discard job) (Functor.discard seen) := by
  intro state
  rw [runOn_discard, runOn_discard, hjob state]

end Job

namespace Work

open Job

variable {α β : Type}

theorem sees_onTree (step : Tree → Tree × Except Fault α) :
    Sees Workbench.tree (onTree step) (ofStep step) :=
  fun _ => rfl

theorem sees_report {p : Project} {line : String} {next : Work β} {seen : Job Tree β}
    (hnext : Sees Workbench.tree next seen) :
    Sees Workbench.tree (report p line >>= fun _ => next) seen := by
  refine .skip (a := ()) (fun bench => by rw [runOn_report]) (fun bench => ?_) hnext
  rw [runOn_report]
  cases p.verbose <;> rfl

theorem sees_reports {p : Project} {line : String → String} {next : Work β} {seen : Job Tree β}
    (paths : List String) (hnext : Sees Workbench.tree next seen) :
    Sees Workbench.tree ((paths.forM fun path => report p (line path)) >>= fun _ => next) seen := by
  induction paths with
  | nil => exact hnext
  | cons path rest ih =>
    have hfirst : ((path :: rest).forM fun path => report p (line path)) =
        report p (line path) >>= fun _ => rest.forM fun path => report p (line path) := rfl
    rw [hfirst, bind_assoc]
    exact sees_report ih

end Work

namespace Project

open Job

variable {p : Project}

/-! ### The artifact -/

/-- The artifact that the passes make, or what they are refused for. -/
def artifact (p : Project) : Except Fault Artifact := do
  let context ← (runOn p.runPasses {}).1
  match context.artifact with
  | none => throw .noSuchMember
  | some artifact => return artifact

/-- All values of the network are finite. -/
def IsFinite (p : Project) : Prop := ∀ layer ∈ p.network.layers, ∀ x ∈ layer.parameters, x.isFinite

instance (p : Project) : Decidable p.IsFinite :=
  inferInstanceAs (Decidable (∀ layer ∈ p.network.layers, ∀ x ∈ layer.parameters, x.isFinite))

/-- The passes come to the same on all workbenches. -/
theorem runPasses_eq (p : Project) (bench : Workbench) :
    (runOn p.runPasses bench).1 = (runOn p.runPasses {}).1 :=
  (p.agrees_runPasses bench {} trivial).1

theorem keeps_tree_runPasses (p : Project) : Keeps Workbench.tree p.runPasses :=
  fun bench => congrArg Prod.fst (p.keeps_runPasses bench)

theorem exists_tables_iff : (∃ lines, p.tables = .ok lines) ↔ p.IsFinite := by
  rw [p.needsFinite_tables.exists_eq_ok_iff, List.forall_mem_flatMap]
  rfl

open Run.Products in
/-- The passes make an artifact where the checks accept the project and all its values are finite.
    What the checks refuse they are refused for. -/
theorem runPasses_cases (htyped : p.WellTyped) :
    (∃ context artifact, (runOn p.runPasses {}).1 = .ok context ∧
      context.artifact = some artifact ∧
      artifact.names = [p.sketchName, headerName, readmeName] ∧
      p.check = .ok () ∧ p.IsFinite) ∨
    ∃ fault, (runOn p.runPasses {}).1 = .error fault ∧
      (p.check = .error fault ∨ p.check = .ok () ∧ p.tables = .error fault) := by
  obtain ⟨start, hfresh, hpasses⟩ := p.runOn_runPasses {}
  rw [hpasses]
  have hrefused : ∀ fault, Pass.Refused p Pass.all IsFresh fault →
      (runOn (Pass.runEach p p.verbose Pass.all) start).1 = .error fault := by
    intro fault hrefused
    obtain ⟨after, hafter⟩ := hrefused p.verbose start hfresh
    rw [hafter]
  -- The first pass is refused where the checks are, the third one where a value is not finite.
  cases hcheck : p.check with
  | error fault =>
    rw [hrefused fault (Pass.refused_all_of_check hcheck)]
    exact .inr ⟨fault, rfl, .inl rfl⟩
  | ok _ =>
    cases htables : p.tables with
    | error fault =>
      rw [hrefused fault (Pass.refused_all_of_tables hcheck htables)]
      exact .inr ⟨fault, rfl, .inr ⟨rfl, rfl⟩⟩
    | ok lines =>
      obtain ⟨after, hafter, artifact, hartifact, hnames⟩ :=
        Pass.allComplete_all htyped hcheck htables p.verbose start hfresh
      rw [hafter]
      exact .inl ⟨_, artifact, rfl, hartifact, hnames, rfl, exists_tables_iff.1 ⟨lines, htables⟩⟩

/-- There is an artifact exactly if the checks accept the project and all its values are finite. -/
theorem exists_artifact_iff (htyped : p.WellTyped) :
    (∃ a, p.artifact = .ok a) ↔ p.check = .ok () ∧ p.IsFinite := by
  rcases runPasses_cases htyped with
    ⟨context, a, hcontext, ha, -, hcheck, hfinite⟩ | ⟨fault, hfault, hrefused⟩
  · exact ⟨fun _ => ⟨hcheck, hfinite⟩, fun _ => ⟨a, by simp [artifact, hcontext, ha]⟩⟩
  · constructor
    · rintro ⟨a, ha⟩
      simp [artifact, hfault] at ha
    · rintro ⟨hcheck, hfinite⟩
      rcases hrefused with hrefused | ⟨-, hrefused⟩
      · cases hcheck.symm.trans hrefused
      · obtain ⟨lines, hlines⟩ := exists_tables_iff.2 hfinite
        cases hlines.symm.trans hrefused

/-- What refuses an artifact is a check, or a value that is not finite. -/
theorem refusesValues_artifact (htyped : p.WellTyped) (hcheck : RefusesValues p.check) :
    RefusesValues p.artifact := by
  intro fault hfault
  rcases runPasses_cases htyped with
    ⟨context, a, hcontext, ha, -⟩ | ⟨refused, hpasses, hrefused⟩
  · have hok : p.artifact = .ok a := by simp [artifact, hcontext, ha]
    cases hok.symm.trans hfault
  · obtain rfl : refused = fault := by
      rw [artifact, hpasses] at hfault
      exact Except.error.inj hfault
    rcases hrefused with hrefused | ⟨-, hrefused⟩
    · exact hcheck refused hrefused
    · obtain ⟨x, -, -, rfl⟩ := p.needsFinite_tables.exists_of_eq_error hrefused
      rfl

theorem names_of_artifact (htyped : p.WellTyped) {a : Artifact} (ha : p.artifact = .ok a) :
    a.names = [p.sketchName, headerName, readmeName] := by
  rcases runPasses_cases htyped with
    ⟨context, other, hcontext, hother, hnames, -⟩ | ⟨fault, hfault, -⟩
  · obtain rfl : other = a := by simpa [artifact, hcontext, hother] using ha
    exact hnames
  · simp [artifact, hfault] at ha

/-! ### Files of a compilation -/

/-- The text of the snapshot of a project that names a board and a sensor. -/
def snapshotText (p : Project) (board sensor : Document) : String :=
  Snapshot.fileText (Snapshot.document p.network p.metadata p.createdAt
    [("target", board), ("sensor", sensor)])

theorem isEncodable_snapshotText (board sensor : Document) :
    Text.isEncodable (p.snapshotText board sensor) :=
  Document.isEncodable_canonical _

end Project

/-- Saves a snapshot if it is asked for. -/
def Snapshot.saving (isAsked : Bool) (l : Location) (text : String) : Job Tree Unit :=
  if isAsked then do let _ ← Job.ofStep (save l text) else pure ()

theorem Snapshot.runOn_saving (isAsked : Bool) (l : Location) (text : String) (tree : Tree) :
    Job.runOn (saving isAsked l text) tree =
      if isAsked then ((save l text tree).2.map fun _ => (), (save l text tree).1)
      else (.ok (), tree) := by
  cases isAsked with
  | false => rfl
  | true =>
    rw [saving, if_pos rfl, if_pos rfl, Job.runOn_bind, Job.runOn_ofStep]
    cases (save l text tree).2 <;> rfl

/-- A snapshot is saved, and what is said of it falls away. -/
theorem Snapshot.sees_saving {β : Type} {l : Location} {text : String} {rest : String → Work Unit}
    {next : Work β} {seen : Job Tree β}
    (hresult : ∀ path bench, (Job.runOn (rest path) bench).1 = .ok ())
    (hkeeps : ∀ path, Job.Keeps Workbench.tree (rest path))
    (hnext : Job.Sees Workbench.tree next seen) :
    Job.Sees Workbench.tree ((Work.onTree (save l text) >>= rest) >>= fun _ => next)
      (saving true l text >>= fun _ => seen) := by
  have hsaving : (saving true l text >>= fun _ => seen) =
      Job.ofStep (save l text) >>= fun _ => seen := by
    rw [saving, if_pos rfl, bind_assoc]
    rfl
  rw [hsaving, bind_assoc]
  exact .bind (Work.sees_onTree _) fun path => .skip (hresult path) (hkeeps path) hnext

namespace Project

open Job

variable {p : Project}

/-- What becomes of the files while an artifact is made: a snapshot is exported if the project asks
    for one. -/
def exporting (p : Project) : Job Tree Artifact := do
  let a ← Job.ofExcept p.artifact
  Snapshot.saving (p.snapshotDirectory != "") (Snapshot.location p.snapshotDirectory "")
    (p.snapshotText p.board.name p.sensor.name)
  return a

theorem sees_generateAll (htyped : p.WellTyped) :
    Sees Workbench.tree p.generateAll p.exporting := by
  refine Work.sees_report ?_
  rcases runPasses_cases htyped with
    ⟨context, a, hcontext, ha, -⟩ | ⟨fault, hfault, -⟩
  · have hartifact : p.artifact = .ok a := by simp [artifact, hcontext, ha]
    refine .skip (fun bench => (p.runPasses_eq bench).trans hcontext) p.keeps_tree_runPasses ?_
    refine .skip (a := ⟨⟩) (fun _ => rfl) (fun _ => rfl) ?_
    have hshown : Sees Workbench.tree (p.announced context.artifact) (Pure.pure a) := by
      rw [ha]
      exact Work.sees_report (.pure a)
    have hexporting : p.exporting = do
        Snapshot.saving (p.snapshotDirectory != "") (Snapshot.location p.snapshotDirectory "")
          (p.snapshotText p.board.name p.sensor.name)
        return a := by
      rw [exporting, hartifact]
      rfl
    rw [hexporting]
    by_cases hsnapshot : p.snapshotDirectory ≠ ""
    · rw [if_pos hsnapshot, show (p.snapshotDirectory != "") = true by simpa using hsnapshot]
      refine Snapshot.sees_saving (fun path bench => ?_) (fun path bench => ?_) hshown
      all_goals
        rw [runOn_bind_of_ok (runOn_modify _ bench), Work.runOn_report]
      cases p.verbose <;> rfl
    · rw [if_neg hsnapshot, show (p.snapshotDirectory != "") = false by simpa using hsnapshot]
      exact hshown
  · have hrefused : p.exporting = throw fault := by
      simp only [exporting, artifact, hfault]
      rfl
    rw [hrefused]
    exact .stop (fun bench => (p.runPasses_eq bench).trans hfault) p.keeps_tree_runPasses

/-- What becomes of the files when all files of a project are written into a directory. -/
def storing (p : Project) (directory : Document) : Job Tree (List String) := do
  let a ← p.exporting
  let location ← Job.ofExcept (Location.ofDocument directory)
  Job.ofStep (a.writeTo location)

theorem sees_writeAll (htyped : p.WellTyped) {directory : Document}
    (hdirectory : directory.isNull = false) :
    Sees Workbench.tree (p.writeAll directory) (p.storing directory) := by
  have hdestination : p.destination directory = directory := by
    rw [destination, hdirectory]
    rfl
  have hwriting : Sees Workbench.tree
      (show Work (List String) from do
        let artifact ← p.generateAll
        let location ← Job.ofExcept (Location.ofDocument directory)
        let paths ← Work.onTree (artifact.writeTo location)
        paths.forM fun path => Work.report p s!"  [OK] Wrote {path}"
        return paths) (p.storing directory) := by
    refine .bind (sees_generateAll htyped) fun a => .bind (.ofExcept _) fun location => ?_
    rw [← bind_pure (ofStep (a.writeTo location))]
    exact .bind (Work.sees_onTree _) fun paths => Work.sees_reports paths (.pure paths)
  rw [writeAll, hdestination]
  cases directory with
  | null => cases hdirectory
  | _ => exact hwriting

end Project

end DenseSketch
