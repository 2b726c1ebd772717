import DenseSketch.Proofs.CommandLine.Options
import DenseSketch.Proofs.Pipeline.Files

/-!
# Checks and compilations from the command line

A run finds its project first, from what it reads, and changes no file by that.  Then it either
checks the project or stores what is made of it.
-/

namespace DenseSketch

/-- The job is never refused for a wrong value. -/
def Job.AcceptsValues {σ α : Type} (job : Job σ α) : Prop :=
  ∀ state fault, (runOn job state).1 = .error fault → fault.isValueFault = false

theorem Job.AcceptsValues.pure {σ α : Type} (a : α) :
    (Pure.pure a : Job σ α).AcceptsValues :=
  fun _ _ hfault => by cases hfault

theorem Job.AcceptsValues.bind {σ α β : Type} {job : Job σ α} {next : α → Job σ β}
    (hjob : job.AcceptsValues) (hnext : ∀ a, (next a).AcceptsValues) :
    (job >>= next).AcceptsValues := by
  intro state fault hfault
  rcases runOn_bind_cases job next state with
    ⟨_, changed, hrun, hbind⟩ | ⟨a, changed, hrun, hbind⟩
  · rw [hbind] at hfault
    cases hfault
    exact hjob state fault (by rw [hrun])
  · rw [hbind] at hfault
    exact hnext a changed fault hfault

theorem Snapshot.acceptsValues_saving {isAsked : Bool} {l : Location} {text : String} (hl : l.IsFit)
    (htext : Text.isEncodable text = true) : Job.AcceptsValues (saving isAsked l text) := by
  intro tree fault hfault
  rw [runOn_saving] at hfault
  split at hfault
  · exact ((stores_save (.inr hl) (.inr htext) tree).map _).isValueFault hfault
  · cases hfault

/-- The files have the names of those of a project. -/
def Artifact.IsNamed (a : Artifact) : Prop :=
  ∃ p : Project, a.names = [p.sketchName, Project.headerName, Project.readmeName]

theorem Artifact.IsNamed.isFit {a : Artifact} (h : a.IsNamed) :
    ∀ file ∈ a.files, (Location.ofText file.1).IsFit := by
  obtain ⟨p, hnames⟩ := h
  have hsketch : (Location.ofText p.sketchName).IsFit := by
    unfold Project.sketchName
    cases p.metadata.variant <;> decide
  have hall : ∀ name ∈ a.names, (Location.ofText name).IsFit := by
    rw [hnames]
    simp only [List.forall_mem_cons, List.not_mem_nil, false_imp_iff, implies_true, and_true]
    exact ⟨hsketch, by decide, by decide⟩
  exact fun file hfile => hall _ (List.mem_map_of_mem hfile)

namespace CommandLine

namespace CompileRequest

open Job

variable {r : CompileRequest} {around : Surroundings}

/-! ### Finding the project -/

/-- The project that is requested. -/
def project (r : CompileRequest) (around : Surroundings) : Work Project := do
  let (net, m) ← r.inputs around
  Job.ofExcept (Project.create net m (r.settings around m.variant))

/-- Stores the project: the snapshot that is asked for, and then the files. -/
def store (r : CompileRequest) (p : Project) : Work Unit := do
  if r.saveSnapshot ≠ "" then r.save p
  discard (p.writeAll r.output)

theorem run_eq (r : CompileRequest) (around : Surroundings) :
    r.run around =
      r.project around >>= fun p => if r.isCheckOnly then check p else r.store p := by
  rw [run, project, bind_assoc]
  rfl

theorem keeps_print (line : String) : Keeps Workbench.tree (Work.print line) := fun _ => rfl

theorem keeps_prints (lines : List String) : Keeps Workbench.tree (lines.forM Work.print) := by
  induction lines with
  | nil => exact .pure _
  | cons line rest ih => exact .bind (keeps_print line) fun _ => ih

theorem keeps_checkModel (model : Model) : Keeps Workbench.tree (checkModel model) := by
  refine .bind (.ofExcept _) fun report => .bind (keeps_print _) fun _ => ?_
  split
  · exact .throw _
  · exact .pure _

theorem keeps_extract (model : Model) : Keeps Workbench.tree (extract model) :=
  .bind (keeps_prints _) fun _ => .ofExcept _

theorem keeps_inputs (r : CompileRequest) (around : Surroundings) :
    Keeps Workbench.tree (r.inputs around) := by
  unfold inputs
  split
  · exact .bind .get fun _ => .bind (.ofExcept _) fun _ => .bind (.ofExcept _) fun _ => .pure _
  · unfold modelInputs
    split
    · exact .throw _
    · exact .throw _
    · exact .bind .get fun _ => .bind (.ofExcept _) fun model =>
        .bind (keeps_checkModel model) fun _ => .bind (.ofExcept _) fun _ =>
        .bind (.ofExcept _) fun _ => .bind (keeps_extract model) fun _ => .pure _

theorem keeps_project (r : CompileRequest) (around : Surroundings) :
    Keeps Workbench.tree (r.project around) :=
  .bind (keeps_inputs r around) fun _ => .ofExcept _

theorem create_of_project {bench changed : Workbench} {p : Project}
    (h : runOn (r.project around) bench = (.ok p, changed)) :
    ∃ net m, Project.create net m (r.settings around m.variant) = .ok p := by
  rcases runOn_bind_cases (r.inputs around) (fun found => Job.ofExcept
      (Project.create found.1 found.2 (r.settings around found.2.variant))) bench with
    ⟨fault, after, -, hrun⟩ | ⟨found, after, -, hrun⟩
  · cases hrun.symm.trans h
  · rw [runOn_ofExcept] at hrun
    exact ⟨found.1, found.2, congrArg Prod.fst (hrun.symm.trans h)⟩

/-- A snapshot that is loaded is the project, once labels and window are replaced. -/
theorem runOn_project_of_load {bench : Workbench} {net : Network} {m : Metadata}
    (hsnapshot : r.snapshot ≠ "")
    (hload : Snapshot.load (.ofText r.snapshot) bench.tree = .ok (net, m)) :
    runOn (r.project around) bench =
      (r.override m >>= fun m => Project.create net m (r.settings around m.variant), bench) := by
  rw [project, inputs, if_pos hsnapshot, snapshotInputs]
  simp only [runOn_bind, runOn_get, hload, runOn_ofExcept]
  cases r.override m <;> rfl

theorem wellTyped_settings (r : CompileRequest) (around : Surroundings) (variant : Variant) :
    (r.settings around variant).WellTyped :=
  ⟨nofun, nofun⟩

theorem wellTyped_of_project {bench changed : Workbench} {p : Project}
    (h : runOn (r.project around) bench = (.ok p, changed)) : p.WellTyped := by
  obtain ⟨_, m, hcreate⟩ := create_of_project h
  exact (Project.madeOf_of_create hcreate).wellTyped (r.wellTyped_settings around m.variant)

theorem snapshotDirectory_of_project {bench changed : Workbench} {p : Project}
    (h : runOn (r.project around) bench = (.ok p, changed)) :
    p.snapshotDirectory = Text.strip around.snapshotDirectory := by
  obtain ⟨_, _, hcreate⟩ := create_of_project h
  exact (Project.madeOf_of_create hcreate).snapshotDirectory

theorem tree_of_project {bench changed : Workbench} {result : Except Fault Project}
    (h : runOn (r.project around) bench = (result, changed)) : changed.tree = bench.tree := by
  have hkeeps := keeps_project r around bench
  rwa [h] at hkeeps

/-! ### What is requested -/

theorem latestOr_cases {arguments : List String} {given : Given}
    (h : compileGrammar.read arguments = .ok given) {rule : OptionRule}
    (hrule : rule ∈ compileGrammar.rules) (default : Document) :
    (rule.name, given.latestOr rule.name default) ∈ given ∧
        rule.expects.Admits (given.latestOr rule.name default) ∨
      given.latestOr rule.name default = default :=
  (Grammar.allows_of_read h).latestOr_cases (by decide) hrule default

/-- The files have somewhere to go. -/
theorem isNull_output {arguments : List String} {given : Given}
    (h : compileGrammar.read arguments = .ok given) : (ofGiven given).output.isNull = false := by
  have houtput : (⟨"--output", .text⟩ : OptionRule) ∈ compileGrammar.rules := by decide
  rcases latestOr_cases h houtput (.text defaultOutput) with ⟨-, hvalue⟩ | hvalue
  · exact hvalue.isNull_eq_false
  · exact congrArg Document.isNull hvalue

/-! ### Storing what is made of it -/

/-- What becomes of the files while a project is stored. -/
def storing (r : CompileRequest) (p : Project) : Job Tree Unit := do
  Snapshot.saving (r.saveSnapshot != "") (.ofText r.saveSnapshot) (p.snapshotText r.board r.sensor)
  discard (p.storing r.output)

theorem sees_store {p : Project} (htyped : p.WellTyped) (houtput : r.output.isNull = false) :
    Sees Workbench.tree (r.store p) (r.storing p) := by
  have hwriting : Sees Workbench.tree (discard (p.writeAll r.output))
      (discard (p.storing r.output)) :=
    (Project.sees_writeAll htyped houtput).discard
  unfold store storing
  by_cases hsave : r.saveSnapshot ≠ ""
  · rw [if_pos hsave, show (r.saveSnapshot != "") = true by simpa using hsave]
    exact Snapshot.sees_saving (fun _ _ => rfl) (fun _ _ => rfl) hwriting
  · rw [if_neg hsave, show (r.saveSnapshot != "") = false by simpa using hsave]
    exact hwriting

/-- The snapshots that are asked for are saved, and then the files of an artifact are written. -/
def writing (r : CompileRequest) (exports saved exported : String) (a : Artifact) :
    Job Tree Unit := do
  Snapshot.saving (r.saveSnapshot != "") (.ofText r.saveSnapshot) saved
  Snapshot.saving (exports != "") (Snapshot.location exports "") exported
  let location ← Job.ofExcept (Location.ofDocument r.output)
  let _ ← Job.ofStep (a.writeTo location)

theorem storing_eq_writing {p : Project} {a : Artifact} (ha : p.artifact = .ok a) :
    r.storing p = r.writing p.snapshotDirectory (p.snapshotText r.board r.sensor)
      (p.snapshotText p.board.name p.sensor.name) a := by
  have hdiscard : ∀ job : Job Tree (List String),
      Functor.discard job = job >>= fun _ => pure PUnit.unit :=
    fun job => map_eq_pure_bind (fun _ => PUnit.unit) job
  have hmade : (Job.ofExcept p.artifact : Job Tree Artifact) = pure a := by rw [ha, Job.ofExcept]
  simp only [storing, writing, Project.storing, Project.exporting, hdiscard, hmade, bind_assoc,
    pure_bind]

theorem storing_eq_throw {p : Project} {fault : Fault} (hfault : p.artifact = .error fault) :
    r.storing p = Snapshot.saving (r.saveSnapshot != "") (.ofText r.saveSnapshot)
      (p.snapshotText r.board r.sensor) >>= fun _ => throw fault := by
  have hrefused : (Job.ofExcept p.artifact : Job Tree Artifact) = throw fault := by
    rw [hfault, Job.ofExcept]
  rw [storing, Project.storing, Project.exporting, hrefused]
  rfl

/-! ### Endings -/

variable {bench : Workbench}

/-- A run that is not refused succeeds; one that is refused for a wrong value prints that and fails;
    any other fault is passed on. -/
theorem finish_cases (r : CompileRequest) (around : Surroundings) (bench : Workbench) :
    (∃ changed, runOn (r.run around) bench = (.ok (), changed) ∧
      runOn (r.finish around) bench = (.ok .success, changed)) ∨
    (∃ fault changed, runOn (r.run around) bench = (.error fault, changed) ∧
      fault.isValueFault = true ∧ runOn (r.finish around) bench =
        (.ok .failure, { changed with printed := changed.printed ++ [faultLine fault] })) ∨
    ∃ fault changed, runOn (r.run around) bench = (.error fault, changed) ∧
      fault.isValueFault = false ∧ runOn (r.finish around) bench = (.error fault, changed) := by
  rw [finish, runOn_tryCatch, runOn_bind]
  rcases runOn (r.run around) bench with ⟨fault | _, changed⟩
  · cases hvalue : fault.isValueFault <;> simp [hvalue, runOn_map, Except.map]
  · exact .inl ⟨changed, rfl, rfl⟩

theorem finish_eq_success :
    (runOn (r.finish around) bench).1 = .ok .success ↔ (runOn (r.run around) bench).1 = .ok () := by
  rcases finish_cases r around bench with
    ⟨_, hrun, hfinish⟩ | ⟨_, _, hrun, -, hfinish⟩ | ⟨_, _, hrun, -, hfinish⟩ <;>
    simp [hrun, hfinish]

theorem finish_eq_failure :
    (runOn (r.finish around) bench).1 = .ok .failure ↔
      ∃ fault, (runOn (r.run around) bench).1 = .error fault ∧ fault.isValueFault = true := by
  rcases finish_cases r around bench with
    ⟨_, hrun, hfinish⟩ | ⟨fault, _, hrun, hvalue, hfinish⟩ | ⟨_, _, hrun, hvalue, hfinish⟩
  · simp [hrun, hfinish]
  · simp [hrun, hfinish, hvalue]
  · simp [hrun, hfinish, hvalue]

theorem tree_finish :
    (runOn (r.finish around) bench).2.tree = (runOn (r.run around) bench).2.tree := by
  rcases finish_cases r around bench with
    ⟨_, hrun, hfinish⟩ | ⟨_, _, hrun, -, hfinish⟩ | ⟨_, _, hrun, -, hfinish⟩ <;>
    simp [hrun, hfinish]

theorem finish_of_run_eq_ok {changed : Workbench}
    (h : runOn (r.run around) bench = (.ok (), changed)) :
    runOn (r.finish around) bench = (.ok .success, changed) := by
  rcases finish_cases r around bench with
    ⟨_, hrun, hfinish⟩ | ⟨_, _, hrun, -⟩ | ⟨_, _, hrun, -⟩
  · cases h.symm.trans hrun
    exact hfinish
  · cases h.symm.trans hrun
  · cases h.symm.trans hrun

theorem finish_of_run_eq_error {fault : Fault} {changed : Workbench}
    (h : runOn (r.run around) bench = (.error fault, changed)) :
    runOn (r.finish around) bench =
      if fault.isValueFault then
        (.ok .failure, { changed with printed := changed.printed ++ [faultLine fault] })
      else (.error fault, changed) := by
  rcases finish_cases r around bench with
    ⟨_, hrun, -⟩ | ⟨_, _, hrun, hvalue, hfinish⟩ | ⟨_, _, hrun, hother, hfinish⟩
  · cases h.symm.trans hrun
  · cases h.symm.trans hrun
    rw [hfinish, if_pos hvalue]
  · cases h.symm.trans hrun
    rw [hfinish, hother, if_neg Bool.false_ne_true]

/-! ### Checking only -/

/-- A check of a project prints at last that it can be compiled. -/
theorem runOn_check (p : Project) (bench : Workbench) :
    ∃ printed, runOn (check p) bench = (p.check, { bench with printed := printed }) ∧
      (p.check = .ok () → printed.getLast? = some "[OK] Model can be compiled") := by
  obtain ⟨printed, hvalidate⟩ := p.runOn_validate bench
  cases hcheck : p.check with
  | error fault =>
    rw [hcheck] at hvalidate
    exact ⟨printed, runOn_bind_of_error hvalidate _, nofun⟩
  | ok _ =>
    rw [hcheck] at hvalidate
    refine ⟨printed ++ ["[OK] Model can be compiled"], ?_, fun _ => List.getLast?_concat⟩
    rw [check, runOn_bind_of_ok hvalidate]
    rfl

/-- A run finds the project, and then checks or stores it. -/
theorem run_cases (r : CompileRequest) (around : Surroundings) (bench : Workbench) :
    (∃ fault changed, runOn (r.project around) bench = (.error fault, changed) ∧
      runOn (r.run around) bench = (.error fault, changed)) ∨
    ∃ p changed, runOn (r.project around) bench = (.ok p, changed) ∧
      runOn (r.run around) bench =
        if r.isCheckOnly then runOn (check p) changed else runOn (r.store p) changed := by
  rw [run_eq]
  rcases runOn_bind_cases (r.project around)
      (fun p => if r.isCheckOnly then check p else r.store p) bench with
    ⟨fault, changed, hproject, hrun⟩ | ⟨p, changed, hproject, hrun⟩
  · exact .inl ⟨fault, changed, hproject, hrun⟩
  · refine .inr ⟨p, changed, hproject, hrun.trans ?_⟩
    cases r.isCheckOnly <;> rfl

/-! ### What refuses to be stored -/

/-- Every location that is asked for can be written down. -/
structure NamesFiles (r : CompileRequest) (around : Surroundings) : Prop where
  saved : (Location.ofText r.saveSnapshot).IsFit
  exported : (Location.ofText (Text.strip around.snapshotDirectory)).IsFit
  output : ∀ s, r.output = .text s → (Location.ofText s).IsFit

/-- Files and directories refuse no value, where all names and texts can be written down. -/
theorem acceptsValues_writing (hnames : r.NamesFiles around) {saved exported : String}
    {a : Artifact} (hsaved : Text.isEncodable saved = true)
    (hexported : Text.isEncodable exported = true) (hnamed : a.IsNamed) (ha : a.IsEncodable) :
    AcceptsValues (r.writing (Text.strip around.snapshotDirectory) saved exported a) := by
  have hexports : (Snapshot.location (Text.strip around.snapshotDirectory) "").IsFit :=
    hnames.exported.join (by decide)
  refine .bind (Snapshot.acceptsValues_saving hnames.saved hsaved) fun _ =>
    .bind (Snapshot.acceptsValues_saving hexports hexported) fun _ => ?_
  -- Only a text names a location; any other value is refused for its type, which is no wrong value.
  cases houtput : r.output with
  | text s =>
    -- The location is known, so the files are written there.
    have hfiles : ∀ tree, Stores False (a.writeTo (.ofText s) tree).2 :=
      Artifact.stores_writeTo (.inr (hnames.output s houtput)) fun file hfile =>
        .inr ⟨hnamed.isFit file hfile, ha file hfile⟩
    have hlocation : (Job.ofExcept (Location.ofDocument (.text s)) : Job Tree Location) =
        pure (.ofText s) := rfl
    rw [hlocation, pure_bind]
    exact .bind (fun tree fault hfault => (hfiles tree).isValueFault hfault) fun _ => .pure ()
  | _ =>
    intro tree fault hfault
    cases hfault
    rfl

/-- The files with the snapshot of a project saved that is asked for, if one is. -/
def withSnapshot (r : CompileRequest) (p : Project) (tree : Tree) : Tree :=
  if r.saveSnapshot = "" then tree
  else (Snapshot.save (.ofText r.saveSnapshot) (p.snapshotText r.board r.sensor) tree).1

/-- Where there is no artifact, only the snapshot is saved. -/
theorem tree_storing_of_error {p : Project} {fault : Fault} (hfault : p.artifact = .error fault)
    (tree : Tree) : (runOn (r.storing p) tree).2 = r.withSnapshot p tree := by
  have hsaving : (runOn (r.storing p) tree).2 = (runOn (Snapshot.saving (r.saveSnapshot != "")
      (.ofText r.saveSnapshot) (p.snapshotText r.board r.sensor)) tree).2 := by
    rw [storing_eq_throw hfault, runOn_bind]
    split
    · next saved hsaved => rw [hsaved]; rfl
    · next saved hsaved => rw [hsaved]
  rw [hsaving, Snapshot.runOn_saving, withSnapshot]
  by_cases hasked : r.saveSnapshot = "" <;> simp [hasked]

/-- Where all names and texts can be written down, only a project without an artifact is refused for
    a wrong value while it is stored. -/
theorem artifact_of_storing {p : Project} {tree : Tree} {fault : Fault}
    (hnames : r.NamesFiles around)
    (hexports : p.snapshotDirectory = Text.strip around.snapshotDirectory)
    (htexts : ∀ a, p.artifact = .ok a → a.IsNamed ∧ a.IsEncodable)
    (hvalue : fault.isValueFault = true) (hfault : (runOn (r.storing p) tree).1 = .error fault) :
    ∃ refused, p.artifact = .error refused := by
  cases hartifact : p.artifact with
  | error refused => exact ⟨refused, rfl⟩
  | ok a =>
    obtain ⟨hnamed, hencodable⟩ := htexts a hartifact
    have haccepts := acceptsValues_writing hnames (p.isEncodable_snapshotText r.board r.sensor)
      (p.isEncodable_snapshotText p.board.name p.sensor.name) hnamed hencodable
    rw [storing_eq_writing hartifact, hexports] at hfault
    have hplace := haccepts tree fault hfault
    rw [hvalue] at hplace
    cases hplace

end CompileRequest

end CommandLine

end DenseSketch
