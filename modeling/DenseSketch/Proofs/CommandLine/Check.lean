import DenseSketch.Proofs.CommandLine.Compile
import DenseSketch.Proofs.Sample
import DenseSketch.Proofs.Snapshot.RoundTrip

/-!
# What a check says of a compilation

A check tells that a project can be compiled once its counts and names fit.  What a compilation
renders is not looked at: it needs finite values on top of that, and texts that can be encoded.
Where nothing stands in the way of the files, that is all that it needs.  The check is
`--check-only` of SPEC_FULL, section 9.1.
-/

namespace DenseSketch

open Job

namespace Artifact

variable {directory : Location} {tree : Tree}

/-- Files are written one after the other, each into the tree that the one before has left. -/
theorem exists_writeFiles_cons {name text : String} {rest : List (String × String)} :
    (∃ paths, (writeFiles directory tree ((name, text) :: rest)).2 = .ok paths) ↔
      ∃ written, tree.write (directory.join (.ofText name)) text = (written, .ok ()) ∧
        ∃ paths, (writeFiles directory written rest).2 = .ok paths := by
  conv_lhs => unfold writeFiles
  dsimp only
  split
  · next written fault hwrite => simp [hwrite]
  · next written hwrite =>
    simp only [hwrite, Prod.mk.injEq, and_true, exists_eq_left']
    cases (writeFiles directory written rest).2 with
    | error fault => simp [Except.map]
    | ok paths => simp [Except.map]

/-- Files have been written only if their texts can be encoded. -/
theorem isEncodable_of_writeFiles {files : List (String × String)}
    (h : ∃ paths, (writeFiles directory tree files).2 = .ok paths) :
    ∀ file ∈ files, Text.isEncodable file.2 = true := by
  induction files generalizing tree with
  | nil => exact List.forall_mem_nil _
  | cons file rest ih =>
    obtain ⟨written, hwrite, hrest⟩ := exists_writeFiles_cons.1 h
    obtain ⟨-, -, -, hencodable, -⟩ := Tree.write_eq_ok.1 hwrite
    exact List.forall_mem_cons.2 ⟨hencodable, ih hrest⟩

theorem isEncodable_of_writeTo {a : Artifact} {paths : List String}
    (h : (a.writeTo directory tree).2 = .ok paths) : a.IsEncodable := by
  unfold writeTo at h
  split at h
  · cases h
  · exact isEncodable_of_writeFiles ⟨paths, h⟩

end Artifact

/-- All texts of the artifact can be encoded, if there is one. -/
def Project.IsEncodable (p : Project) : Prop := ∀ a, p.artifact = .ok a → a.IsEncodable

namespace CommandLine

namespace CompileRequest

variable {r : CompileRequest} {around : Surroundings} {bench changed : Workbench} {p : Project}

/-- Nothing stands in the way of the files: whatever can be encoded is saved and written. -/
def IsWritable (r : CompileRequest) (around : Surroundings) (tree : Tree) : Prop :=
  ∀ saved exported a, Text.isEncodable saved = true → Text.isEncodable exported = true →
    a.IsNamed → a.IsEncodable →
      (runOn (r.writing (Text.strip around.snapshotDirectory) saved exported a) tree).1 = .ok ()

theorem isEncodable_of_writing {exports saved exported : String} {a : Artifact} {tree : Tree}
    (h : (runOn (r.writing exports saved exported a) tree).1 = .ok ()) : a.IsEncodable := by
  obtain ⟨_, saving, -, h⟩ := exists_of_runOn_bind_eq_ok h
  obtain ⟨_, exporting, -, h⟩ := exists_of_runOn_bind_eq_ok h
  obtain ⟨location, located, -, h⟩ := exists_of_runOn_bind_eq_ok h
  obtain ⟨paths, written, hwritten, -⟩ := exists_of_runOn_bind_eq_ok h
  exact Artifact.isEncodable_of_writeTo (congrArg Prod.fst hwritten)

/-- Whatever is printed, the files alone decide whether a project that is found is stored. -/
theorem fst_runOn_store (hproject : runOn (r.project around) bench = (.ok p, changed))
    (houtput : r.output.isNull = false) :
    (runOn (r.store p) changed).1 = (runOn (r.storing p) bench.tree).1 := by
  rw [← tree_of_project hproject, sees_store (wellTyped_of_project hproject) houtput changed]

/-- A project that is found is stored if the checks accept it, and all its values are finite and all
    its texts can be encoded. -/
theorem store_eq_ok (hproject : runOn (r.project around) bench = (.ok p, changed))
    (houtput : r.output.isNull = false) (hwritable : r.IsWritable around bench.tree) :
    (runOn (r.store p) changed).1 = .ok () ↔ p.check = .ok () ∧ p.IsFinite ∧ p.IsEncodable := by
  have htyped := wellTyped_of_project hproject
  have hexports := snapshotDirectory_of_project hproject
  -- Storing is refused where there is no artifact, and otherwise writes exactly that one.
  rw [fst_runOn_store hproject houtput, ← and_assoc, ← Project.exists_artifact_iff htyped]
  cases hartifact : p.artifact with
  | error fault =>
    rw [storing_eq_throw hartifact]
    constructor
    · intro h
      obtain ⟨_, _, -, hthrow⟩ := exists_of_runOn_bind_eq_ok h
      cases hthrow
    · rintro ⟨⟨a, ha⟩, -⟩
      cases ha
  | ok a =>
    have hencodable : p.IsEncodable ↔ a.IsEncodable := by
      simp [Project.IsEncodable, hartifact]
    rw [storing_eq_writing hartifact, hexports, hencodable]
    refine ⟨fun h => ⟨⟨a, rfl⟩, isEncodable_of_writing h⟩, fun ⟨_, ha⟩ => ?_⟩
    exact hwritable _ _ a (p.isEncodable_snapshotText r.board r.sensor)
      (p.isEncodable_snapshotText p.board.name p.sensor.name)
      ⟨p, Project.names_of_artifact htyped hartifact⟩ ha

theorem finish_store_eq_success (hfull : r.isCheckOnly = false)
    (houtput : r.output.isNull = false) (hwritable : r.IsWritable around bench.tree) :
    (runOn (r.finish around) bench).1 = .ok .success ↔
      ∃ p changed, runOn (r.project around) bench = (.ok p, changed) ∧
        p.check = .ok () ∧ p.IsFinite ∧ p.IsEncodable := by
  rw [finish_eq_success]
  rcases run_cases r around bench with
    ⟨fault, changed, hproject, hrun⟩ | ⟨p, changed, hproject, hrun⟩
  · rw [hrun, hproject]
    simp
  · rw [hfull, if_neg Bool.false_ne_true] at hrun
    rw [hrun, store_eq_ok hproject houtput hwritable, hproject]
    simp

/-- A check succeeds and says so exactly if a project is found that the checks accept. -/
theorem finish_check_eq_success (hcheck : r.isCheckOnly = true) :
    (runOn (r.finish around) bench).1 = .ok .success ∧
        (runOn (r.finish around) bench).2.printed.getLast? = some "[OK] Model can be compiled" ↔
      ∃ p changed, runOn (r.project around) bench = (.ok p, changed) ∧ p.check = .ok () := by
  rcases run_cases r around bench with
    ⟨fault, changed, hproject, hrun⟩ | ⟨p, changed, hproject, hrun⟩
  · rw [finish_eq_success, hrun, hproject]
    simp
  · obtain ⟨printed, hchecked, hlast⟩ := runOn_check p changed
    rw [hcheck, if_pos rfl, hchecked] at hrun
    rw [finish_eq_success, hrun, hproject]
    constructor
    · rintro ⟨hok, -⟩
      exact ⟨p, changed, rfl, hok⟩
    · rintro ⟨_, _, heq, hok⟩
      cases heq
      rw [hok] at hrun
      rw [finish_of_run_eq_ok hrun]
      exact ⟨hok, hlast hok⟩

/-- A check changes no file, whatever it comes to. -/
theorem tree_finish_check (hcheck : r.isCheckOnly = true) :
    (runOn (r.finish around) bench).2.tree = bench.tree := by
  rw [tree_finish]
  rcases run_cases r around bench with
    ⟨fault, changed, hproject, hrun⟩ | ⟨p, changed, hproject, hrun⟩
  · rw [hrun]
    exact tree_of_project hproject
  · obtain ⟨printed, hchecked, -⟩ := runOn_check p changed
    have htree : changed.tree = bench.tree := tree_of_project hproject
    rw [hrun, hcheck, if_pos rfl, hchecked]
    exact htree

end CompileRequest

variable {around : Surroundings} {arguments : List String} {given : Given} {bench : Workbench}

theorem compile_of_read (hread : compileGrammar.read arguments = .ok given) :
    compile around arguments = (CompileRequest.ofGiven given).finish around := by
  rw [compile, hread]

theorem compile_checkSwitch_of_read (hread : compileGrammar.read arguments = .ok given) :
    compile around (checkSwitch :: arguments) =
      { CompileRequest.ofGiven given with isCheckOnly := true }.finish around := by
  rw [compile, read_checkSwitch, hread, ← CompileRequest.ofGiven_checkSwitch]
  rfl

/-! ### A snapshot on a workbench -/

/-- A workbench with a snapshot on it. -/
def benchHolding (net : Network) (m : Metadata) : Workbench :=
  { tree :=
      { files := [(["m.json"], .text (Snapshot.fileText (Snapshot.document net m "" [])))] } }

/-- The options that compile that snapshot. -/
def sampleArguments : List String := ["--snapshot", "m.json", "--sensor", "color"]

def sampleGiven : Given := [("--snapshot", .text "m.json"), ("--sensor", .text "color")]

theorem read_sampleArguments : compileGrammar.read sampleArguments = .ok sampleGiven := rfl

/-- Nothing is named by the surroundings. -/
def Surroundings.bare : Surroundings := ⟨"", "", "", ""⟩

theorem load_benchHolding {net : Network} {m : Metadata}
    (hlayers : ∀ layer ∈ net.layers, Snapshot.IsStorable layer)
    (hnames : ∀ layer ∈ net.layers, Text.IsJoined layer.name.shown)
    (hlabels : ∀ label ∈ m.labels, Text.IsJoined label)
    (hdepth : (Snapshot.document net m "" []).depth ≤ Document.maxNesting)
    (hwritable : (Snapshot.document net m "" []).isWritable) :
    Snapshot.load (.ofText "m.json") (benchHolding net m).tree = .ok (net, m) := by
  have hfile : (benchHolding net m).tree.read (.ofText "m.json") =
      .ok (Snapshot.fileText (Snapshot.document net m "" [])) := rfl
  have hread : Document.read (Snapshot.fileText (Snapshot.document net m "" [])) =
      .ok (Snapshot.document net m "" []).restored := Document.read_canonical hdepth hwritable
  have hnetwork := Snapshot.ofDocument_restored (m := m) "" [] hlayers
  rw [Snapshot.rejoinedNetwork_eq hlayers hnames, Snapshot.rejoinedMetadata_eq hlabels] at hnetwork
  simp only [Snapshot.load, hfile, Snapshot.ofText, hread, hnetwork, bind, Except.bind]

theorem isWritable_benchHolding (net : Network) (m : Metadata) :
    (CompileRequest.ofGiven sampleGiven).IsWritable .bare (benchHolding net m).tree := by
  intro saved exported a _ _ ⟨p, hnames⟩ ha
  obtain ⟨paths, hpaths⟩ : ∃ paths,
      (a.writeTo (.ofText defaultOutput) (benchHolding net m).tree).2 = .ok paths := by
    obtain ⟨files, hlength⟩ := a
    obtain ⟨sketch, header, readme, rfl⟩ : ∃ sketch header readme, files =
        [(p.sketchName, sketch), (Project.headerName, header), (Project.readmeName, readme)] := by
      simpa [Artifact.names, List.map_eq_cons_iff] using hnames
    simp only [Artifact.IsEncodable, List.forall_mem_cons] at ha
    obtain ⟨hsketch, hheader, hreadme, -⟩ := ha
    have hmade : (benchHolding net m).tree.makeDirectory (.ofText defaultOutput) =
        .ok ⟨[["generated"]], (benchHolding net m).tree.files⟩ := rfl
    rw [Artifact.writeTo, hmade, Project.sketchName]
    cases p.metadata.variant with
    | classification =>
      refine Artifact.exists_writeFiles_cons.2
        ⟨_, Tree.write_of_find ["generated", "gesture_model.ino"] rfl rfl hsketch, ?_⟩
      refine Artifact.exists_writeFiles_cons.2
        ⟨_, Tree.write_of_find ["generated", "model_data.h"] rfl rfl hheader, ?_⟩
      exact Artifact.exists_writeFiles_cons.2
        ⟨_, Tree.write_of_find ["generated", "README.md"] rfl rfl hreadme, [], rfl⟩
    | regression =>
      refine Artifact.exists_writeFiles_cons.2
        ⟨_, Tree.write_of_find ["generated", "regression_model.ino"] rfl rfl hsketch, ?_⟩
      refine Artifact.exists_writeFiles_cons.2
        ⟨_, Tree.write_of_find ["generated", "model_data.h"] rfl rfl hheader, ?_⟩
      exact Artifact.exists_writeFiles_cons.2
        ⟨_, Tree.write_of_find ["generated", "README.md"] rfl rfl hreadme, [], rfl⟩
  -- No snapshot is asked for.
  have hwriting : (CompileRequest.ofGiven sampleGiven).writing
      (Text.strip Surroundings.bare.snapshotDirectory) saved exported a =
        ofStep (a.writeTo (.ofText defaultOutput)) >>= fun _ => pure () := rfl
  rw [hwriting, runOn_bind, runOn_ofStep, hpaths]
  rfl

/-- The project of a network for the sample settings. -/
def sampleProject (net : Network) : Project :=
  { Project.sample with network := net, verbose := true }

theorem runOn_project_benchHolding {net : Network}
    (hload : Snapshot.load (.ofText "m.json") (benchHolding net .sample).tree =
      .ok (net, .sample)) :
    runOn ((CompileRequest.ofGiven sampleGiven).project .bare) (benchHolding net .sample) =
      (.ok (sampleProject net), benchHolding net .sample) := by
  have hoverride : (CompileRequest.ofGiven sampleGiven).override .sample = .ok .sample := rfl
  have hcreate : Project.create net .sample
      ((CompileRequest.ofGiven sampleGiven).settings .bare .classification) =
        .ok (sampleProject net) := rfl
  have hsnapshot : (CompileRequest.ofGiven sampleGiven).snapshot = "m.json" := rfl
  rw [← hsnapshot] at hload
  rw [CompileRequest.runOn_project_of_load (by decide) hload, hoverride]
  exact congrArg (Prod.mk · (benchHolding net .sample)) hcreate

theorem load_sample : Snapshot.load (.ofText "m.json") (benchHolding .sample .sample).tree =
    .ok (.sample, .sample) := by
  refine load_benchHolding (fun layer hlayer => ?_) (by decide) (by decide) (by decide)
    (by decide)
  simp only [Network.sample, List.mem_cons, List.not_mem_nil, or_false] at hlayer
  rcases hlayer with rfl | rfl
  · exact ⟨⟨_, rfl⟩, by decide⟩
  · exact ⟨⟨_, rfl⟩, by decide⟩

theorem load_undefined :
    Snapshot.load (.ofText "m.json") (benchHolding .undefined .sample).tree =
      .ok (.undefined, .sample) := by
  refine load_benchHolding (fun layer hlayer => ?_) (by decide) (by decide) (by decide)
    (by decide)
  obtain rfl := List.mem_singleton.1 hlayer
  exact ⟨⟨_, rfl⟩, by decide⟩

/-- A network with a value that is no number is refused for it once the tables are rendered. -/
theorem compile_undefined :
    (runOn (compile .bare sampleArguments) (benchHolding .undefined .sample)).1 =
      .ok .failure := by
  rw [compile_of_read read_sampleArguments]
  refine CompileRequest.finish_eq_failure.2 ⟨.nonFinite (.value .nan), ?_, rfl⟩
  rw [CompileRequest.run_eq, runOn_bind_of_ok (runOn_project_benchHolding load_undefined)]
  rfl

/-! ### Checks and compilations -/

theorem compile_checkSwitch_iff (hread : compileGrammar.read arguments = .ok given) :
    (runOn (compile around (checkSwitch :: arguments)) bench).1 = .ok .success ∧
        (runOn (compile around (checkSwitch :: arguments)) bench).2.printed.getLast? =
          some "[OK] Model can be compiled" ↔
      ∃ p changed, runOn ((CompileRequest.ofGiven given).project around) bench =
        (.ok p, changed) ∧ p.check = .ok () := by
  rw [compile_checkSwitch_of_read hread]
  exact CompileRequest.finish_check_eq_success rfl

/-- **What a check tells.**  A check changes no file.  Where nothing stands in the way of the files,
    a compilation succeeds exactly if the check of the same request succeeds and says so, and in the
    project that is found all values are finite and all texts can be encoded. -/
theorem compile_eq_success_iff_check (hread : compileGrammar.read arguments = .ok given)
    (hfull : given.has checkSwitch = false)
    (hwritable : (CompileRequest.ofGiven given).IsWritable around bench.tree) :
    (runOn (compile around (checkSwitch :: arguments)) bench).2.tree = bench.tree ∧
      ((runOn (compile around arguments) bench).1 = .ok .success ↔
        ((runOn (compile around (checkSwitch :: arguments)) bench).1 = .ok .success ∧
          (runOn (compile around (checkSwitch :: arguments)) bench).2.printed.getLast? =
            some "[OK] Model can be compiled") ∧
        ∀ p changed,
          runOn ((CompileRequest.ofGiven given).project around) bench = (.ok p, changed) →
            p.IsFinite ∧ p.IsEncodable) := by
  -- Both runs find the same project, as the switch does not bear on it.
  rw [compile_checkSwitch_iff hread, compile_checkSwitch_of_read hread, compile_of_read hread,
    CompileRequest.finish_store_eq_success hfull (CompileRequest.isNull_output hread) hwritable]
  refine ⟨CompileRequest.tree_finish_check rfl, ?_⟩
  constructor
  · rintro ⟨p, changed, hproject, hcheck, hrest⟩
    refine ⟨⟨p, changed, hproject, hcheck⟩, fun other after hother => ?_⟩
    cases hproject.symm.trans hother
    exact hrest
  · rintro ⟨⟨p, changed, hproject, hcheck⟩, hrest⟩
    exact ⟨p, changed, hproject, hcheck, hrest p changed hproject⟩

/-- All values of the sample are finite, so its compilation only needs texts that can be encoded. -/
theorem compile_eq_success_iff_check_sample :
    compileGrammar.read sampleArguments = .ok sampleGiven ∧
      sampleGiven.has checkSwitch = false ∧
      (CompileRequest.ofGiven sampleGiven).IsWritable .bare (benchHolding .sample .sample).tree ∧
      (runOn (compile .bare (checkSwitch :: sampleArguments))
        (benchHolding .sample .sample)).2.tree = (benchHolding .sample .sample).tree ∧
      ((runOn (compile .bare sampleArguments) (benchHolding .sample .sample)).1 = .ok .success ↔
        (sampleProject .sample).IsEncodable) := by
  have hread := read_sampleArguments
  have hfull : sampleGiven.has checkSwitch = false := by decide
  have hwritable := isWritable_benchHolding .sample .sample
  obtain ⟨htree, hsuccess⟩ := compile_eq_success_iff_check hread hfull hwritable
  refine ⟨hread, hfull, hwritable, htree, hsuccess.trans ?_⟩
  have hproject := runOn_project_benchHolding load_sample
  constructor
  · rintro ⟨-, hfound⟩
    exact (hfound _ _ hproject).2
  · refine fun hencodable => ⟨(compile_checkSwitch_iff hread).2 ⟨_, _, hproject, rfl⟩, ?_⟩
    intro p changed hfound
    cases hproject.symm.trans hfound
    exact ⟨by decide, hencodable⟩

/-- The check says that the network can be compiled; the compilation is refused for its value. -/
theorem compile_ne_check_undefined : ∃ given, compileGrammar.read sampleArguments = .ok given ∧
    (CompileRequest.ofGiven given).IsWritable .bare (benchHolding .undefined .sample).tree ∧
    ((runOn (compile .bare (checkSwitch :: sampleArguments))
        (benchHolding .undefined .sample)).1 = .ok .success ∧
      (runOn (compile .bare (checkSwitch :: sampleArguments))
        (benchHolding .undefined .sample)).2.printed.getLast? =
          some "[OK] Model can be compiled") ∧
    (runOn (compile .bare sampleArguments) (benchHolding .undefined .sample)).1 =
      .ok .failure := by
  have hproject := runOn_project_benchHolding load_undefined
  have hchecked := (compile_checkSwitch_iff read_sampleArguments).2 ⟨_, _, hproject, rfl⟩
  exact ⟨sampleGiven, read_sampleArguments, isWritable_benchHolding _ _, hchecked,
    compile_undefined⟩

end CommandLine

end DenseSketch
