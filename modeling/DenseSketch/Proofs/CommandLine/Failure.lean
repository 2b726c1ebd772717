import DenseSketch.Proofs.CommandLine.Check

/-!
# What a failure leaves

A run fails for its input before any file is changed, but for one place: a snapshot that is asked
for is saved before the project is checked, so it stays where the project is refused.  The snapshot
is that of `--save-snapshot` in SPEC_FULL, section 9.1.
-/

namespace DenseSketch.CommandLine

open Job

namespace CompileRequest

variable {r : CompileRequest} {around : Surroundings} {bench changed : Workbench} {p : Project}

theorem withSnapshot_of_eq_empty (hsave : r.saveSnapshot = "") (tree : Tree) :
    r.withSnapshot p tree = tree := if_pos hsave

/-- A project that is refused for a wrong value while it is stored leaves the snapshot that is asked
    for and no other file, if all names and texts can be written down. -/
theorem tree_store (hproject : runOn (r.project around) bench = (.ok p, changed))
    (houtput : r.output.isNull = false) {fault : Fault}
    (hfault : (runOn (r.store p) changed).1 = .error fault) (hvalue : fault.isValueFault = true)
    (hnames : r.NamesFiles around) (hencodable : p.IsEncodable) :
    (p.check ≠ .ok () ∨ ¬ p.IsFinite) ∧
      (runOn (r.store p) changed).2.tree = r.withSnapshot p bench.tree := by
  have htyped := wellTyped_of_project hproject
  have hsees := sees_store htyped houtput changed
  rw [tree_of_project hproject, Prod.ext_iff] at hsees
  obtain ⟨hresult, htree⟩ := hsees
  obtain ⟨refused, hrefused⟩ := artifact_of_storing hnames (snapshotDirectory_of_project hproject)
    (fun a ha => ⟨⟨p, Project.names_of_artifact htyped ha⟩, hencodable a ha⟩) hvalue
    (hresult.trans hfault)
  constructor
  · have hnone : ¬ ∃ a, p.artifact = .ok a := by simp [hrefused]
    rwa [Project.exists_artifact_iff htyped, not_and_or] at hnone
  · exact htree.symm.trans (tree_storing_of_error hrefused bench.tree)

end CompileRequest

variable {around : Surroundings} {arguments : List String} {bench : Workbench}

theorem exists_given_of_failure
    (hfailure : (runOn (compile around arguments) bench).1 = .ok .failure) :
    ∃ given, compileGrammar.read arguments = .ok given := by
  unfold compile at hfailure
  split at hfailure
  · cases hfailure
  · cases hfailure
  · next given hread => exact ⟨given, hread⟩

/-- **What a failure leaves.**  A run that fails leaves the files as they were, unless it has found
    a project that it is to store.  Then a snapshot that is asked for may have been saved, where the
    checks refuse the project or a value of it is not finite; more may have happened only where a
    name or a text cannot be written down. -/
theorem tree_of_compile_failure
    (hfailure : (runOn (compile around arguments) bench).1 = .ok .failure) :
    (runOn (compile around arguments) bench).2.tree = bench.tree ∨
      ∃ given p changed, compileGrammar.read arguments = .ok given ∧
        given.has checkSwitch = false ∧
        runOn ((CompileRequest.ofGiven given).project around) bench = (.ok p, changed) ∧
        ((CompileRequest.ofGiven given).saveSnapshot ≠ "" ∧
            (p.check ≠ .ok () ∨ ¬ p.IsFinite) ∧
            (runOn (compile around arguments) bench).2.tree =
              (CompileRequest.ofGiven given).withSnapshot p bench.tree ∨
          ¬ (CompileRequest.ofGiven given).NamesFiles around ∨ ¬ p.IsEncodable) := by
  obtain ⟨given, hread⟩ := exists_given_of_failure hfailure
  rw [compile_of_read hread] at hfailure ⊢
  cases hcheck : (CompileRequest.ofGiven given).isCheckOnly with
  | true => exact .inl (CompileRequest.tree_finish_check hcheck)
  | false =>
    obtain ⟨fault, hfault, hvalue⟩ := CompileRequest.finish_eq_failure.1 hfailure
    rw [CompileRequest.tree_finish]
    rcases CompileRequest.run_cases (CompileRequest.ofGiven given) around bench with
      ⟨_, changed, hproject, hrun⟩ | ⟨p, changed, hproject, hrun⟩
    · rw [hrun]
      exact .inl (CompileRequest.tree_of_project hproject)
    · rw [hcheck, if_neg Bool.false_ne_true] at hrun
      rw [hrun] at hfault ⊢
      -- Where all names and texts can be written down, what is refused is the project itself.
      by_cases hfit : (CompileRequest.ofGiven given).NamesFiles around ∧ p.IsEncodable
      · obtain ⟨hrefused, htree⟩ := CompileRequest.tree_store hproject
          (CompileRequest.isNull_output hread) hfault hvalue hfit.1 hfit.2
        by_cases hsave : (CompileRequest.ofGiven given).saveSnapshot = ""
        · exact .inl (htree.trans (CompileRequest.withSnapshot_of_eq_empty hsave _))
        · exact .inr ⟨given, p, changed, hread, hcheck, hproject, .inl ⟨hsave, hrefused, htree⟩⟩
      · exact .inr ⟨given, p, changed, hread, hcheck, hproject, .inr (not_and_or.1 hfit)⟩

/-- Where no snapshot is asked for, a network with a value that is no number leaves nothing. -/
theorem tree_of_compile_failure_undefined :
    (runOn (compile .bare sampleArguments) (benchHolding .undefined .sample)).1 = .ok .failure ∧
      (runOn (compile .bare sampleArguments) (benchHolding .undefined .sample)).2.tree =
        (benchHolding .undefined .sample).tree := by
  refine ⟨compile_undefined, ?_⟩
  rcases tree_of_compile_failure compile_undefined with
    htree | ⟨given, p, changed, hread, -, hproject, hrest⟩
  · exact htree
  · cases read_sampleArguments.symm.trans hread
    cases (runOn_project_benchHolding load_undefined).symm.trans hproject
    rcases hrest with ⟨hsave, -⟩ | hnames | hencodable
    · exact absurd rfl hsave
    · have hfit : (CompileRequest.ofGiven sampleGiven).NamesFiles .bare :=
        ⟨by decide, by decide, fun s hs => by cases hs; decide⟩
      exact absurd hfit hnames
    · exact absurd (fun a ha => by cases ha) hencodable

/-- The options that give the sample three labels, and ask for a snapshot. -/
def mislabelledArguments : List String :=
  sampleArguments ++ ["--labels", "a,b,c", "--save-snapshot", "copies/copy.json"]

def mislabelledGiven : Given :=
  sampleGiven ++ [("--labels", .text "a,b,c"), ("--save-snapshot", .text "copies/copy.json")]

def mislabelledProject : Project :=
  { sampleProject .sample with metadata := { Metadata.sample with labels := ["a", "b", "c"] } }

theorem runOn_project_mislabelled :
    runOn ((CompileRequest.ofGiven mislabelledGiven).project .bare)
        (benchHolding .sample .sample) =
      (.ok mislabelledProject, benchHolding .sample .sample) := by
  have hoverride : (CompileRequest.ofGiven mislabelledGiven).override .sample =
      .ok mislabelledProject.metadata := rfl
  have hcreate : Project.create .sample mislabelledProject.metadata
      ((CompileRequest.ofGiven mislabelledGiven).settings .bare .classification) =
        .ok mislabelledProject := rfl
  have hsnapshot : (CompileRequest.ofGiven mislabelledGiven).snapshot = "m.json" := rfl
  have hload := load_sample
  rw [← hsnapshot] at hload
  rw [CompileRequest.runOn_project_of_load (by decide) hload, hoverride]
  exact congrArg (Prod.mk · (benchHolding .sample .sample)) hcreate

/-- The files with the snapshot beside them. -/
def copiedTree : Tree :=
  let made : Tree := ⟨[["copies"]], (benchHolding .sample .sample).tree.files⟩
  made.withFile ["copies", "copy.json"]
    (.text (mislabelledProject.snapshotText (.text Board.defaultName) (.text "color")))

theorem runOn_storing_mislabelled :
    runOn ((CompileRequest.ofGiven mislabelledGiven).storing mislabelledProject)
        (benchHolding .sample .sample).tree =
      (.error (.outputCount (.labels 3 2)), copiedTree) := by
  have hartifact : mislabelledProject.artifact = .error (.outputCount (.labels 3 2)) := rfl
  -- The snapshot is saved before the labels are checked.
  have hsave : Snapshot.save (.ofText "copies/copy.json")
      (mislabelledProject.snapshotText (.text Board.defaultName) (.text "color"))
      (benchHolding .sample .sample).tree = (copiedTree, .ok "copies/copy.json") :=
    Snapshot.save_eq_ok.2 ⟨_, rfl, Tree.write_of_find ["copies", "copy.json"] rfl rfl
      (Project.isEncodable_snapshotText _ _), by decide⟩
  have hsaving : runOn (Snapshot.saving true (.ofText "copies/copy.json")
      (mislabelledProject.snapshotText (.text Board.defaultName) (.text "color")))
      (benchHolding .sample .sample).tree = (.ok (), copiedTree) := by
    rw [Snapshot.runOn_saving, if_pos rfl, hsave]
    rfl
  rw [CompileRequest.storing_eq_throw hartifact]
  exact runOn_bind_of_ok hsaving _

/-- The labels are refused, and yet the snapshot is there. -/
theorem compile_changes_mislabelled :
    (runOn (compile .bare mislabelledArguments) (benchHolding .sample .sample)).1 =
        .ok .failure ∧
      (runOn (compile .bare mislabelledArguments)
        (benchHolding .sample .sample)).2.tree.isFile ["copies", "copy.json"] = true ∧
      (benchHolding .sample .sample).tree.isFile ["copies", "copy.json"] = false := by
  have hread : compileGrammar.read mislabelledArguments = .ok mislabelledGiven := rfl
  have hproject := runOn_project_mislabelled
  have hrun : runOn ((CompileRequest.ofGiven mislabelledGiven).run .bare)
      (benchHolding .sample .sample) =
        runOn ((CompileRequest.ofGiven mislabelledGiven).store mislabelledProject)
          (benchHolding .sample .sample) := by
    rw [CompileRequest.run_eq, runOn_bind_of_ok hproject]
    rfl
  have hsees := CompileRequest.sees_store (CompileRequest.wellTyped_of_project hproject)
    (CompileRequest.isNull_output hread) (benchHolding .sample .sample)
  obtain ⟨hresult, htree⟩ := Prod.mk.inj (runOn_storing_mislabelled.symm.trans hsees)
  rw [compile_of_read hread]
  refine ⟨CompileRequest.finish_eq_failure.2
    ⟨_, (congrArg Prod.fst hrun).trans hresult.symm, rfl⟩, ?_, rfl⟩
  rw [CompileRequest.tree_finish, hrun, ← htree]
  rfl

end DenseSketch.CommandLine
