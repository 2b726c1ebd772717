import DenseSketch.Proofs.CommandLine.Check

/-!
# Options in the place of what a snapshot says

A run that compiles a snapshot takes its network as it is.  The labels that are given stand in the
place of its labels, and a positive window in the place of its window.  A negative window is refused;
a window of zero counts as none.
-/

namespace DenseSketch.CommandLine

open Job

/-- The project has the network and the variant of a snapshot, and its labels and its window unless
    others are given. -/
structure Overrides (p : Project) (net : Network) (m : Metadata) (labels : Option String)
    (window : Option Int) : Prop where
  network : p.network = net
  labels : p.metadata.labels = (labels.map Message.labelsOfText).getD m.labels
  window : (p.metadata.window : Int) = window.getD m.window
  variant : p.metadata.variant = m.variant

/-- A window is positive, so none is a window of zero. -/
theorem Overrides.ne_zero {p : Project} {net : Network} {m : Metadata} {labels : Option String}
    {window : Option Int} (h : Overrides p net m labels window) : window ≠ some 0 := by
  rintro rfl
  have hzero : (p.metadata.window : Int) = 0 := h.window
  have hpos := p.metadata.window_pos
  omega

/-- The window that counts: zero is no window. -/
def countedWindow (window : Option Int) : Option Int := window.filter (· != 0)

theorem countedWindow_eq {window : Option Int} (hwindow : window ≠ some 0) :
    countedWindow window = window := by
  cases window with
  | none => rfl
  | some w =>
    have hw : w ≠ 0 := fun h => hwindow (congrArg some h)
    simp [countedWindow, hw]

theorem create_of_nonpos {w : Int} (labels : List String) (variant : Variant) (hw : w ≤ 0) :
    Metadata.create labels variant (.integer w) = .error (.setting (.window (toString w))) := by
  have hzero : ¬ 0 < w.toNat := by omega
  simp only [Metadata.create, Document.toInt, bind, Except.bind, dif_neg hzero]
  rfl

theorem metadata_of_create {labels : List String} {variant : Variant} {w : Int} {m : Metadata}
    (h : Metadata.create labels variant (.integer w) = .ok m) :
    m.labels = labels ∧ (m.window : Int) = w ∧ m.variant = variant := by
  simp only [Metadata.create, Document.toInt, bind, Except.bind] at h
  split at h
  · next hpos =>
    cases h
    exact ⟨rfl, Int.toNat_of_nonneg (by omega), rfl⟩
  · cases h

namespace CompileRequest

variable {r : CompileRequest} {given : Given} {around : Surroundings} {net : Network} {m : Metadata}
  {labels : Option String} {window : Option Int}

theorem labels_ofGiven (hlabels : given.latest? "--labels" = labels.map .text) :
    (ofGiven given).labels = labels.map Message.labelsOfText := by
  rw [ofGiven, hlabels, Option.map_map]
  rfl

theorem window_ofGiven (hwindow : given.latest? "--window-size" = window.map .integer) :
    (ofGiven given).window = (window.map .integer).getD .null := by
  change (given.latest? "--window-size").getD .null = _
  rw [hwindow]

/-- Whatever is given, the metadata are made anew from the labels and the window that count. -/
theorem override_eq (m : Metadata) (window : Option Int)
    (hlabels : r.labels = labels.map Message.labelsOfText)
    (hwindow : r.window = (window.map .integer).getD .null) :
    r.override m = Metadata.create ((labels.map Message.labelsOfText).getD m.labels) m.variant
      (.integer ((countedWindow window).getD m.window)) := by
  have hsame := Snapshot.create_metadata m
  rw [override, hlabels, hwindow]
  cases window with
  | none =>
    cases labels with
    | none => exact hsame.symm
    | some s => rfl
  | some w =>
    by_cases hw : w = 0
    · subst hw
      cases labels <;> rfl
    · have htruthy : (Document.integer w).isTruthy = true := by simp [Document.isTruthy, hw]
      have hcounted : countedWindow (some w) = some w :=
        countedWindow_eq fun h => hw (Option.some.inj h)
      rw [hcounted]
      cases labels <;> simp [Document.isNull, htruthy]

/-- A project that is found has what is given, and the rest from the snapshot. -/
theorem overrides_of_project {bench changed : Workbench} {p : Project}
    (hlabels : r.labels = labels.map Message.labelsOfText)
    (hwindow : r.window = (window.map .integer).getD .null) (hsnapshot : r.snapshot ≠ "")
    (hload : Snapshot.load (.ofText r.snapshot) bench.tree = .ok (net, m))
    (hproject : runOn (r.project around) bench = (.ok p, changed)) :
    changed = bench ∧ Overrides p net m labels (countedWindow window) := by
  rw [runOn_project_of_load hsnapshot hload, override_eq m window hlabels hwindow,
    Prod.mk.injEq] at hproject
  obtain ⟨hfound, rfl⟩ := hproject
  obtain ⟨made, hmade, hcreate⟩ := bind_eq_ok.1 hfound
  obtain ⟨hmadeLabels, hmadeWindow, hmadeVariant⟩ := metadata_of_create hmade
  have hparts := Project.madeOf_of_create hcreate
  refine ⟨rfl, hparts.network, ?_, ?_, ?_⟩
  · rw [hparts.metadata, hmadeLabels]
  · rw [hparts.metadata, hmadeWindow]
  · rw [hparts.metadata, hmadeVariant]

/-- A negative window is refused before there is a project. -/
theorem finish_of_neg {bench : Workbench} {w : Int}
    (hlabels : r.labels = labels.map Message.labelsOfText) (hwindow : r.window = .integer w)
    (hsnapshot : r.snapshot ≠ "")
    (hload : Snapshot.load (.ofText r.snapshot) bench.tree = .ok (net, m)) (hw : w < 0) :
    runOn (r.finish around) bench =
      (.ok .failure, { bench with printed := bench.printed ++
        ["ERROR: sample_window_size must be positive, got " ++ toString w] }) := by
  have hcounted : countedWindow (some w) = some w :=
    countedWindow_eq fun h => hw.ne (Option.some.inj h)
  have hoverride : r.override m = .error (.setting (.window (toString w))) := by
    rw [override_eq m (some w) hlabels hwindow, hcounted, Option.getD_some,
      create_of_nonpos _ _ hw.le]
  have hproject : runOn (r.project around) bench =
      (.error (.setting (.window (toString w))), bench) := by
    rw [runOn_project_of_load hsnapshot hload, hoverride]
    rfl
  have hrun : runOn (r.run around) bench = (.error (.setting (.window (toString w))), bench) := by
    rw [run_eq]
    exact runOn_bind_of_error hproject _
  exact finish_of_run_eq_error hrun

end CompileRequest

variable {around : Surroundings} {arguments : List String} {given : Given} {bench : Workbench}
  {net : Network} {m : Metadata} {labels : Option String} {window : Option Int}

/-- **What options replace.**  A run that compiles a snapshot and succeeds checks or stores a project
    with the network and the variant of the snapshot, with the labels that are given or else those of
    the snapshot, and with the window that is given or else that of the snapshot.  Only a window of
    zero is not honoured: it counts as none.  A negative window is refused. -/
theorem compile_overrides (hread : compileGrammar.read arguments = .ok given)
    (hsnapshot : (CompileRequest.ofGiven given).snapshot ≠ "")
    (hload : Snapshot.load (.ofText (CompileRequest.ofGiven given).snapshot) bench.tree =
      .ok (net, m))
    (hlabels : given.latest? "--labels" = labels.map .text)
    (hwindow : given.latest? "--window-size" = window.map .integer) :
    (∀ result, runOn (compile around arguments) bench = (.ok .success, result) →
      ∃ p, runOn ((CompileRequest.ofGiven given).project around) bench = (.ok p, bench) ∧
        runOn (if (CompileRequest.ofGiven given).isCheckOnly then CompileRequest.check p
          else (CompileRequest.ofGiven given).store p) bench = (.ok (), result) ∧
        Overrides p net m labels (countedWindow window) ∧
        (Overrides p net m labels window ↔ window ≠ some 0)) ∧
    ∀ w, window = some w → w < 0 →
      runOn (compile around arguments) bench =
        (.ok .failure, { bench with printed := bench.printed ++
          ["ERROR: sample_window_size must be positive, got " ++ toString w] }) := by
  have hlabels' := CompileRequest.labels_ofGiven hlabels
  have hwindow' := CompileRequest.window_ofGiven hwindow
  rw [compile_of_read hread]
  refine ⟨fun result hsuccess => ?_, ?_⟩
  · have hrun : runOn ((CompileRequest.ofGiven given).run around) bench = (.ok (), result) := by
      rcases CompileRequest.finish_cases (CompileRequest.ofGiven given) around bench with
        ⟨changed, hrun, hfinish⟩ | ⟨_, _, -, -, hfinish⟩ | ⟨_, _, -, -, hfinish⟩
      · cases hsuccess.symm.trans hfinish
        exact hrun
      · cases hsuccess.symm.trans hfinish
      · cases hsuccess.symm.trans hfinish
    rcases CompileRequest.run_cases (CompileRequest.ofGiven given) around bench with
      ⟨fault, changed, -, hrefused⟩ | ⟨p, changed, hproject, hrest⟩
    · cases hrun.symm.trans hrefused
    · obtain ⟨rfl, hoverrides⟩ :=
        CompileRequest.overrides_of_project hlabels' hwindow' hsnapshot hload hproject
      refine ⟨p, hproject, ?_, hoverrides, fun h => h.ne_zero, fun hne => ?_⟩
      · rw [← hrun, hrest]
        cases (CompileRequest.ofGiven given).isCheckOnly <;> rfl
      · rwa [countedWindow_eq hne] at hoverrides
  · rintro w rfl hw
    exact CompileRequest.finish_of_neg hlabels' hwindow' hsnapshot hload hw

/-- A check of a project that the checks accept succeeds. -/
theorem exists_compile_eq_success {p : Project} (hread : compileGrammar.read arguments = .ok given)
    (hswitch : (CompileRequest.ofGiven given).isCheckOnly = true)
    (hproject : runOn ((CompileRequest.ofGiven given).project around) bench = (.ok p, bench))
    (hcheck : p.check = .ok ()) :
    ∃ result, runOn (compile around arguments) bench = (.ok .success, result) := by
  rw [compile_of_read hread]
  have hsuccess := (CompileRequest.finish_check_eq_success hswitch).2 ⟨p, bench, hproject, hcheck⟩
  exact ⟨_, Prod.ext hsuccess.1 rfl⟩

theorem load_sample_of_snapshot (hsnapshot : (CompileRequest.ofGiven given).snapshot = "m.json") :
    Snapshot.load (.ofText (CompileRequest.ofGiven given).snapshot)
      (benchHolding .sample .sample).tree = .ok (.sample, .sample) := by
  rw [hsnapshot]
  exact load_sample

/-- The sample under other labels, with the window that it has. -/
def relabelledArguments : List String :=
  sampleArguments ++ ["--labels", "up,down", "--window-size", "5", "--check-only"]

def relabelledGiven : Given :=
  sampleGiven ++
    [("--labels", .text "up,down"), ("--window-size", .integer 5), ("--check-only", .truth true)]

def relabelledProject : Project :=
  { sampleProject .sample with metadata := { Metadata.sample with labels := ["up", "down"] } }

theorem compile_overrides_relabelled : ∃ p result,
    runOn (compile .bare relabelledArguments) (benchHolding .sample .sample) =
        (.ok .success, result) ∧
      Overrides p .sample .sample (some "up,down") (some 5) := by
  have hread : compileGrammar.read relabelledArguments = .ok relabelledGiven := rfl
  have hproject : runOn ((CompileRequest.ofGiven relabelledGiven).project .bare)
      (benchHolding .sample .sample) = (.ok relabelledProject, benchHolding .sample .sample) := by
    rw [CompileRequest.runOn_project_of_load (by decide) (load_sample_of_snapshot rfl)]
    rfl
  obtain ⟨result, hsuccess⟩ := exists_compile_eq_success hread rfl hproject rfl
  obtain ⟨hcompiled, -⟩ := @compile_overrides .bare relabelledArguments relabelledGiven
    (benchHolding .sample .sample) .sample .sample (some "up,down") (some 5) hread (by decide)
    (load_sample_of_snapshot rfl) rfl rfl
  obtain ⟨p, -, -, -, hoverrides⟩ := hcompiled result hsuccess
  exact ⟨p, result, hsuccess, hoverrides.2 (by decide)⟩

/-- The sample with a window of zero. -/
def windowlessArguments : List String := sampleArguments ++ ["--window-size", "0", "--check-only"]

def windowlessGiven : Given :=
  sampleGiven ++ [("--window-size", .integer 0), ("--check-only", .truth true)]

/-- A window of zero is not refused, and the window of the snapshot is compiled in its place. -/
theorem not_overrides_windowless : ∃ p result,
    compileGrammar.read windowlessArguments = .ok windowlessGiven ∧
      windowlessGiven.latest? "--window-size" = some (.integer 0) ∧
      Snapshot.load (.ofText "m.json") (benchHolding .sample .sample).tree =
        .ok (.sample, .sample) ∧
      runOn ((CompileRequest.ofGiven windowlessGiven).project .bare)
        (benchHolding .sample .sample) = (.ok p, benchHolding .sample .sample) ∧
      runOn (compile .bare windowlessArguments) (benchHolding .sample .sample) =
        (.ok .success, result) ∧
      p.metadata.window = 5 ∧ ¬ Overrides p .sample .sample none (some 0) := by
  have hread : compileGrammar.read windowlessArguments = .ok windowlessGiven := rfl
  have hproject : runOn ((CompileRequest.ofGiven windowlessGiven).project .bare)
      (benchHolding .sample .sample) =
        (.ok (sampleProject .sample), benchHolding .sample .sample) := by
    rw [CompileRequest.runOn_project_of_load (by decide) (load_sample_of_snapshot rfl)]
    rfl
  obtain ⟨result, hsuccess⟩ := exists_compile_eq_success hread rfl hproject rfl
  exact ⟨_, result, hread, rfl, load_sample, hproject, hsuccess, rfl, fun h => h.ne_zero rfl⟩

end DenseSketch.CommandLine
