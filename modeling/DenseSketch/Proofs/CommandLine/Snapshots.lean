import DenseSketch.Proofs.CommandLine.Overrides
import DenseSketch.Proofs.Project.Refusals
import DenseSketch.Proofs.Snapshot.Refusals

/-!
# Which snapshots are reported

A run that compiles a snapshot comes to an end and says what is wrong, whatever the snapshot holds,
but for one thing: what has not the form of a snapshot is passed on to the caller of the program.
Nothing behind the snapshot is: options name what is registered and give whole numbers, so the
settings, the checks and the tables refuse wrong values only.
-/

namespace DenseSketch

/-! ### Files without what cannot be encoded -/

namespace Artifact

variable {directory : Location} {tree : Tree}

/-- The text, or nothing in place of one that cannot be encoded. -/
def encodableText (text : String) : String := if Text.isEncodable text then text else ""

theorem isEncodable_encodableText (text : String) :
    Text.isEncodable (encodableText text) = true := by
  unfold encodableText
  split
  · assumption
  · rfl

/-- The artifact with nothing in place of the texts that cannot be encoded. -/
def encodable (a : Artifact) : Artifact where
  files := a.files.map fun file => (file.1, encodableText file.2)
  length_files := (List.length_map _).trans a.length_files

theorem names_encodable (a : Artifact) : a.encodable.names = a.names := by
  simp [names, encodable]

theorem isEncodable_encodable (a : Artifact) : a.encodable.IsEncodable := by
  intro file hfile
  obtain ⟨given, -, rfl⟩ := List.mem_map.1 hfile
  exact isEncodable_encodableText given.2

/-- Where files are written but for the texts that cannot be encoded, only those are refused. -/
theorem refusesValues_writeFiles {files : List (String × String)}
    (h : ∃ paths, (writeFiles directory tree
      (files.map fun file => (file.1, encodableText file.2))).2 = .ok paths) :
    RefusesValues (writeFiles directory tree files).2 := by
  induction files generalizing tree with
  | nil => exact .ok []
  | cons file rest ih =>
    obtain ⟨name, text⟩ := file
    rw [List.map_cons] at h
    obtain ⟨written, hwrite, hrest⟩ := exists_writeFiles_cons.1 h
    unfold writeFiles
    by_cases htext : Text.isEncodable text
    · rw [encodableText, if_pos htext] at hwrite
      simp only [hwrite]
      exact (ih hrest).map _
    · -- The place is fit for a file, so it is the text that is refused.
      obtain ⟨key, hfind, hkey, -, -⟩ := Tree.write_eq_ok.1 hwrite
      obtain ⟨left, hleft⟩ : ∃ left, tree.write (directory.join (.ofText name)) text =
          (left, .error .unencodable) := by
        simp [Tree.write, hfind, hkey, htext]
      simp only [hleft]
      exact .error rfl

theorem refusesValues_writeTo {a : Artifact}
    (h : ∃ paths, (a.encodable.writeTo directory tree).2 = .ok paths) :
    RefusesValues (a.writeTo directory tree).2 := by
  unfold writeTo at h ⊢
  split at h
  · obtain ⟨_, hpaths⟩ := h
    cases hpaths
  · exact refusesValues_writeFiles h

/-- The files of a project without anything in them. -/
def blank (p : Project) : Artifact where
  files := [(p.sketchName, ""), (Project.headerName, ""), (Project.readmeName, "")]
  length_files := rfl

theorem isEncodable_blank (p : Project) : (blank p).IsEncodable := by
  have hempty : Text.isEncodable "" = true := rfl
  simp [IsEncodable, blank, hempty]

end Artifact

theorem Snapshot.load_of_read {l : Location} {tree : Tree} {text : String}
    (hread : tree.read l = .ok text) : Snapshot.load l tree = Snapshot.ofText text := by
  rw [Snapshot.load, hread]
  rfl

namespace CommandLine

open Job

/-! ### Options that name settings -/

/-- Every option has a value of its own: no separator is attached to one in place of a value. -/
def Given.IsPlain (given : Given) : Prop := ∀ option ∈ given, option.2 ≠ .list []

section Options

variable {arguments : List String} {given : Given} {name : String}

theorem integer_latestOr (hread : compileGrammar.read arguments = .ok given)
    (hplain : given.IsPlain) (hrule : ⟨name, .number⟩ ∈ compileGrammar.rules)
    (default : Document) :
    (∃ n : Int, given.latestOr name default = .integer n) ∨
      given.latestOr name default = default := by
  rcases CompileRequest.latestOr_cases hread hrule default with ⟨hmem, hvalue⟩ | hdefault
  · left
    generalize given.latestOr name default = value at hmem hvalue
    cases hvalue with
    | number n => exact ⟨n, rfl⟩
    | separator => exact absurd rfl (hplain _ hmem)
  · exact .inr hdefault

theorem text_latestOr {choices : List String} (hread : compileGrammar.read arguments = .ok given)
    (hplain : given.IsPlain) (hrule : ⟨name, .oneOf choices⟩ ∈ compileGrammar.rules)
    (default : String) : ∃ s, given.latestOr name (.text default) = .text s := by
  rcases CompileRequest.latestOr_cases hread hrule (.text default) with ⟨hmem, hvalue⟩ | hdefault
  · generalize given.latestOr name (.text default) = value at hmem hvalue
    cases hvalue with
    | choice => exact ⟨_, rfl⟩
    | separator => exact absurd rfl (hplain _ hmem)
  · exact ⟨default, hdefault⟩

namespace CompileRequest

theorem isNamed_settings (hread : compileGrammar.read arguments = .ok given)
    (hplain : given.IsPlain) (around : Surroundings) (variant : Variant) :
    ((ofGiven given).settings around variant).IsNamed := by
  have hinteger {name : String} (hrule : ⟨name, .number⟩ ∈ compileGrammar.rules) (default : Int) :
      ∃ n, given.latestOr name (.integer default) = .integer n :=
    (integer_latestOr hread hplain hrule _).elim id fun h => ⟨default, h⟩
  constructor
  case board => rfl
  case boardName => exact @text_latestOr _ _ "--target" Board.names hread hplain (by decide) _
  case sensor => rfl
  case sensorName => exact @text_latestOr _ _ "--sensor" Sensor.names hread hplain (by decide) _
  case transport => cases variant <;> exact ⟨_, _, rfl, rfl⟩
  case sampleInterval => exact hinteger (by decide) _
  case predictionInterval => exact hinteger (by decide) _
  case baudRate => exact hinteger (by decide) _

theorem window_of_read (hread : compileGrammar.read arguments = .ok given)
    (hplain : given.IsPlain) :
    ∃ window : Option Int, (ofGiven given).window = (window.map .integer).getD .null := by
  rcases @integer_latestOr _ _ "--window-size" hread hplain (by decide) .null with
    ⟨n, hn⟩ | hnull
  · exact ⟨some n, hn⟩
  · exact ⟨none, hnull⟩

end CompileRequest

end Options

/-! ### What a run refuses -/

namespace CompileRequest

variable {r : CompileRequest} {around : Surroundings} {bench changed : Workbench} {p : Project}
  {net : Network} {m : Metadata}

/-- Where nothing stands in the way of the files, only texts that cannot be encoded are refused. -/
theorem refusesValues_writing {tree : Tree} (hwritable : r.IsWritable around tree)
    {saved exported : String} {a : Artifact} (hsaved : Text.isEncodable saved = true)
    (hexported : Text.isEncodable exported = true) (hnamed : a.IsNamed) :
    RefusesValues
      (runOn (r.writing (Text.strip around.snapshotDirectory) saved exported a) tree).1 := by
  have hnames : a.encodable.IsNamed := by
    obtain ⟨p, hp⟩ := hnamed
    exact ⟨p, a.names_encodable.trans hp⟩
  have hencodable := hwritable saved exported a.encodable hsaved hexported hnames
    a.isEncodable_encodable
  obtain ⟨_, saving, hsaving, h⟩ := exists_of_runOn_bind_eq_ok hencodable
  obtain ⟨_, exporting, hexporting, h⟩ := exists_of_runOn_bind_eq_ok h
  obtain ⟨location, located, hlocated, h⟩ := exists_of_runOn_bind_eq_ok h
  obtain ⟨paths, written, hwritten, -⟩ := exists_of_runOn_bind_eq_ok h
  -- Up to the files all goes as it does for the artifact that can be encoded.
  have hfiles : RefusesValues (a.writeTo location located).2 :=
    Artifact.refusesValues_writeTo ⟨paths, congrArg Prod.fst hwritten⟩
  rw [writing, runOn_bind_of_ok hsaving, runOn_bind_of_ok hexporting, runOn_bind_of_ok hlocated,
    runOn_bind, runOn_ofStep]
  cases hresult : (a.writeTo location located).2 with
  | error fault => exact .error (hfiles fault hresult)
  | ok _ => exact .ok ()

theorem refusesValues_storing {tree : Tree} (hwritable : r.IsWritable around tree)
    (hexports : p.snapshotDirectory = Text.strip around.snapshotDirectory) (htyped : p.WellTyped)
    (hcheck : RefusesValues p.check) : RefusesValues (runOn (r.storing p) tree).1 := by
  have hsaved := p.isEncodable_snapshotText r.board r.sensor
  have hexported := p.isEncodable_snapshotText p.board.name p.sensor.name
  cases hartifact : p.artifact with
  | ok a =>
    rw [storing_eq_writing hartifact, hexports]
    exact refusesValues_writing hwritable hsaved hexported
      ⟨p, Project.names_of_artifact htyped hartifact⟩
  | error fault =>
    -- The snapshot that is asked for is saved before there is anything to refuse.
    obtain ⟨_, saving, hsaving, -⟩ := exists_of_runOn_bind_eq_ok
      (hwritable _ _ (.blank p) hsaved hexported ⟨p, rfl⟩ (Artifact.isEncodable_blank p))
    rw [storing_eq_throw hartifact, runOn_bind_of_ok hsaving]
    exact .error (Project.refusesValues_artifact htyped hcheck fault hartifact)

theorem refusesValues_create (labels : List String) (variant : Variant) (window : Int) :
    RefusesValues (Metadata.create labels variant (.integer window)) := by
  refine .bind (.ok _) fun count _ => ?_
  split
  · exact .ok _
  · exact .error rfl

theorem refusesValues_override {window : Option Int} (m : Metadata)
    (hwindow : r.window = (window.map .integer).getD .null) : RefusesValues (r.override m) := by
  unfold override
  split
  · exact .ok m
  · rw [hwindow]
    cases window with
    | none => exact refusesValues_create _ _ _
    | some w =>
      dsimp only [Option.map_some, Option.getD_some]
      split
      · exact refusesValues_create _ _ _
      · exact refusesValues_create _ _ _

/-- Once a snapshot is loaded, what is refused is refused for a wrong value. -/
theorem refusesValues_run_of_load {window : Option Int}
    (hwindow : r.window = (window.map .integer).getD .null)
    (hsettings : ∀ variant, (r.settings around variant).IsNamed)
    (houtput : r.output.isNull = false)
    (hwritable : r.isCheckOnly = true ∨ r.IsWritable around bench.tree)
    (hsnapshot : r.snapshot ≠ "")
    (hload : Snapshot.load (.ofText r.snapshot) bench.tree = .ok (net, m)) :
    RefusesValues (runOn (r.run around) bench).1 := by
  rcases run_cases r around bench with
    ⟨fault, changed, hproject, hrun⟩ | ⟨p, changed, hproject, hrun⟩
  · rw [runOn_project_of_load hsnapshot hload, Prod.mk.injEq] at hproject
    have hmade : RefusesValues
        (r.override m >>= fun m => Project.create net m (r.settings around m.variant)) :=
      (refusesValues_override m hwindow).bind fun made _ =>
        Project.refusesValues_create (hsettings made.variant)
    rw [hrun]
    exact .error (hmade fault hproject.1)
  · obtain ⟨_, made, hcreate⟩ := create_of_project hproject
    have hcountable : p.IsCountable :=
      Project.isCountable_of_create (hsettings made.variant) hcreate
    have hcheck := hcountable.refusesValues_check
    rw [hrun]
    split
    · obtain ⟨printed, hchecked, -⟩ := runOn_check p changed
      rw [hchecked]
      exact hcheck
    · next hfull =>
      rw [fst_runOn_store hproject houtput]
      exact refusesValues_storing (hwritable.resolve_left hfull)
        (snapshotDirectory_of_project hproject) (wellTyped_of_project hproject) hcheck

/-- What is refused while the snapshot is loaded ends the run before it does anything. -/
theorem runOn_run_of_load_error {fault : Fault} (hsnapshot : r.snapshot ≠ "")
    (hload : Snapshot.load (.ofText r.snapshot) bench.tree = .error fault) :
    runOn (r.run around) bench = (.error fault, bench) := by
  rw [run, inputs, if_pos hsnapshot, snapshotInputs]
  simp only [runOn_bind, runOn_get, hload, runOn_ofExcept]

/-! ### Reports -/

/-- A run has come to its end, and where it fails it has said why at last. -/
def IsReported (outcome : Except Fault Ending × Workbench) : Prop :=
  outcome.1 = .ok .success ∨
    outcome.1 = .ok .failure ∧ ∃ fault, outcome.2.printed.getLast? = some (faultLine fault)

theorem isReported_finish (h : RefusesValues (runOn (r.run around) bench).1) :
    IsReported (runOn (r.finish around) bench) := by
  rcases hrun : runOn (r.run around) bench with ⟨fault | _, changed⟩
  · rw [hrun] at h
    have hvalue : fault.isValueFault = true := h fault rfl
    rw [finish_of_run_eq_error hrun, if_pos hvalue]
    exact .inr ⟨rfl, fault, List.getLast?_concat⟩
  · exact .inl (congrArg Prod.fst (finish_of_run_eq_ok hrun))

theorem finish_of_load_error {fault : Fault} (hsnapshot : r.snapshot ≠ "")
    (hload : Snapshot.load (.ofText r.snapshot) bench.tree = .error fault)
    (hother : fault.isValueFault = false) :
    runOn (r.finish around) bench = (.error fault, bench) := by
  rw [finish_of_run_eq_error (runOn_run_of_load_error hsnapshot hload), hother,
    if_neg Bool.false_ne_true]

end CompileRequest

variable {around : Surroundings} {arguments : List String} {given : Given} {bench : Workbench}
  {text : String}

/-- **Which snapshots are reported.**  A run that compiles a snapshot, whatever its text is, comes to
    its end and says what is wrong if it fails, exactly if the text is not refused for its form.
    What is refused for its form is passed on, and nothing has been printed or written.  Where more
    than a check is asked for, nothing must stand in the way of the files. -/
theorem compile_isReported_iff (hread : compileGrammar.read arguments = .ok given)
    (hplain : given.IsPlain) (hsnapshot : (CompileRequest.ofGiven given).snapshot ≠ "")
    (htext : bench.tree.read (.ofText (CompileRequest.ofGiven given).snapshot) = .ok text)
    (hwritable : given.has checkSwitch = true ∨
      (CompileRequest.ofGiven given).IsWritable around bench.tree) :
    (CompileRequest.IsReported (runOn (compile around arguments) bench) ↔
      ∀ fault, Snapshot.ofText text = .error fault → ¬ fault.IsOfForm) ∧
    ∀ fault, Snapshot.ofText text = .error fault → fault.IsOfForm →
      runOn (compile around arguments) bench = (.error fault, bench) := by
  have hload := Snapshot.load_of_read htext
  have hpassed : ∀ fault, Snapshot.ofText text = .error fault → fault.IsOfForm →
      runOn (compile around arguments) bench = (.error fault, bench) := by
    intro fault hfault hform
    rw [compile_of_read hread]
    exact CompileRequest.finish_of_load_error hsnapshot (hload.trans hfault)
      hform.not_isValueFault
  refine ⟨⟨?reported, ?values⟩, hpassed⟩
  case reported =>
    intro hreported fault hfault hform
    rw [hpassed fault hfault hform] at hreported
    rcases hreported with hsuccess | ⟨hfailure, -⟩
    · cases hsuccess
    · cases hfailure
  case values =>
    intro hvalues
    rw [compile_of_read hread]
    refine CompileRequest.isReported_finish ?_
    cases hresult : Snapshot.ofText text with
    | error fault =>
      rw [CompileRequest.runOn_run_of_load_error hsnapshot (hload.trans hresult)]
      have hfault := Snapshot.refusedFor_ofText text fault hresult
      exact .error (hfault.resolve_right (hvalues fault hresult))
    | ok found =>
      obtain ⟨window, hwindow⟩ := CompileRequest.window_of_read hread hplain
      exact CompileRequest.refusesValues_run_of_load hwindow
        (CompileRequest.isNamed_settings hread hplain around)
        (CompileRequest.isNull_output hread) hwritable hsnapshot (hload.trans hresult)

/-- A workbench with a text on it in the place of a snapshot. -/
def benchWith (text : String) : Workbench := { tree := { files := [(["m.json"], .text text)] } }

/-- The options that check that snapshot. -/
def checkArguments : List String := sampleArguments ++ [checkSwitch]

def checkGiven : Given := sampleGiven ++ [(checkSwitch, .truth true)]

/-- A record that says nothing is reported. -/
theorem compile_isReported_record :
    CompileRequest.IsReported (runOn (compile .bare checkArguments) (benchWith "\x7b\x7d")) := by
  have hread : compileGrammar.read checkArguments = .ok checkGiven := rfl
  have hrefused : Snapshot.ofText "\x7b\x7d" = .error (.snapshot (.kind "None")) := rfl
  have hplain : checkGiven.IsPlain := by simp [Given.IsPlain, checkGiven, sampleGiven]
  have hreported := @compile_isReported_iff .bare checkArguments checkGiven
    (benchWith "\x7b\x7d") "\x7b\x7d" hread hplain (by decide) rfl (.inl rfl)
  refine hreported.1.2 fun fault hfault hform => ?_
  cases hrefused.symm.trans hfault
  cases hform

/-- A list is not: it is there and can be read, and what refuses it leaves the program. -/
theorem not_isReported_list :
    compileGrammar.read sampleArguments = .ok sampleGiven ∧
      (benchWith "[]").tree.read (.ofText "m.json") = .ok "[]" ∧
      runOn (compile .bare sampleArguments) (benchWith "[]") =
        (.error .noSuchMember, benchWith "[]") ∧
      ¬ CompileRequest.IsReported (runOn (compile .bare sampleArguments) (benchWith "[]")) := by
  have hpassed : runOn (compile .bare sampleArguments) (benchWith "[]") =
      (.error .noSuchMember, benchWith "[]") := by
    rw [compile_of_read read_sampleArguments]
    exact CompileRequest.finish_of_load_error (by decide) rfl rfl
  refine ⟨read_sampleArguments, rfl, hpassed, ?_⟩
  rw [hpassed]
  rintro (hsuccess | ⟨hfailure, -⟩)
  · cases hsuccess
  · cases hfailure

end CommandLine

end DenseSketch
