import DenseSketch.Proofs.List.Lookup
import DenseSketch.Proofs.Pipeline.Passes
import DenseSketch.Proofs.Workbench.Refusals

/-!
# Steps of a pipeline

What a pass does to the products of a run, whatever the run has made before.  A complete pass makes
one step; a pass that is refused leaves the products as they were, but for the sketch, which is kept
before the header is tried.  No pass touches what is recorded of the passes before it.
-/

namespace DenseSketch

namespace Run

/-- What the passes of a run have worked out and made so far. -/
structure Progress where
  draft : Draft
  made : Products

/-- The progress of a run. -/
def progress (run : Run) : Progress := ⟨run.bench.draft, run.products⟩

/-- What is recorded of the complete passes: their names, in two places. -/
def recorded (run : Run) : List String × List String :=
  (run.context.stageOrder, run.context.diagnostics.stages)

variable {α : Type}

/-- Work comes first and is refused, or the rest goes on with what it yields. -/
theorem work_bind_cases {β : Type} (job : Work α) (next : α → Job Run β) (run : Run) :
    (∃ fault bench,
        Job.runOn (work job >>= next) run = (.error fault, { run with bench := bench })) ∨
      ∃ a bench, Job.runOn job run.bench = (.ok a, bench) ∧
        Job.runOn (work job >>= next) run = Job.runOn (next a) { run with bench := bench } := by
  cases hjob : Job.runOn job run.bench with
  | mk result bench =>
    cases result with
    | error fault =>
      exact .inl ⟨fault, bench, Job.runOn_bind_of_error (by rw [runOn_work, hjob]) next⟩
    | ok a =>
      exact .inr ⟨a, bench, rfl, Job.runOn_bind_of_ok (by rw [runOn_work, hjob]) next⟩

theorem keepsRecorded_work (job : Work α) : Job.Keeps recorded (work job) := fun _ => rfl

theorem runOn_keepFile (name text : String) (run : Run) :
    Job.runOn (keepFile name text) run =
      (.ok (),
        { run with context := { run.context with files := put name text run.context.files } }) :=
  rfl

theorem keepsRecorded_note {change : Context → Context}
    (hchange : ∀ c, ((change c).stageOrder, (change c).diagnostics.stages) =
      (c.stageOrder, c.diagnostics.stages)) : Job.Keeps recorded (note change) :=
  fun run => hchange run.context

theorem keepsRecorded_work_note {job : Work α} {change : α → Context → Context}
    (hchange : ∀ a c, ((change a c).stageOrder, (change a c).diagnostics.stages) =
      (c.stageOrder, c.diagnostics.stages)) :
    Job.Keeps recorded (work job >>= fun a => note (change a)) :=
  .bind (keepsRecorded_work job) fun a => keepsRecorded_note (hchange a)

end Run

namespace Project

variable {p : Project}

/-- The names of the files. -/
def fileNames (p : Project) : List String := [p.sketchName, headerName, readmeName]

theorem nodup_fileNames (p : Project) : p.fileNames.Nodup := by
  unfold fileNames sketchName
  cases p.metadata.variant <;> decide

/-- A text that the stage for the tables yields. -/
def Renders (p : Project) (tables : String) : Prop :=
  ∀ bench, (Job.runOn p.serializeWeights bench).1 = .ok tables

theorem renders_unlines {lines : List String} (htables : p.tables = .ok lines) :
    p.Renders (Text.unlines lines) := by
  intro bench
  rw [runOn_serializeWeights, htables]
  rfl

theorem eq_text_of_header_eq_ok {d : Draft} {tables text : String}
    (h : p.header d tables = .ok text) : text = Header.text p d tables := by
  rw [header, bind_eq_ok] at h
  obtain ⟨_, -, htext⟩ := h
  exact (Except.ok.inj htext).symm

/-- The tables stand in the header as they are. -/
theorem exists_of_header_eq_ok {d : Draft} {tables text : String}
    (h : p.header d tables = .ok text) : ∃ front back, text = front ++ tables ++ back :=
  ⟨_, _, eq_text_of_header_eq_ok h⟩

end Project

theorem Artifact.create_eq_ok {files : List (String × String)} {artifact : Artifact} :
    create files = .ok artifact ↔ files.length = 3 ∧ artifact.files = files := by
  unfold create
  constructor
  · intro h
    split at h
    · next hlength =>
      cases h
      exact ⟨hlength, rfl⟩
    · cases h
  · rintro ⟨hlength, rfl⟩
    exact dif_pos hlength

namespace Pass

variable {p : Project} {pass : Pass} {run after : Run}

/-! ### Complete passes -/

/-- What a complete pass has found and what it makes of the progress so far. -/
inductive Advances (p : Project) : Pass → Run.Progress → Run.Progress → Prop
  | validate {before : Run.Progress} (hcheck : p.check = .ok ()) :
    Advances p .validate before before
  | buildLayerSpecs {before : Run.Progress} (plan : Plan) (pins : List Document)
    (hplan : p.plan = .ok plan) (hpins : p.pins = .ok pins) :
    Advances p .buildLayerSpecs before
      { before with
        draft :=
          { before.draft with
            steps := plan.steps, unitDefines := plan.unitDefines, pins := pins } }
  | serializeWeights {before : Run.Progress} (lines : List String)
    (htables : p.tables = .ok lines) :
    Advances p .serializeWeights before
      { draft := { before.draft with tableBytes := Table.sizeInBytes p.network }
        made :=
          { before.made with
            fragments := put tablesKey (Text.unlines lines) before.made.fragments } }
  | emitSketch {before : Run.Progress} (sketch tables header : String)
    (hsketch : p.sketch before.draft = .ok sketch)
    (hfound : lookup? tablesKey before.made.fragments = some tables)
    (hheader : p.header before.draft tables = .ok header) :
    Advances p .emitSketch before
      { before with
        made :=
          { before.made with
            files := put Project.headerName header (put p.sketchName sketch before.made.files) } }
  | renderDocs {before : Run.Progress} (readme : String)
    (hreadme : p.readme before.draft = .ok readme) :
    Advances p .renderDocs before
      { before with
        made := { before.made with files := put Project.readmeName readme before.made.files } }
  | assemble {before : Run.Progress} (artifact : Artifact)
    (hcreate : Artifact.create before.made.files = .ok artifact) :
    Advances p .assemble before
      { before with made := { before.made with artifact := some artifact } }

/-- What a refused pass leaves: the products as they were, or with a new sketch. -/
def Leaves (p : Project) (made left : Run.Products) : Prop :=
  left = made ∨ ∃ sketch, left = { made with files := put p.sketchName sketch made.files }

/-- A pass is complete and has made its step, or it is refused and has left little. -/
theorem run_cases (p : Project) (pass : Pass) (run : Run) :
    (∃ after, Job.runOn (pass.run p) run = (.ok (), after) ∧
        Advances p pass run.progress after.progress) ∨
      ∃ fault after, Job.runOn (pass.run p) run = (.error fault, after) ∧
        Leaves p run.products after.products ∧
        (pass = .assemble → Artifact.create run.products.files = .error fault) := by
  cases pass with
  | validate =>
    rcases Run.work_bind_cases p.validate _ run with ⟨fault, bench, h⟩ | ⟨_, bench, hwork, h⟩
    · exact .inr ⟨fault, _, h, .inl rfl, nofun⟩
    · obtain ⟨printed, hvalidate⟩ := p.runOn_validate run.bench
      rw [hvalidate, Prod.mk.injEq] at hwork
      obtain ⟨hcheck, rfl⟩ := hwork
      exact .inl ⟨_, h, .validate hcheck⟩
  | buildLayerSpecs =>
    rcases Run.work_bind_cases p.buildPlan _ run with ⟨fault, bench, h⟩ | ⟨steps, bench, hwork, h⟩
    · exact .inr ⟨fault, _, h, .inl rfl, nofun⟩
    · obtain ⟨plan, pins, hplan, hpins, -, rfl⟩ := Project.exists_of_runOn_buildPlan hwork
      exact .inl ⟨_, h, .buildLayerSpecs plan pins hplan hpins⟩
  | serializeWeights =>
    rcases Run.work_bind_cases p.serializeWeights _ run with
      ⟨fault, bench, h⟩ | ⟨tables, bench, hwork, h⟩
    · exact .inr ⟨fault, _, h, .inl rfl, nofun⟩
    · obtain ⟨lines, htables, rfl, rfl⟩ := Project.exists_of_runOn_serializeWeights hwork
      exact .inl ⟨_, h, .serializeWeights lines htables⟩
  | emitSketch =>
    rcases Run.work_bind_cases p.generateSketch _ run with
      ⟨fault, bench, h⟩ | ⟨sketch, bench, hwork, h⟩
    · exact .inr ⟨fault, _, h, .inl rfl, nofun⟩
    · rw [Project.runOn_generateSketch, Prod.mk.injEq] at hwork
      obtain ⟨hsketch, rfl⟩ := hwork
      -- The sketch is kept by now, whatever becomes of the header.
      rw [Job.runOn_bind_of_ok (Run.runOn_keepFile ..), Job.runOn_bind_of_ok (Job.runOn_get _)] at h
      cases hfound : lookup? tablesKey run.context.fragments with
      | none =>
        simp only [hfound] at h
        exact .inr ⟨_, _, h, .inr ⟨sketch, rfl⟩, nofun⟩
      | some tables =>
        simp only [hfound] at h
        rcases Run.work_bind_cases (p.generateHeader tables) (Run.keepFile _) _ with
          ⟨fault, bench, hrest⟩ | ⟨header, bench, hwork, hrest⟩
        · exact .inr ⟨fault, _, h.trans hrest, .inr ⟨sketch, rfl⟩, nofun⟩
        · rw [Project.runOn_generateHeader, Prod.mk.injEq] at hwork
          obtain ⟨hheader, rfl⟩ := hwork
          exact .inl ⟨_, h.trans hrest, .emitSketch sketch tables header hsketch hfound hheader⟩
  | renderDocs =>
    rcases Run.work_bind_cases p.generateReadme _ run with
      ⟨fault, bench, h⟩ | ⟨readme, bench, hwork, h⟩
    · exact .inr ⟨fault, _, h, .inl rfl, nofun⟩
    · rw [Project.runOn_generateReadme, Prod.mk.injEq] at hwork
      obtain ⟨hreadme, rfl⟩ := hwork
      exact .inl ⟨_, h, .renderDocs readme hreadme⟩
  | assemble =>
    cases hcreate : Artifact.create run.context.files with
    | error fault =>
      refine .inr ⟨fault, run, ?_, .inl rfl, fun _ => hcreate⟩
      rw [Pass.run, Job.runOn_bind_of_ok (Job.runOn_get run), Job.runOn_bind_of_error]
      rw [Job.runOn_ofExcept, hcreate]
    | ok artifact =>
      obtain ⟨after, hrun, hafter⟩ : ∃ after,
          Job.runOn (Pass.assemble.run p) run = (.ok (), after) ∧ after.progress =
            ⟨run.bench.draft, { run.products with artifact := some artifact }⟩ := by
        simp [Pass.run, Job.runOn_bind, hcreate, Run.progress, Run.products]
      refine .inl ⟨after, hrun, ?_⟩
      rw [hafter]
      exact .assemble artifact hcreate

theorem keepsRecorded_run (p : Project) (pass : Pass) : Job.Keeps Run.recorded (pass.run p) := by
  cases pass with
  | validate => exact Run.keepsRecorded_work_note fun _ _ => rfl
  | buildLayerSpecs => exact Run.keepsRecorded_work_note fun _ _ => rfl
  | serializeWeights => exact Run.keepsRecorded_work_note fun _ _ => rfl
  | emitSketch =>
    refine .bind (Run.keepsRecorded_work _) fun sketch => ?_
    refine .bind (Run.keepsRecorded_note fun _ => rfl) fun _ => .bind .get fun run => ?_
    cases lookup? tablesKey run.context.fragments with
    | none => exact .throw _
    | some tables => exact Run.keepsRecorded_work_note fun _ _ => rfl
  | renderDocs => exact Run.keepsRecorded_work_note fun _ _ => rfl
  | assemble =>
    exact .bind .get fun _ => .bind (.ofExcept _) fun _ => Run.keepsRecorded_note fun _ => rfl

/-! ### Histories -/

/-- The products of a run account for the passes that are complete.  A file is there exactly if a
    pass has made it, tables are those that the stage for them yields, a sketch stands behind tables
    and its header holds them, and there is an artifact exactly if one has been assembled. -/
structure Accounts (p : Project) (completed : List Pass) (made : Run.Products) : Prop where
  nodup : (made.files.map Prod.fst).Nodup
  files : ∀ name, name ∈ made.files.map Prod.fst ↔
    (name = p.sketchName ∨ name = Project.headerName) ∧ .emitSketch ∈ completed ∨
      name = Project.readmeName ∧ .renderDocs ∈ completed
  tables : ∀ tables, lookup? tablesKey made.fragments = some tables →
    .serializeWeights ∈ completed ∧ p.Renders tables
  sketch : .emitSketch ∈ completed → [.serializeWeights, .emitSketch].Sublist completed
  header : ∀ text, lookup? Project.headerName made.files = some text →
    ∃ front tables back, text = front ++ tables ++ back ∧ p.Renders tables
  artifact : made.artifact.isSome ↔ .assemble ∈ completed

theorem accounts_nil (p : Project) : Accounts p [] ⟨[], [], none⟩ where
  nodup := List.nodup_nil
  files := by simp
  tables := nofun
  sketch := nofun
  header := nofun
  artifact := by simp

variable {completed : List Pass} {made left : Run.Products} {before behind : Run.Progress}

/-- A pass that makes nothing. -/
theorem Accounts.quiet (h : Accounts p completed made)
    (hpass : pass = .validate ∨ pass = .buildLayerSpecs) :
    Accounts p (completed ++ [pass]) made := by
  have hmem : ∀ other, other ≠ .validate → other ≠ .buildLayerSpecs →
      (other ∈ completed ++ [pass] ↔ other ∈ completed) := by
    intro other hvalidate hbuild
    rw [List.mem_append, List.mem_singleton, or_iff_left_iff_imp]
    rintro rfl
    exact absurd hpass (not_or.2 ⟨hvalidate, hbuild⟩)
  constructor
  case nodup => exact h.nodup
  case files =>
    intro name
    rw [h.files, hmem .emitSketch nofun nofun, hmem .renderDocs nofun nofun]
  case tables =>
    intro tables hfound
    rw [hmem .serializeWeights nofun nofun]
    exact h.tables tables hfound
  case sketch =>
    rw [hmem .emitSketch nofun nofun]
    intro hemitted
    exact (h.sketch hemitted).trans (List.sublist_append_left ..)
  case header => exact h.header
  case artifact => rw [h.artifact, hmem .assemble nofun nofun]

theorem Accounts.advance (h : Accounts p completed before.made)
    (hadvance : Advances p pass before behind) : Accounts p (completed ++ [pass]) behind.made := by
  have hsketch : pass ≠ .emitSketch → .emitSketch ∈ completed ++ [pass] →
      [.serializeWeights, .emitSketch].Sublist (completed ++ [pass]) := by
    intro hother hemitted
    rw [List.mem_append, List.mem_singleton] at hemitted
    exact (h.sketch (hemitted.resolve_right (Ne.symm hother))).trans (List.sublist_append_left ..)
  have htables : ∀ tables, lookup? tablesKey before.made.fragments = some tables →
      .serializeWeights ∈ completed ++ [pass] ∧ p.Renders tables := by
    intro tables hfound
    obtain ⟨hmem, hrenders⟩ := h.tables tables hfound
    exact ⟨List.mem_append_left _ hmem, hrenders⟩
  cases hadvance with
  | validate hcheck => exact h.quiet (.inl rfl)
  | buildLayerSpecs plan pins hplan hpins => exact h.quiet (.inr rfl)
  | serializeWeights lines hlines =>
    constructor
    case nodup => exact h.nodup
    case files => simpa using h.files
    case tables =>
      intro found hfound
      rw [lookup?_put_self, Option.some.injEq] at hfound
      subst hfound
      exact ⟨List.mem_append_right _ (List.mem_singleton_self _), Project.renders_unlines hlines⟩
    case sketch => exact hsketch nofun
    case header => exact h.header
    case artifact => simpa using h.artifact
  | emitSketch sketch tables header _ hfound hheader =>
    obtain ⟨hserialized, hrenders⟩ := h.tables tables hfound
    obtain ⟨front, back, rfl⟩ := Project.exists_of_header_eq_ok hheader
    constructor
    case nodup => exact nodup_keys_put (nodup_keys_put h.nodup)
    case files =>
      intro name
      rw [mem_keys_put, mem_keys_put, h.files]
      simp
      tauto
    case tables => exact htables
    case sketch =>
      intro _
      exact (List.singleton_sublist.2 hserialized).append (List.Sublist.refl [emitSketch])
    case header =>
      intro text htext
      rw [lookup?_put_self, Option.some.injEq] at htext
      exact ⟨front, tables, back, htext.symm, hrenders⟩
    case artifact => simpa using h.artifact
  | renderDocs readme hreadme =>
    constructor
    case nodup => exact nodup_keys_put h.nodup
    case files =>
      intro name
      rw [mem_keys_put, h.files]
      simp
      tauto
    case tables => exact htables
    case sketch => exact hsketch nofun
    case header =>
      intro text htext
      rw [lookup?_put_of_ne (by decide)] at htext
      exact h.header text htext
    case artifact => simpa using h.artifact
  | assemble artifact hcreate =>
    constructor
    case nodup => exact h.nodup
    case files => simpa using h.files
    case tables => exact htables
    case sketch => exact hsketch nofun
    case header => exact h.header
    case artifact => simp

theorem Accounts.mem_fileNames (h : Accounts p completed made) :
    ∀ name ∈ made.files.map Prod.fst, name ∈ p.fileNames := by
  intro name hname
  rcases (h.files name).1 hname with ⟨rfl | rfl, -⟩ | ⟨rfl, -⟩ <;> simp [Project.fileNames]

theorem Accounts.perm_fileNames (h : Accounts p completed made)
    (hsketch : .emitSketch ∈ completed) (hdocs : .renderDocs ∈ completed) :
    (made.files.map Prod.fst).Perm p.fileNames := by
  refine (List.perm_ext_iff_of_nodup h.nodup p.nodup_fileNames).2 fun name => ?_
  rw [h.files]
  simp [Project.fileNames, hsketch, hdocs, or_assoc]

/-- There are three files exactly if both passes that make files are complete. -/
theorem Accounts.length_files_iff (h : Accounts p completed made) :
    made.files.length = 3 ↔ .emitSketch ∈ completed ∧ .renderDocs ∈ completed := by
  constructor
  · intro hlength
    have hbound : ∀ names : List String, (∀ name ∈ made.files.map Prod.fst, name ∈ names) →
        3 ≤ names.length := by
      intro names hnames
      have hle := (List.subperm_of_subset h.nodup hnames).length_le
      rwa [List.length_map, hlength] at hle
    by_contra hmissing
    rw [not_and_or] at hmissing
    rcases hmissing with hsketch | hdocs
    · have hle := hbound [Project.readmeName] fun name hname => by
        have hnamed := (h.files name).1 hname
        simp only [hsketch, and_false, false_or] at hnamed
        simpa using hnamed.1
      simp at hle
    · have hle := hbound [p.sketchName, Project.headerName] fun name hname => by
        have hnamed := (h.files name).1 hname
        simp only [hdocs, and_false, or_false] at hnamed
        simpa using hnamed.1
      simp at hle
  · rintro ⟨hsketch, hdocs⟩
    have hlength := (h.perm_fileNames hsketch hdocs).length_eq
    rwa [List.length_map] at hlength

/-! ### Products that a pass leaves alone -/

theorem Advances.artifact_eq (h : Advances p pass before behind) (hpass : pass ≠ .assemble) :
    behind.made.artifact = before.made.artifact := by
  cases h with
  | assemble => exact absurd rfl hpass
  | _ => rfl

theorem Leaves.artifact_eq (h : Leaves p made left) : left.artifact = made.artifact := by
  rcases h with rfl | ⟨sketch, rfl⟩
  · rfl
  · rfl

theorem Leaves.mem_fileNames (h : Leaves p made left)
    (hmade : ∀ name ∈ made.files.map Prod.fst, name ∈ p.fileNames) :
    ∀ name ∈ left.files.map Prod.fst, name ∈ p.fileNames := by
  rcases h with rfl | ⟨sketch, rfl⟩
  · exact hmade
  · intro name hname
    rcases mem_keys_put.1 hname with rfl | hold
    · exact List.mem_cons_self
    · exact hmade name hold

end Pass

end DenseSketch
