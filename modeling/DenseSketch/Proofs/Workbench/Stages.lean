import DenseSketch.Workbench

/-!
# Jobs on a workbench

What a job leaves and yields, and what the stages of a compilation do.
-/

/-!
## Running jobs

What a job leaves and yields, step by step.
-/

namespace DenseSketch.Job

variable {σ α β : Type}

@[simp]
theorem runOn_pure (a : α) (state : σ) : runOn (pure a) state = (.ok a, state) :=
  rfl

@[simp]
theorem runOn_throw (fault : Fault) (state : σ) :
    runOn (throw fault : Job σ α) state = (.error fault, state) :=
  rfl

@[simp]
theorem runOn_get (state : σ) : runOn (get : Job σ σ) state = (.ok state, state) :=
  rfl

@[simp]
theorem runOn_modify (change : σ → σ) (state : σ) :
    runOn (modify change : Job σ PUnit) state = (.ok ⟨⟩, change state) :=
  rfl

@[simp]
theorem runOn_ofExcept (result : Except Fault α) (state : σ) :
    runOn (ofExcept result) state = (result, state) := by
  cases result <;> rfl

@[simp]
theorem runOn_ofStep (step : σ → σ × Except Fault α) (state : σ) :
    runOn (ofStep step) state = ((step state).2, (step state).1) :=
  rfl

theorem runOn_bind (job : Job σ α) (next : α → Job σ β) (state : σ) :
    runOn (job >>= next) state =
      match runOn job state with
      | (.ok a, changed) => runOn (next a) changed
      | (.error fault, changed) => (.error fault, changed) := by
  unfold runOn ExceptT.run StateT.run Id.run
  simp only [bind, ExceptT.bind, ExceptT.mk, StateT.bind]
  cases job state with
  | mk result changed => cases result <;> rfl

theorem runOn_map (f : α → β) (job : Job σ α) (state : σ) :
    runOn (f <$> job) state = ((runOn job state).1.map f, (runOn job state).2) := by
  rw [map_eq_pure_bind, runOn_bind]
  cases runOn job state with
  | mk result changed => cases result <;> rfl

theorem runOn_bind_of_ok {job : Job σ α} {state changed : σ} {a : α}
    (hjob : runOn job state = (.ok a, changed)) (next : α → Job σ β) :
    runOn (job >>= next) state = runOn (next a) changed := by
  rw [runOn_bind, hjob]

theorem runOn_bind_of_error {job : Job σ α} {state changed : σ} {fault : Fault}
    (hjob : runOn job state = (.error fault, changed)) (next : α → Job σ β) :
    runOn (job >>= next) state = (.error fault, changed) := by
  rw [runOn_bind, hjob]

/-- A chain of two jobs ends with the first one or goes on with the second. -/
theorem runOn_bind_cases (job : Job σ α) (next : α → Job σ β) (state : σ) :
    (∃ fault changed, runOn job state = (.error fault, changed) ∧
      runOn (job >>= next) state = (.error fault, changed)) ∨
    ∃ a changed, runOn job state = (.ok a, changed) ∧
      runOn (job >>= next) state = runOn (next a) changed := by
  cases hjob : runOn job state with
  | mk result changed =>
    cases result with
    | error fault => exact .inl ⟨fault, changed, rfl, runOn_bind_of_error hjob next⟩
    | ok a => exact .inr ⟨a, changed, rfl, runOn_bind_of_ok hjob next⟩

theorem exists_of_runOn_bind_eq_ok {job : Job σ α} {next : α → Job σ β}
    {state : σ} {b : β} (h : (runOn (job >>= next) state).1 = .ok b) :
    ∃ a changed, runOn job state = (.ok a, changed) ∧ (runOn (next a) changed).1 = .ok b := by
  rcases runOn_bind_cases job next state with ⟨_, _, -, hbind⟩ | ⟨a, changed, hjob, hbind⟩
  · rw [hbind] at h
    cases h
  · exact ⟨a, changed, hjob, hbind ▸ h⟩

theorem runOn_tryCatch (job : Job σ α) (handle : Fault → Job σ α) (state : σ) :
    runOn (tryCatch job handle) state =
      match runOn job state with
      | (.ok a, changed) => (.ok a, changed)
      | (.error fault, changed) => runOn (handle fault) changed := by
  unfold runOn ExceptT.run StateT.run Id.run
  simp only [tryCatch, tryCatchThe, MonadExceptOf.tryCatch, ExceptT.tryCatch, ExceptT.mk, bind,
    StateT.bind]
  cases job state with
  | mk result changed => cases result <;> rfl

end DenseSketch.Job

/-!
## Stages of a compilation

What each stage leaves on the workbench, and what it is refused for.
-/

namespace DenseSketch

variable {p : Project} {bench built : Workbench}

@[simp]
theorem Work.runOn_print (line : String) (bench : Workbench) :
    Job.runOn (Work.print line) bench =
      (.ok (), { bench with printed := bench.printed ++ [line] }) :=
  rfl

theorem Work.runOn_report (p : Project) (line : String) (bench : Workbench) :
    Job.runOn (Work.report p line) bench =
      (.ok (),
        if p.verbose then { bench with printed := bench.printed ++ [line] } else bench) := by
  cases hverbose : p.verbose <;> simp [Work.report, hverbose]

namespace Project

/-- Validation is refused for what the checks are refused for, and changes nothing but what is
    printed. -/
theorem runOn_validate (p : Project) (bench : Workbench) :
    ∃ printed, Job.runOn p.validate bench = (p.check, { bench with printed := printed }) := by
  cases hcheck : p.check with
  | error fault =>
    exact ⟨bench.printed, Job.runOn_bind_of_error (by rw [Job.runOn_ofExcept, hcheck]) _⟩
  | ok _ =>
    have hchecked : Job.runOn (Job.ofExcept p.check) bench = (.ok (), bench) := by
      rw [Job.runOn_ofExcept, hcheck]
    rw [validate, Job.runOn_bind_of_ok hchecked, Work.runOn_report]
    cases p.verbose with
    | true => exact ⟨_, rfl⟩
    | false => exact ⟨bench.printed, rfl⟩

theorem runOn_buildPlan {plan : Plan} {pins : List Document} (hplan : p.plan = .ok plan)
    (hpins : p.pins = .ok pins) (bench : Workbench) :
    Job.runOn p.buildPlan bench =
      (.ok plan.steps,
        { bench with
          draft :=
            { bench.draft with
              steps := plan.steps, unitDefines := plan.unitDefines, pins := pins } }) := by
  simp [buildPlan, Job.runOn_bind, Job.runOn_map, Except.map, hplan, hpins]

theorem runOn_buildPlan_of_plan_error {fault : Fault} (hplan : p.plan = .error fault)
    (bench : Workbench) : Job.runOn p.buildPlan bench = (.error fault, bench) := by
  rw [buildPlan, Job.runOn_bind_of_error]
  rw [Job.runOn_ofExcept, hplan]

/-- Where only the pins are refused, the plan stays in the draft. -/
theorem runOn_buildPlan_of_pins_error {plan : Plan} {fault : Fault} (hplan : p.plan = .ok plan)
    (hpins : p.pins = .error fault) (bench : Workbench) :
    Job.runOn p.buildPlan bench =
      (.error fault,
        { bench with
          draft := { bench.draft with steps := plan.steps, unitDefines := plan.unitDefines } }) := by
  simp [buildPlan, Job.runOn_bind, hplan, hpins]

theorem runOn_serializeWeights (p : Project) (bench : Workbench) :
    Job.runOn p.serializeWeights bench =
      (p.tables.map Text.unlines,
        match p.tables with
        | .ok _ =>
          { bench with draft := { bench.draft with tableBytes := Table.sizeInBytes p.network } }
        | .error _ => bench) := by
  cases htables : p.tables <;>
    simp [serializeWeights, Job.runOn_bind, Job.runOn_map, htables, Except.map]

@[simp]
theorem runOn_generateSketch (p : Project) (bench : Workbench) :
    Job.runOn p.generateSketch bench = (p.sketch bench.draft, bench) := by
  rw [generateSketch, Job.runOn_bind_of_ok (Job.runOn_get bench), Job.runOn_ofExcept]

@[simp]
theorem runOn_generateHeader (p : Project) (tables : String) (bench : Workbench) :
    Job.runOn (p.generateHeader tables) bench = (p.header bench.draft tables, bench) := by
  rw [generateHeader, Job.runOn_bind_of_ok (Job.runOn_get bench), Job.runOn_ofExcept]

@[simp]
theorem runOn_generateReadme (p : Project) (bench : Workbench) :
    Job.runOn p.generateReadme bench = (p.readme bench.draft, bench) := by
  rw [generateReadme, Job.runOn_bind_of_ok (Job.runOn_get bench), Job.runOn_ofExcept]

/-- Where the plan has been built, both the plan and the pins have been found. -/
theorem exists_of_runOn_buildPlan {steps : List Step}
    (hbuild : Job.runOn p.buildPlan bench = (.ok steps, built)) :
    ∃ plan pins, p.plan = .ok plan ∧ p.pins = .ok pins ∧ steps = plan.steps ∧
      built =
        { bench with
          draft :=
            { bench.draft with
              steps := plan.steps, unitDefines := plan.unitDefines, pins := pins } } := by
  cases hplan : p.plan with
  | error fault => cases (runOn_buildPlan_of_plan_error hplan bench).symm.trans hbuild
  | ok plan =>
    cases hpins : p.pins with
    | error fault => cases (runOn_buildPlan_of_pins_error hplan hpins bench).symm.trans hbuild
    | ok pins =>
      rw [runOn_buildPlan hplan hpins] at hbuild
      cases hbuild
      exact ⟨plan, pins, rfl, rfl, rfl, rfl⟩

theorem exists_of_runOn_serializeWeights {after : Workbench} {tables : String}
    (h : Job.runOn p.serializeWeights bench = (.ok tables, after)) :
    ∃ lines, p.tables = .ok lines ∧ tables = Text.unlines lines ∧
      after =
        { bench with draft := { bench.draft with tableBytes := Table.sizeInBytes p.network } } := by
  rw [runOn_serializeWeights] at h
  cases htables : p.tables with
  | error fault =>
    rw [htables] at h
    cases h
  | ok lines =>
    rw [htables] at h
    cases h
    exact ⟨lines, rfl, rfl, rfl⟩

end Project

end DenseSketch
