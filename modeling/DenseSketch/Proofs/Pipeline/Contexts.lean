import DenseSketch.Proofs.Pipeline.Steps
import Mathlib.Data.List.Induction

/-!
# Passes in any order

Whatever passes are run in whatever order, on a fresh context, the context tells at the end, and
where a pass is refused, which of them are complete; it has no files but those of the project, and
it has an artifact exactly if one has been assembled, for which the sketch and the description have
to be there.  The passes and the context are those of SPEC_FULL, section 9.3.
-/

namespace DenseSketch

open Pass

namespace Pass

variable {p : Project} {isVerbose : Bool} {bench : Workbench} {completed later : List Pass}
  {pass : Pass} {run next : Run}

/-! ### Runs of several passes -/

theorem runEach_append (p : Project) (isVerbose : Bool) (first rest : List Pass) :
    runEach p isVerbose (first ++ rest) =
      runEach p isVerbose first >>= fun _ => runEach p isVerbose rest := by
  induction first with
  | nil => rfl
  | cons pass first ih =>
    rw [List.cons_append, runEach, ih, runEach]
    cases isVerbose with
    | true => simp only [bind_assoc, if_true]
    | false => simp only [bind_assoc]; rfl

theorem runAll_append (p : Project) (isVerbose : Bool) (first rest : List Pass) :
    runAll p isVerbose (first ++ rest) =
      runAll p isVerbose first >>= fun _ => runEach p isVerbose rest := by
  unfold runAll
  rw [runEach_append]
  cases isVerbose with
  | true => simp only [bind_assoc, if_true]
  | false => rfl

/-- On a fresh context these passes are all complete, one after the other, and leave this run. -/
def Reaches (p : Project) (isVerbose : Bool) (bench : Workbench) (completed : List Pass)
    (run : Run) : Prop :=
  Job.runOn (runAll p isVerbose completed) { bench := bench } = (.ok (), run)

/-- How a list of passes ends: some are complete, and the first one of the rest, if there is a rest,
    is refused. -/
inductive Ends (p : Project) (isVerbose : Bool) (bench : Workbench) :
    List Pass → List Pass → Except Fault Unit × Run → Prop
  | complete {completed : List Pass} {run : Run} (h : Reaches p isVerbose bench completed run) :
    Ends p isVerbose bench completed [] (.ok (), run)
  | refused {completed rest : List Pass} {run : Run} (pass : Pass) (between : Run) (fault : Fault)
    (h : Reaches p isVerbose bench completed between)
    (hpass : Job.runOn (pass.run p) between = (.error fault, run)) :
    Ends p isVerbose bench completed (pass :: rest) (.error fault, run)

theorem reaches_nil (p : Project) (isVerbose : Bool) (bench : Workbench) :
    ∃ run, Reaches p isVerbose bench [] run ∧ run.context = {} := by
  cases isVerbose with
  | true => exact ⟨_, rfl, rfl⟩
  | false => exact ⟨_, rfl, rfl⟩

/-- A pass that is complete is recorded in both places. -/
theorem runEach_singleton_of_ok {after : Run}
    (hpass : Job.runOn (pass.run p) run = (.ok (), after)) (isVerbose : Bool) :
    ∃ next, Job.runOn (runEach p isVerbose [pass]) run = (.ok (), next) ∧
      next.progress = after.progress ∧
      next.recorded =
        (after.recorded.1 ++ [pass.name], after.recorded.2 ++ [pass.name]) := by
  rw [runEach, Job.runOn_bind_of_ok hpass]
  cases isVerbose with
  | true => exact ⟨_, rfl, rfl, rfl⟩
  | false => exact ⟨_, rfl, rfl, rfl⟩

/-- Whatever the next pass comes to, it is the end of the list with this pass behind. -/
theorem Reaches.runOn_concat (h : Reaches p isVerbose bench completed run) (pass : Pass) :
    Job.runOn (runAll p isVerbose (completed ++ [pass])) { bench := bench } =
      Job.runOn (runEach p isVerbose [pass]) run := by
  rw [runAll_append]
  exact Job.runOn_bind_of_ok h _

theorem Reaches.exists_of_append (h : Reaches p isVerbose bench (completed ++ later) next) :
    ∃ run, Reaches p isVerbose bench completed run ∧
      Job.runOn (runEach p isVerbose later) run = (.ok (), next) := by
  rw [Reaches, runAll_append] at h
  rcases Job.runOn_bind_cases (runAll p isVerbose completed) _ _ with
    ⟨fault, run, -, hbind⟩ | ⟨_, run, hrun, hbind⟩
  · rw [hbind] at h
    cases h
  · exact ⟨run, hrun, hbind.symm.trans h⟩

theorem Reaches.exists_of_concat (h : Reaches p isVerbose bench (completed ++ [pass]) next) :
    ∃ run, Reaches p isVerbose bench completed run ∧
      Advances p pass run.progress next.progress ∧
      next.recorded =
        (run.recorded.1 ++ [pass.name], run.recorded.2 ++ [pass.name]) := by
  obtain ⟨run, hrun, hnext⟩ := h.exists_of_append
  rcases run_cases p pass run with ⟨after, hpass, hadvance⟩ | ⟨fault, after, hpass, -, -⟩
  · obtain ⟨other, hother, hprogress, hrecorded⟩ := runEach_singleton_of_ok hpass isVerbose
    rw [hnext] at hother
    cases hother
    have hkept := keepsRecorded_run p pass run
    rw [hpass] at hkept
    rw [hkept] at hrecorded
    rw [← hprogress] at hadvance
    exact ⟨run, hrun, hadvance, hrecorded⟩
  · rw [runEach_cons_of_error hpass] at hnext
    cases hnext

/-- The complete passes of a list are those in front of the first one that is refused. -/
theorem exists_ends (p : Project) (isVerbose : Bool) (bench : Workbench) (passes : List Pass) :
    ∃ completed rest, passes = completed ++ rest ∧
      Ends p isVerbose bench completed rest
        (Job.runOn (runAll p isVerbose passes) { bench := bench }) := by
  induction passes using List.reverseRecOn with
  | nil =>
    obtain ⟨run, hrun, -⟩ := reaches_nil p isVerbose bench
    exact ⟨[], [], rfl, hrun ▸ .complete hrun⟩
  | append_singleton passes pass ih =>
    obtain ⟨completed, rest, rfl, hends⟩ := ih
    generalize houtcome : Job.runOn (runAll p isVerbose (completed ++ rest)) { bench := bench } =
      outcome at hends
    cases hends with
    | complete hrun =>
      rw [List.append_nil, hrun.runOn_concat]
      rcases run_cases p pass _ with ⟨after, hpass, -⟩ | ⟨fault, after, hpass, -, -⟩
      · obtain ⟨next, hnext, -, -⟩ := runEach_singleton_of_ok hpass isVerbose
        refine ⟨completed ++ [pass], [], (List.append_nil _).symm, ?_⟩
        rw [hnext]
        exact .complete ((hrun.runOn_concat pass).trans hnext)
      · refine ⟨completed, [pass], rfl, ?_⟩
        rw [runEach_cons_of_error hpass]
        exact .refused _ _ _ hrun hpass
    | refused _ _ _ hrun hpass =>
      -- Nothing is run behind the pass that is refused, so one more pass does not matter.
      refine ⟨completed, _, List.append_assoc .., ?_⟩
      rw [runAll_append, Job.runOn_bind_of_error houtcome]
      exact .refused _ _ _ hrun hpass

/-! ### What the context tells -/

theorem Reaches.accounts (h : Reaches p isVerbose bench completed run) :
    Accounts p completed run.products ∧
      run.recorded = (completed.map Pass.name, completed.map Pass.name) := by
  induction completed using List.reverseRecOn generalizing run with
  | nil =>
    obtain ⟨start, hstart, hcontext⟩ := reaches_nil p isVerbose bench
    cases hstart.symm.trans h
    rw [Run.products, Run.recorded, hcontext]
    exact ⟨accounts_nil p, rfl⟩
  | append_singleton completed pass ih =>
    obtain ⟨between, hbetween, hadvance, hrecorded⟩ := h.exists_of_concat
    obtain ⟨haccounts, hnames⟩ := ih hbetween
    rw [hrecorded, hnames, List.map_append]
    exact ⟨haccounts.advance hadvance, rfl⟩

/-- Passes that assemble nothing leave the artifact alone. -/
theorem Reaches.exists_artifact_eq (h : Reaches p isVerbose bench (completed ++ later) next)
    (hlater : .assemble ∉ later) :
    ∃ run, Reaches p isVerbose bench completed run ∧
      next.context.artifact = run.context.artifact := by
  induction later using List.reverseRecOn generalizing next with
  | nil =>
    rw [List.append_nil] at h
    exact ⟨next, h, rfl⟩
  | append_singleton later pass ih =>
    rw [List.mem_append, List.mem_singleton, not_or] at hlater
    obtain ⟨hlater, hpass⟩ := hlater
    rw [← List.append_assoc] at h
    obtain ⟨between, hbetween, hadvance, -⟩ := h.exists_of_concat
    obtain ⟨run, hrun, hsame⟩ := ih hbetween hlater
    refine ⟨run, hrun, ?_⟩
    rw [← hsame]
    exact hadvance.artifact_eq (Ne.symm hpass)

/-- The context tells which passes are complete, has files of the project only, and has an artifact
    exactly if one has been assembled. -/
structure Tells (p : Project) (completed : List Pass) (c : Context) : Prop where
  stageOrder : c.stageOrder = completed.map Pass.name
  stages : c.diagnostics.stages = completed.map Pass.name
  files : ∀ name ∈ c.files.map Prod.fst, name ∈ p.fileNames
  artifact : c.artifact.isSome ↔ .assemble ∈ completed

/-- The artifact has the three files of the project, with the tables of an earlier pass as they are
    in the header. -/
structure IsMadeOf (p : Project) (completed : List Pass) (artifact : Artifact) : Prop where
  names : artifact.names.Perm p.fileNames
  header : ∃ front tables back, p.Renders tables ∧
    artifact.text Project.headerName = .ok (front ++ tables ++ back)
  emitted : [.serializeWeights, .emitSketch].Sublist completed
  described : .renderDocs ∈ completed

theorem Reaches.tells (h : Reaches p isVerbose bench completed run) :
    Tells p completed run.context := by
  obtain ⟨haccounts, hnames⟩ := h.accounts
  constructor
  case stageOrder => exact congrArg Prod.fst hnames
  case stages => exact congrArg Prod.snd hnames
  case files => exact haccounts.mem_fileNames
  case artifact => exact haccounts.artifact

/-- A pass that is refused leaves a context that still tells of the passes before it. -/
theorem Tells.refused {fault : Fault} (h : Tells p completed run.context)
    (hpass : Job.runOn (pass.run p) run = (.error fault, next)) :
    Tells p completed next.context := by
  have hrecorded := keepsRecorded_run p pass run
  rcases run_cases p pass run with ⟨after, hok, -⟩ | ⟨_, after, hrefused, hleaves, -⟩
  · rw [hpass] at hok
    cases hok
  · rw [hpass] at hrefused hrecorded
    cases hrefused
    have hartifact : next.context.artifact = run.context.artifact := hleaves.artifact_eq
    constructor
    case stageOrder => exact (congrArg Prod.fst hrecorded).trans h.stageOrder
    case stages => exact (congrArg Prod.snd hrecorded).trans h.stages
    case files => exact hleaves.mem_fileNames h.files
    case artifact => rw [hartifact, h.artifact]

theorem Accounts.isMadeOf {before behind : Run.Progress} (h : Accounts p completed before.made)
    (hadvance : Advances p .assemble before behind) :
    ∃ artifact, behind.made.artifact = some artifact ∧ IsMadeOf p completed artifact := by
  cases hadvance with
  | assemble artifact hcreate =>
    obtain ⟨hlength, hfiles⟩ := Artifact.create_eq_ok.1 hcreate
    obtain ⟨hsketch, hdocs⟩ := h.length_files_iff.1 hlength
    have hheader : Project.headerName ∈ before.made.files.map Prod.fst :=
      (h.files _).2 (.inl ⟨.inr rfl, hsketch⟩)
    obtain ⟨text, htext⟩ := exists_lookup?_of_mem_keys hheader
    obtain ⟨front, tables, back, rfl, hrenders⟩ := h.header text htext
    refine ⟨artifact, rfl, ?_⟩
    constructor
    case names =>
      rw [Artifact.names, hfiles]
      exact h.perm_fileNames hsketch hdocs
    case header =>
      refine ⟨front, tables, back, hrenders, ?_⟩
      rw [Artifact.text, hfiles, htext]
    case emitted => exact h.sketch hsketch
    case described => exact hdocs

theorem Reaches.exists_isMadeOf (h : Reaches p isVerbose bench (completed ++ [.assemble]) run) :
    ∃ artifact, run.context.artifact = some artifact ∧ IsMadeOf p completed artifact := by
  obtain ⟨between, hbetween, hadvance, -⟩ := h.exists_of_concat
  exact hbetween.accounts.1.isMadeOf hadvance

/-! ### Where a list of passes ends -/

variable {rest : List Pass} {outcome : Except Fault Unit × Run}

theorem Ends.tells (h : Ends p isVerbose bench completed rest outcome) :
    Tells p completed outcome.2.context := by
  cases h with
  | complete h => exact h.tells
  | refused _ _ _ h hpass => exact h.tells.refused hpass

theorem Ends.exists_reaches (h : Ends p isVerbose bench completed rest outcome) :
    ∃ run, Reaches p isVerbose bench completed run ∧
      outcome.2.context.artifact = run.context.artifact := by
  cases h with
  | complete h => exact ⟨_, h, rfl⟩
  | refused pass between fault h hpass =>
    refine ⟨between, h, ?_⟩
    rcases run_cases p pass between with ⟨after, hok, -⟩ | ⟨_, after, hrefused, hleaves, -⟩
    · rw [hpass] at hok
      cases hok
    · rw [hpass] at hrefused
      cases hrefused
      exact hleaves.artifact_eq

/-- Assembling is refused only where a file is missing. -/
theorem Ends.not_both (h : Ends p isVerbose bench completed (.assemble :: rest) outcome) :
    ¬ (.emitSketch ∈ completed ∧ .renderDocs ∈ completed) := by
  cases h with
  | refused _ between fault h hpass =>
    intro hboth
    have hlength := h.accounts.1.length_files_iff.2 hboth
    rcases run_cases p .assemble between with ⟨after, hok, -⟩ | ⟨_, after, -, -, hcreate⟩
    · rw [hpass] at hok
      cases hok
    · have hfrozen := hcreate rfl
      rw [Artifact.create, dif_pos hlength] at hfrozen
      cases hfrozen

/-- **Passes in any order keep the context consistent.**  Some of the passes are complete and the
    next one, if there is one, is refused.  The context tells which ones are complete.
    Assembling is complete exactly if a sketch and a description have been made before; its artifact
    has the three files of the project, holds the tables of an earlier pass as they are, and is
    still there at the end unless another one has been assembled. -/
theorem runAll_tells (p : Project) (isVerbose : Bool) (bench : Workbench) (passes : List Pass) :
    ∃ completed rest, passes = completed ++ rest ∧
      Ends p isVerbose bench completed rest
        (Job.runOn (runAll p isVerbose passes) { bench := bench }) ∧
      Tells p completed (Job.runOn (runAll p isVerbose passes) { bench := bench }).2.context ∧
      (∀ more, rest = .assemble :: more →
        ¬ (.emitSketch ∈ completed ∧ .renderDocs ∈ completed)) ∧
      ∀ before later, completed = before ++ .assemble :: later →
        ∃ made artifact, Reaches p isVerbose bench (before ++ [.assemble]) made ∧
          made.context.artifact = some artifact ∧ IsMadeOf p before artifact ∧
          (.assemble ∉ later →
            (Job.runOn (runAll p isVerbose passes) { bench := bench }).2.context.artifact =
              some artifact) := by
  obtain ⟨completed, rest, hpasses, hends⟩ := exists_ends p isVerbose bench passes
  refine ⟨completed, rest, hpasses, hends, hends.tells, ?_, ?_⟩
  · rintro more rfl
    exact hends.not_both
  · rintro before later rfl
    obtain ⟨last, hlast, hsame⟩ := hends.exists_reaches
    rw [List.append_cons] at hlast
    obtain ⟨made, hmade, -⟩ := hlast.exists_of_append
    obtain ⟨artifact, hartifact, hfull⟩ := hmade.exists_isMadeOf
    refine ⟨made, artifact, hmade, hartifact, hfull, ?_⟩
    intro hlater
    obtain ⟨other, hother, hkept⟩ := hlast.exists_artifact_eq hlater
    cases hmade.symm.trans hother
    rw [hsame, hkept, hartifact]

end Pass

end DenseSketch
