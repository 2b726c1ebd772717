import DenseSketch.Proofs.Network.Chain
import DenseSketch.Proofs.Pipeline.History
import DenseSketch.Proofs.Workbench.Refusals

/-!
# The fields of the plan

The files are rendered from three fields of a draft that belong together: the steps, the defined
units and the pins.  One stage sets them, the pins after the other two; a compilation runs this stage
behind the checks, which ask for the pins as well, and everything else leaves the three fields alone.
So they come from one complete run of the stage in every history, unless the stage is called on its
own and only the pins are refused.
-/

namespace DenseSketch

/-! ### Kept or complete -/

namespace Job

variable {σ τ α β : Type} {view : σ → τ} {goal : τ → Prop} {job : Job σ α} {next : α → Job σ β}

/-- Whatever the job comes to, what is seen of the state stays as it was or meets the goal. -/
def KeepsOrMeets (view : σ → τ) (goal : τ → Prop) (job : Job σ α) : Prop :=
  ∀ state, view (runOn job state).2 = view state ∨ goal (view (runOn job state).2)

theorem Keeps.orMeets (hjob : Keeps view job) (goal : τ → Prop) : KeepsOrMeets view goal job :=
  fun state => .inl (hjob state)

theorem KeepsOrMeets.bind (hjob : KeepsOrMeets view goal job)
    (hnext : ∀ a, KeepsOrMeets view goal (next a)) : KeepsOrMeets view goal (job >>= next) := by
  intro state
  have hfirst := hjob state
  rcases runOn_bind_cases job next state with
    ⟨fault, changed, hrun, hbind⟩ | ⟨a, changed, hrun, hbind⟩
  · rw [hrun] at hfirst
    rw [hbind]
    exact hfirst
  · rw [hrun] at hfirst
    rw [hbind]
    rcases hnext a changed with hkept | hmet
    · rw [hkept]
      exact hfirst
    · exact .inr hmet

end Job

/-- The fields that belong together: the steps, the defined units and the pins. -/
abbrev PlanFields := List Step × List (String × Nat) × List Document

/-- The fields of the plan on a workbench. -/
def Workbench.planFields (bench : Workbench) : PlanFields :=
  (bench.draft.steps, bench.draft.unitDefines, bench.draft.pins)

open Workbench

namespace Work

theorem keepsPlan_print (line : String) : Job.Keeps planFields (print line) := fun _ => rfl

theorem keepsPlan_report (p : Project) (line : String) :
    Job.Keeps planFields (report p line) := by
  intro bench
  rw [runOn_report]
  cases p.verbose <;> rfl

theorem keepsPlan_onTree {α : Type} (step : Tree → Tree × Except Fault α) :
    Job.Keeps planFields (onTree step) :=
  fun _ => rfl

end Work

/-! ### Stages -/

namespace Project

variable (p : Project)

/-- The fields are those that one complete run of the stage for the plan has left. -/
def IsBuilt (fields : PlanFields) : Prop :=
  ∃ bench steps built, Job.runOn p.buildPlan bench = (.ok steps, built) ∧ fields = built.planFields

theorem isBuilt_iff {p : Project} {fields : PlanFields} :
    p.IsBuilt fields ↔
      ∃ plan pins, p.plan = .ok plan ∧ p.pins = .ok pins ∧
        fields = (plan.steps, plan.unitDefines, pins) := by
  constructor
  · rintro ⟨bench, steps, built, hbuild, rfl⟩
    obtain ⟨plan, pins, hplan, hpins, -, rfl⟩ := exists_of_runOn_buildPlan hbuild
    exact ⟨plan, pins, hplan, hpins, rfl⟩
  · rintro ⟨plan, pins, hplan, hpins, rfl⟩
    exact ⟨{}, plan.steps, _, runOn_buildPlan hplan hpins {}, rfl⟩

/-- There is a plan, but its outputs have no pins. -/
def OnlyPinsRefused : Prop := ∃ plan fault, p.plan = .ok plan ∧ p.pins = .error fault

theorem keepsPlan_validate : Job.Keeps planFields p.validate :=
  .bind (.ofExcept _) fun _ => Work.keepsPlan_report p _

theorem keepsPlan_serializeWeights : Job.Keeps planFields p.serializeWeights :=
  .bind (.ofExcept _) fun _ => .bind (.modify fun _ => rfl) fun _ => .pure _

/-- Unless only the pins are refused, the stage sets all three fields or none. -/
theorem keepsOrBuilds_buildPlan (hpins : ¬ p.OnlyPinsRefused) :
    Job.KeepsOrMeets planFields p.IsBuilt p.buildPlan := by
  intro bench
  cases hplan : p.plan with
  | error fault =>
    rw [runOn_buildPlan_of_plan_error hplan]
    exact .inl rfl
  | ok plan =>
    cases hfound : p.pins with
    | error fault => exact absurd ⟨plan, fault, hplan, hfound⟩ hpins
    | ok pins =>
      rw [runOn_buildPlan hplan hfound]
      exact .inr (isBuilt_iff.2 ⟨plan, pins, hplan, hfound, rfl⟩)

theorem keepsPlan_exportSnapshot : Job.Keeps planFields p.exportSnapshot :=
  .bind (Work.keepsPlan_onTree _) fun _ =>
  .bind (.modify fun _ => rfl) fun _ => Work.keepsPlan_report p _

end Project

/-! ### Passes -/

namespace Run

variable {α : Type}

/-- The fields of the plan on the workbench of a run. -/
def planFields (run : Run) : PlanFields := run.bench.planFields

theorem keepsOrMeets_work {job : Work α} {goal : PlanFields → Prop}
    (hjob : Job.KeepsOrMeets Workbench.planFields goal job) :
    Job.KeepsOrMeets planFields goal (work job) := by
  intro run
  rw [runOn_work]
  exact hjob run.bench

theorem keepsPlan_work {job : Work α} (hjob : Job.Keeps Workbench.planFields job) :
    Job.Keeps planFields (work job) := by
  intro run
  rw [runOn_work]
  exact hjob run.bench

theorem keepsPlan_note (change : Context → Context) : Job.Keeps planFields (note change) :=
  fun _ => rfl

end Run

namespace Pass

open Run

variable (p : Project)

theorem keepsOrBuilds_run (hpins : ¬ p.OnlyPinsRefused) (pass : Pass) :
    Job.KeepsOrMeets Run.planFields p.IsBuilt (pass.run p) := by
  have hnote : ∀ change, Job.KeepsOrMeets Run.planFields p.IsBuilt (note change) :=
    fun change => (keepsPlan_note change).orMeets _
  cases pass with
  | buildLayerSpecs =>
    exact .bind (keepsOrMeets_work (p.keepsOrBuilds_buildPlan hpins)) fun _ => hnote _
  | validate => exact .bind ((keepsPlan_work p.keepsPlan_validate).orMeets _) fun _ => hnote _
  | serializeWeights =>
    exact .bind ((keepsPlan_work p.keepsPlan_serializeWeights).orMeets _) fun _ => hnote _
  | emitSketch =>
    refine .bind ((keepsPlan_work p.keeps_generateSketch).orMeets _) fun _ =>
      .bind (hnote _) fun _ => .bind (Job.Keeps.get.orMeets _) fun run => ?_
    cases lookup? tablesKey run.context.fragments with
    | none => exact (Job.Keeps.throw _).orMeets _
    | some tables =>
      exact .bind ((keepsPlan_work (p.keeps_generateHeader tables)).orMeets _) fun _ => hnote _
  | renderDocs => exact .bind ((keepsPlan_work p.keeps_generateReadme).orMeets _) fun _ => hnote _
  | assemble =>
    exact .bind (Job.Keeps.get.orMeets _) fun _ =>
      .bind ((Job.Keeps.ofExcept _).orMeets _) fun _ => hnote _

theorem keepsOrBuilds_runEach (hpins : ¬ p.OnlyPinsRefused) (isVerbose : Bool)
    (passes : List Pass) :
    Job.KeepsOrMeets Run.planFields p.IsBuilt (runEach p isVerbose passes) := by
  induction passes with
  | nil => exact (Job.Keeps.pure _).orMeets _
  | cons pass rest ih =>
    refine .bind (keepsOrBuilds_run p hpins pass) fun _ =>
      .bind ((keepsPlan_note _).orMeets _) fun _ => ?_
    cases isVerbose with
    | true => exact .bind ((keepsPlan_work (Work.keepsPlan_print _)).orMeets _) fun _ => ih
    | false => exact ih

/-- The checks come first and ask for the pins, too. -/
theorem keepsPlan_runEach_all (hpins : p.OnlyPinsRefused) (isVerbose : Bool) :
    Job.Keeps Run.planFields (runEach p isVerbose all) := by
  intro run
  obtain ⟨plan, fault, -, hrefused⟩ := hpins
  cases hcheck : p.check with
  | ok _ =>
    obtain ⟨pins, hfound⟩ := Project.pins_of_check hcheck
    cases hrefused.symm.trans hfound
  | error cause =>
    obtain ⟨after, hvalidate⟩ := runOn_validate_of_error hcheck run
    have hkept : Job.Keeps Run.planFields (Pass.validate.run p) :=
      .bind (keepsPlan_work p.keepsPlan_validate) fun _ => keepsPlan_note _
    have hafter := hkept run
    rw [hvalidate] at hafter
    rw [all, runEach_cons_of_error hvalidate]
    exact hafter

theorem keepsOrBuilds_runAll (isVerbose : Bool) :
    Job.KeepsOrMeets Run.planFields p.IsBuilt (runAll p isVerbose all) := by
  have heach : Job.KeepsOrMeets Run.planFields p.IsBuilt (runEach p isVerbose all) := by
    by_cases hpins : p.OnlyPinsRefused
    · exact (keepsPlan_runEach_all p hpins isVerbose).orMeets _
    · exact keepsOrBuilds_runEach p hpins isVerbose all
  cases isVerbose with
  | true => exact .bind ((keepsPlan_work (Work.keepsPlan_print _)).orMeets _) fun _ => heach
  | false => exact heach

end Pass

/-! ### Calls -/

namespace Project

variable (p : Project)

theorem keepsOrBuilds_runPasses : Job.KeepsOrMeets planFields p.IsBuilt p.runPasses := by
  intro bench
  rw [runPasses, Job.runOn_ofStep]
  exact Pass.keepsOrBuilds_runAll p p.verbose { bench := bench }

theorem keepsPlan_announced (artifact : Option Artifact) :
    Job.Keeps planFields (p.announced artifact) := by
  cases artifact with
  | none => exact .throw _
  | some artifact => exact .bind (Work.keepsPlan_report p _) fun _ => .pure _

theorem keepsOrBuilds_generateAll : Job.KeepsOrMeets planFields p.IsBuilt p.generateAll := by
  refine .bind ((Work.keepsPlan_report p _).orMeets _) fun _ =>
    .bind p.keepsOrBuilds_runPasses fun context => Job.Keeps.orMeets ?_ _
  -- From here on the draft is not touched any more.
  refine .bind (.modify fun _ => rfl) fun _ => ?_
  by_cases hsnapshot : p.snapshotDirectory ≠ ""
  · rw [if_pos hsnapshot]
    exact .bind p.keepsPlan_exportSnapshot fun _ => p.keepsPlan_announced context.artifact
  · rw [if_neg hsnapshot]
    exact p.keepsPlan_announced context.artifact

theorem keepsOrBuilds_writeAll (directory : Document) :
    Job.KeepsOrMeets planFields p.IsBuilt (p.writeAll directory) := by
  unfold writeAll
  split
  · exact (Job.Keeps.throw _).orMeets _
  · refine .bind p.keepsOrBuilds_generateAll fun artifact => Job.Keeps.orMeets ?_ _
    refine .bind (.ofExcept _) fun location => .bind (Work.keepsPlan_onTree _) fun paths => ?_
    exact .bind (.forM (fun _ => Work.keepsPlan_report p _) paths) fun _ => .pure _

/-- One call leaves the fields of the plan as they were or complete, whether it is refused or not;
    only the stage on its own does not where only the pins are refused. -/
theorem planFields_afterCall (bench : Workbench) (call : Call)
    (hcall : ¬ (call = .buildPlan ∧ p.OnlyPinsRefused)) :
    (p.afterCall bench call).planFields = bench.planFields ∨
      p.IsBuilt (p.afterCall bench call).planFields := by
  cases call with
  | validate => exact .inl (p.keepsPlan_validate bench)
  | buildPlan => exact p.keepsOrBuilds_buildPlan (fun hpins => hcall ⟨rfl, hpins⟩) bench
  | serializeWeights => exact .inl (p.keepsPlan_serializeWeights bench)
  | generateSketch => exact .inl (p.keeps_generateSketch bench)
  | generateHeader tables => exact .inl (p.keeps_generateHeader tables bench)
  | generateReadme => exact .inl (p.keeps_generateReadme bench)
  | generateAll => exact p.keepsOrBuilds_generateAll bench
  | writeAll directory => exact p.keepsOrBuilds_writeAll directory bench

/-! ### Histories -/

/-- The fields are the initial ones or those that one complete run of the stage has left. -/
def Settled (fields : PlanFields) : Prop := fields = ([], [], []) ∨ p.IsBuilt fields

variable {p} {plan : Plan} {fault : Fault} {calls : List Call}

theorem not_isBuilt_of_pins_error (hpins : p.pins = .error fault) (fields : PlanFields) :
    ¬ p.IsBuilt fields := by
  intro hbuilt
  obtain ⟨_, pins, -, hfound, -⟩ := isBuilt_iff.1 hbuilt
  cases hfound.symm.trans hpins

theorem planFields_afterCall_buildPlan (hplan : p.plan = .ok plan) (hpins : p.pins = .error fault)
    (bench : Workbench) :
    (p.afterCall bench .buildPlan).planFields =
      (plan.steps, plan.unitDefines, bench.draft.pins) := by
  rw [afterCall, runOn_buildPlan_of_pins_error hplan hpins]
  rfl

theorem planFields_afterCall_of_ne (hpins : p.pins = .error fault) (bench : Workbench)
    {call : Call} (hcall : call ≠ .buildPlan) :
    (p.afterCall bench call).planFields = bench.planFields :=
  (p.planFields_afterCall bench call fun h => hcall h.1).resolve_right
    (not_isBuilt_of_pins_error hpins _)

theorem settled_afterCalls (hcalls : ¬ (.buildPlan ∈ calls ∧ p.OnlyPinsRefused))
    {bench : Workbench} (hbench : p.Settled bench.planFields) :
    p.Settled (p.afterCalls bench calls).planFields := by
  induction calls generalizing bench with
  | nil => exact hbench
  | cons call calls ih =>
    refine ih (fun h => hcalls ⟨List.mem_cons_of_mem _ h.1, h.2⟩) ?_
    have hcall : ¬ (call = .buildPlan ∧ p.OnlyPinsRefused) := by
      rintro ⟨rfl, hpins⟩
      exact hcalls ⟨List.mem_cons_self, hpins⟩
    rcases p.planFields_afterCall bench call hcall with hkept | hbuilt
    · rw [hkept]
      exact hbench
    · exact .inr hbuilt

/-- Where only the pins are refused, nothing but the stage on its own changes the three fields, and
    what it has changed stays. -/
theorem planFields_afterCalls_of_pins_error (hplan : p.plan = .ok plan)
    (hpins : p.pins = .error fault) (calls : List Call) (bench : Workbench) :
    (.buildPlan ∉ calls → (p.afterCalls bench calls).planFields = bench.planFields) ∧
    (.buildPlan ∈ calls →
      (p.afterCalls bench calls).planFields =
        (plan.steps, plan.unitDefines, bench.draft.pins)) := by
  induction calls generalizing bench with
  | nil => exact ⟨fun _ => rfl, nofun⟩
  | cons call calls ih =>
    obtain ⟨hnever, hcalled⟩ := ih (p.afterCall bench call)
    by_cases hcall : call = .buildPlan
    · subst hcall
      have hhere := planFields_afterCall_buildPlan hplan hpins bench
      refine ⟨fun h => absurd List.mem_cons_self h, fun _ => ?_⟩
      by_cases hrest : .buildPlan ∈ calls
      · -- The stage is called once more; the pins are still those of the start.
        have hsame : (p.afterCall bench .buildPlan).draft.pins = bench.draft.pins :=
          congrArg (·.2.2) hhere
        rw [← hsame]
        exact hcalled hrest
      · exact (hnever hrest).trans hhere
    · have hkept := planFields_afterCall_of_ne hpins bench hcall
      have hsame : (p.afterCall bench call).draft.pins = bench.draft.pins := congrArg (·.2.2) hkept
      refine ⟨fun h => ?_, fun h => ?_⟩
      · exact (hnever fun hrest => h (List.mem_cons_of_mem _ hrest)).trans hkept
      · rw [← hsame]
        exact hcalled ((List.mem_cons.1 h).resolve_left (Ne.symm hcall))

/-- **When the fields of the plan change together.**  Behind any history on a fresh workbench, with
    refused calls among the others, the steps, the defined units and the pins are the initial ones or
    those that one complete run of the stage for the plan has left, exactly unless this stage has been
    called on its own where only the pins are refused; then the plan stands there without its pins.
    No other call leaves the three fields changed in part, whatever they were before. -/
theorem settled_afterCalls_iff (p : Project) (calls : List Call) (tree : Tree) :
    (p.Settled (p.afterCalls { tree := tree } calls).planFields ↔
      ¬ (.buildPlan ∈ calls ∧ p.OnlyPinsRefused)) ∧
    (∀ plan fault, p.plan = .ok plan → p.pins = .error fault → .buildPlan ∈ calls →
      (p.afterCalls { tree := tree } calls).planFields = (plan.steps, plan.unitDefines, [])) ∧
    ∀ bench call, ¬ (call = .buildPlan ∧ p.OnlyPinsRefused) →
      (p.afterCall bench call).planFields = bench.planFields ∨
        p.IsBuilt (p.afterCall bench call).planFields := by
  refine ⟨⟨?_, fun hcalls => settled_afterCalls hcalls (.inl rfl)⟩, ?_, p.planFields_afterCall⟩
  · rintro hsettled ⟨hcalled, plan, fault, hplan, hpins⟩
    have hhalf := (planFields_afterCalls_of_pins_error hplan hpins calls { tree := tree }).2 hcalled
    rw [hhalf] at hsettled
    rcases hsettled with hinitial | hbuilt
    · exact p.steps_ne_nil hplan (congrArg (·.1) hinitial)
    · exact not_isBuilt_of_pins_error hpins _ hbuilt
  · intro plan fault hplan hpins hcalled
    exact (planFields_afterCalls_of_pins_error hplan hpins calls { tree := tree }).2 hcalled

end Project

/-! ### A plan without its pins -/

/-- One layer with thirteen outputs. -/
def Network.wide : Network where
  layers := [
    { name := .text "output"
      inputs := 5
      outputs := 13
      weights := List.replicate 65 (.finite false 1 (-1))
      bias := none
      inputs_pos := Nat.succ_pos 4
      outputs_pos := Nat.succ_pos 12
      weights_length := rfl
      bias_length := by simp }]
  layers_ne_nil := by simp

/-- A regressor with thirteen outputs for a board with twelve pins. -/
def Project.crowded : Project :=
  { Project.regressor with
    network := .wide
    metadata :=
      ⟨["a", "b", "c", "d", "e", "f", "g", "h", "i", "j", "k", "l", "m"], 5, .regression,
        Nat.succ_pos 4⟩ }

/-- The project can be made, the stage for the plan is refused for the pins, and the steps stay. -/
theorem Project.not_settled_crowded :
    create .wide crowded.metadata { sensorName := .text "color" } = .ok crowded ∧
    (Job.runOn crowded.buildPlan {}).1 =
      .error (.board (.pins "nano33ble" "12" "13")) ∧
    (Job.runOn crowded.buildPlan {}).2.planFields ≠ ([], [], []) ∧
    ¬ crowded.Settled (crowded.afterCalls {} [.buildPlan]).planFields := by
  have hpins : crowded.pins = .error (.board (.pins "nano33ble" "12" "13")) := rfl
  have hfields : (Job.runOn crowded.buildPlan {}).2.planFields ≠ ([], [], []) :=
    fun h => List.cons_ne_nil _ _ (congrArg (·.1) h)
  refine ⟨rfl, rfl, hfields, ?_⟩
  rintro (hinitial | hbuilt)
  · exact hfields hinitial
  · exact not_isBuilt_of_pins_error hpins _ hbuilt

end DenseSketch
