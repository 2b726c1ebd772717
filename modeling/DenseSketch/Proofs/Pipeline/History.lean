import DenseSketch.Proofs.Pipeline.Passes
import DenseSketch.Proofs.Sample
import DenseSketch.Proofs.Workbench.Agreement

/-!
# Compiling on a used workbench

What has been done on a workbench before does not bear on a compilation: every pass finds only what
the passes before it have left.  The drafts of two workbenches are followed through the passes until
they are equal; the contexts of the two runs are equal all the time.
-/

namespace DenseSketch

open Workbench Draft

/-! ### Passes on two workbenches -/

namespace Run

/-- Two runs with the same context and related drafts. -/
structure Shares (related : Draft → Draft → Prop) (left right : Run) : Prop where
  context : left.context = right.context
  drafts : related left.bench.draft right.bench.draft

variable {α : Type} {before after related : Draft → Draft → Prop}

theorem agrees_work {job : Work α}
    (hjob : Job.Agrees (Workbench.Shares before) (Workbench.Shares after) job) :
    Job.Agrees (Shares before) (Shares after) (work job) := by
  intro left right hbefore
  obtain ⟨hsame, hafter⟩ := hjob left.bench right.bench hbefore.drafts
  rw [runOn_work, runOn_work]
  exact ⟨hsame, fun a ha => ⟨hbefore.context, hafter a ha⟩⟩

theorem agrees_note (related : Draft → Draft → Prop) (change : Context → Context) :
    Job.Agrees (Shares related) (Shares related) (note change) :=
  .modify fun _ _ hrelated => ⟨congrArg change hrelated.context, hrelated.drafts⟩

/-- A job that looks at no more than the context of a run. -/
theorem agrees_get {next : Run → Job Run α}
    (hcontext : ∀ left right : Run, left.context = right.context → next left = next right)
    (hnext : ∀ run, Job.Agrees (Shares before) (Shares after) (next run)) :
    Job.Agrees (Shares before) (Shares after) (get >>= next) := by
  intro left right hbefore
  rw [Job.runOn_bind_of_ok (Job.runOn_get left), Job.runOn_bind_of_ok (Job.runOn_get right),
    hcontext left right hbefore.context]
  exact hnext right left right hbefore

end Run

namespace Pass

open Run

variable (p : Project)

theorem agrees_validate : Job.Agrees (Run.Shares Unrelated) (Run.Shares Unrelated)
    (Pass.validate.run p) :=
  .bind (agrees_work (p.agrees_validate _)) fun _ => agrees_note _ _

theorem agrees_buildLayerSpecs : Job.Agrees (Run.Shares Unrelated) (Run.Shares SamePlan)
    (Pass.buildLayerSpecs.run p) :=
  .bind (agrees_work p.agrees_buildPlan) fun _ => agrees_note _ _

theorem agrees_serializeWeights : Job.Agrees (Run.Shares SamePlan) (Run.Shares Eq)
    (Pass.serializeWeights.run p) :=
  .bind (agrees_work p.agrees_serializeWeights) fun _ => agrees_note _ _

theorem agrees_emitSketch :
    Job.Agrees (Run.Shares Eq) (Run.Shares Eq) (Pass.emitSketch.run p) := by
  refine .bind (agrees_work p.agrees_generateSketch) fun sketch => ?_
  refine .bind (agrees_note _ _) fun _ => agrees_get ?_ fun run => ?_
  · intro left right hcontext
    rw [hcontext]
  · -- The tables come from the context, so both runs have them or neither does.
    cases lookup? tablesKey run.context.fragments with
    | none => exact .throw _ _ _
    | some tables =>
      exact .bind (agrees_work (p.agrees_generateHeader tables)) fun _ => agrees_note _ _

theorem agrees_renderDocs : Job.Agrees (Run.Shares Eq) (Run.Shares Eq) (Pass.renderDocs.run p) :=
  .bind (agrees_work p.agrees_generateReadme) fun _ => agrees_note _ _

theorem agrees_assemble :
    Job.Agrees (Run.Shares Eq) (Run.Shares Eq) (Pass.assemble.run p) := by
  refine agrees_get ?_ fun run => .bind (.ofExcept _ _) fun _ => agrees_note _ _
  intro left right hcontext
  rw [hcontext]

variable {p} {before between after : Draft → Draft → Prop} {pass : Pass} {rest : List Pass}
  {isVerbose : Bool}

theorem agrees_print (related : Draft → Draft → Prop) (line : String) :
    Job.Agrees (Run.Shares related) (Run.Shares related) (Run.work (Work.print line)) :=
  agrees_work fun _ _ hrelated => ⟨rfl, fun _ _ => hrelated⟩

/-- One pass and the passes behind it. -/
theorem agrees_runEach_cons
    (hpass : Job.Agrees (Run.Shares before) (Run.Shares between) (pass.run p))
    (hrest : Job.Agrees (Run.Shares between) (Run.Shares after) (runEach p isVerbose rest)) :
    Job.Agrees (Run.Shares before) (Run.Shares after) (runEach p isVerbose (pass :: rest)) := by
  refine .bind hpass fun _ => .bind (agrees_note _ _) fun _ => ?_
  cases isVerbose with
  | true => exact .bind (agrees_print _ _) fun _ => hrest
  | false => exact hrest

/-- A compilation makes equal drafts of any two. -/
theorem agrees_runEach_all (p : Project) (isVerbose : Bool) :
    Job.Agrees (Run.Shares Unrelated) (Run.Shares Eq) (runEach p isVerbose all) :=
  agrees_runEach_cons (agrees_validate p) <|
  agrees_runEach_cons (agrees_buildLayerSpecs p) <|
  agrees_runEach_cons (agrees_serializeWeights p) <|
  agrees_runEach_cons (agrees_emitSketch p) <|
  agrees_runEach_cons (agrees_renderDocs p) <|
  agrees_runEach_cons (agrees_assemble p) <|
  .pure _ _

theorem agrees_runAll (p : Project) (isVerbose : Bool) :
    Job.Agrees (Run.Shares Unrelated) (Run.Shares Eq) (runAll p isVerbose all) := by
  cases isVerbose with
  | true => exact .bind (agrees_print _ _) fun _ => agrees_runEach_all p true
  | false => exact agrees_runEach_all p false

end Pass

/-! ### Compilations on two workbenches -/

namespace Project

variable (p : Project)

theorem agrees_runPasses :
    Job.Agrees (Workbench.Shares Unrelated) (Workbench.Shares Eq) p.runPasses := by
  intro left right _
  obtain ⟨hsame, hafter⟩ :=
    Pass.agrees_runAll p p.verbose { bench := left } { bench := right } ⟨rfl, trivial⟩
  rw [runPasses, Job.runOn_ofStep, Job.runOn_ofStep]
  dsimp only
  rw [← hsame]
  -- Only a run that is complete has a context to show.
  cases hresult : (Job.runOn (Pass.runAll p p.verbose Pass.all) { bench := left }).1 with
  | error fault => exact ⟨rfl, fun _ hok => by cases hok⟩
  | ok _ =>
    have hshares := hafter _ hresult
    rw [hshares.context]
    exact ⟨rfl, fun _ _ => hshares.drafts⟩

/-- What a compilation has left behind is the same on both workbenches. -/
structure SameTraces (left right : Workbench) : Prop where
  draft : left.draft = right.draft
  lastStages : left.lastStages = right.lastStages

theorem agrees_generateAll (hsnapshot : p.snapshotDirectory = "") :
    Job.Agrees (Workbench.Shares Unrelated) SameTraces p.generateAll := by
  refine .bind (p.agrees_report _ _) fun _ => .bind p.agrees_runPasses fun context => ?_
  have hreport : ∀ line, Job.Agrees SameTraces SameTraces (Work.report p line) := by
    intro line left right hsame
    rw [Work.runOn_report, Work.runOn_report]
    cases p.verbose <;> exact ⟨rfl, fun _ _ => ⟨hsame.draft, hsame.lastStages⟩⟩
  have hnoted : Job.Agrees (Workbench.Shares Eq) SameTraces
      (modify fun bench : Workbench => { bench with lastStages := some context.stageOrder }) :=
    .modify fun _ _ hdraft => ⟨hdraft, rfl⟩
  refine .bind hnoted fun _ => ?_
  simp only [hsnapshot, ne_eq, not_true_eq_false, if_false]
  cases context.artifact with
  | none => exact .throw _ _ _
  | some artifact => exact .bind (hreport _) fun _ => .pure _ _

/-! ### Histories -/

/-- What can be called on the workbench of a project. -/
inductive Call where
  | validate
  | buildPlan
  | serializeWeights
  | generateSketch
  | generateHeader (tables : String)
  | generateReadme
  | generateAll
  | writeAll (directory : Document)

/-- The workbench that a call leaves, whether it is refused or not. -/
def afterCall (bench : Workbench) : Call → Workbench
  | .validate => (Job.runOn p.validate bench).2
  | .buildPlan => (Job.runOn p.buildPlan bench).2
  | .serializeWeights => (Job.runOn p.serializeWeights bench).2
  | .generateSketch => (Job.runOn p.generateSketch bench).2
  | .generateHeader tables => (Job.runOn (p.generateHeader tables) bench).2
  | .generateReadme => (Job.runOn p.generateReadme bench).2
  | .generateAll => (Job.runOn p.generateAll bench).2
  | .writeAll directory => (Job.runOn (p.writeAll directory) bench).2

/-- The workbench behind a history of calls. -/
def afterCalls (bench : Workbench) (calls : List Call) : Workbench :=
  calls.foldl p.afterCall bench

/-- A compilation does not depend on what was called before: it yields the same artifact as on a
    fresh workbench, or is refused for the same fault, and an artifact leaves the same draft and the
    same stages behind. -/
theorem generateAll_afterCalls {p : Project} (hsnapshot : p.snapshotDirectory = "")
    (calls : List Call) (tree other : Tree) :
    let used := p.afterCalls { tree := tree } calls
    let fresh : Workbench := { tree := other }
    (Job.runOn p.generateAll used).1 = (Job.runOn p.generateAll fresh).1 ∧
    ∀ artifact, (Job.runOn p.generateAll used).1 = .ok artifact →
      (Job.runOn p.generateAll used).2.draft = (Job.runOn p.generateAll fresh).2.draft ∧
      (Job.runOn p.generateAll used).2.lastStages =
        (Job.runOn p.generateAll fresh).2.lastStages := by
  intro used fresh
  -- Whatever the calls have left of a draft, the passes ask for nothing in it.
  obtain ⟨hsame, htraces⟩ := p.agrees_generateAll hsnapshot used fresh trivial
  exact ⟨hsame, fun artifact hok => ⟨(htraces artifact hok).draft, (htraces artifact hok).lastStages⟩⟩

/-- A header around other tables, a plan and a refused attempt to write come before. -/
theorem generateAll_afterCalls_sample :
    sample.snapshotDirectory = "" ∧
    let used := sample.afterCalls {}
      [.generateHeader "none", .buildPlan, .writeAll .null, .generateReadme]
    let fresh : Workbench := {}
    (Job.runOn sample.generateAll used).1 = (Job.runOn sample.generateAll fresh).1 ∧
    ∀ artifact, (Job.runOn sample.generateAll used).1 = .ok artifact →
      (Job.runOn sample.generateAll used).2.draft =
        (Job.runOn sample.generateAll fresh).2.draft ∧
      (Job.runOn sample.generateAll used).2.lastStages =
        (Job.runOn sample.generateAll fresh).2.lastStages :=
  ⟨rfl, generateAll_afterCalls (p := sample) rfl _ {} {}⟩

end Project

end DenseSketch
