import DenseSketch.Proofs.Workbench.Stages

/-!
# The same stage on two workbenches

Two workbenches may hold different drafts, and a stage can still come to the same result on both: it
only has to find the same in what it reads.  So relations between two drafts are followed from stage
to stage.  The plan replaces what was planned before, and the tables replace the count of their
bytes; from there on the two drafts are equal.
-/

namespace DenseSketch

namespace Job

variable {σ α β : Type} {before between after : σ → σ → Prop}

/-- From related states the job comes to the same result; where it is not refused, it leaves related
    states as well. -/
def Agrees (before after : σ → σ → Prop) (job : Job σ α) : Prop :=
  ∀ left right, before left right →
    (runOn job left).1 = (runOn job right).1 ∧
      ∀ a, (runOn job left).1 = .ok a → after (runOn job left).2 (runOn job right).2

theorem Agrees.pure (before : σ → σ → Prop) (a : α) :
    Agrees before before (Pure.pure a : Job σ α) :=
  fun _ _ hbefore => ⟨rfl, fun _ _ => hbefore⟩

theorem Agrees.throw (before after : σ → σ → Prop) (fault : Fault) :
    Agrees before after (MonadExcept.throw fault : Job σ α) :=
  fun _ _ _ => ⟨rfl, fun _ hok => by cases hok⟩

theorem Agrees.ofExcept (before : σ → σ → Prop) (result : Except Fault α) :
    Agrees before before (Job.ofExcept result : Job σ α) := by
  intro left right hbefore
  rw [runOn_ofExcept, runOn_ofExcept]
  exact ⟨rfl, fun _ _ => hbefore⟩

theorem Agrees.modify {change : σ → σ}
    (hchange : ∀ left right, before left right → after (change left) (change right)) :
    Agrees before after (modify change : Job σ PUnit) :=
  fun left right hbefore => ⟨rfl, fun _ _ => hchange left right hbefore⟩

theorem Agrees.bind {job : Job σ α} {next : α → Job σ β} (hjob : Agrees before between job)
    (hnext : ∀ a, Agrees between after (next a)) : Agrees before after (job >>= next) := by
  intro left right hbefore
  obtain ⟨hsame, hbetween⟩ := hjob left right hbefore
  rw [runOn_bind, runOn_bind]
  cases hleft : runOn job left with
  | mk result changedLeft =>
    cases hright : runOn job right with
    | mk other changedRight =>
      rw [hleft, hright] at hsame hbetween
      obtain rfl : result = other := hsame
      cases result with
      | error fault => exact ⟨rfl, fun _ hok => by cases hok⟩
      | ok a => exact hnext a changedLeft changedRight (hbetween a rfl)

end Job

namespace Draft

/-- Both drafts hold the same plan and the same pins. -/
structure SamePlan (left right : Draft) : Prop where
  steps : left.steps = right.steps
  unitDefines : left.unitDefines = right.unitDefines
  pins : left.pins = right.pins

/-- No matter what the drafts hold. -/
def Unrelated (_ _ : Draft) : Prop := True

end Draft

/-- The drafts of two workbenches are related. -/
def Workbench.Shares (related : Draft → Draft → Prop) (left right : Workbench) : Prop :=
  related left.draft right.draft

namespace Project

open Workbench Draft

variable (p : Project) (related : Draft → Draft → Prop)

theorem agrees_report (line : String) :
    Job.Agrees (Shares related) (Shares related) (Work.report p line) := by
  intro left right hrelated
  rw [Work.runOn_report, Work.runOn_report]
  cases p.verbose <;> exact ⟨rfl, fun _ _ => hrelated⟩

theorem agrees_validate : Job.Agrees (Shares related) (Shares related) p.validate :=
  .bind (.ofExcept _ _) fun _ => p.agrees_report related _

/-- Whatever has been planned before is replaced. -/
theorem agrees_buildPlan : Job.Agrees (Shares Unrelated) (Shares SamePlan) p.buildPlan := by
  intro left right _
  cases hplan : p.plan with
  | error fault =>
    rw [runOn_buildPlan_of_plan_error hplan, runOn_buildPlan_of_plan_error hplan]
    exact ⟨rfl, fun _ hok => by cases hok⟩
  | ok plan =>
    cases hpins : p.pins with
    | error fault =>
      rw [runOn_buildPlan_of_pins_error hplan hpins, runOn_buildPlan_of_pins_error hplan hpins]
      exact ⟨rfl, fun _ hok => by cases hok⟩
    | ok pins =>
      rw [runOn_buildPlan hplan hpins, runOn_buildPlan hplan hpins]
      exact ⟨rfl, fun _ _ => ⟨rfl, rfl, rfl⟩⟩

/-- With the bytes of the tables a draft is complete. -/
theorem agrees_serializeWeights : Job.Agrees (Shares SamePlan) (Shares Eq) p.serializeWeights := by
  intro left right hplan
  rw [runOn_serializeWeights, runOn_serializeWeights]
  cases p.tables with
  | error fault => exact ⟨rfl, fun _ hok => by cases hok⟩
  | ok lines =>
    refine ⟨rfl, fun _ _ => ?_⟩
    simp only [Shares, hplan.steps, hplan.unitDefines, hplan.pins]

/-- What is rendered from equal drafts is equal. -/
theorem agrees_of_renders {α : Type} {job : Work α} (render : Draft → Except Fault α)
    (hjob : ∀ bench, Job.runOn job bench = (render bench.draft, bench)) :
    Job.Agrees (Shares Eq) (Shares Eq) job := by
  intro left right hdraft
  rw [hjob, hjob, show left.draft = right.draft from hdraft]
  exact ⟨rfl, fun _ _ => hdraft⟩

theorem agrees_generateSketch : Job.Agrees (Shares Eq) (Shares Eq) p.generateSketch :=
  agrees_of_renders p.sketch p.runOn_generateSketch

theorem agrees_generateHeader (tables : String) :
    Job.Agrees (Shares Eq) (Shares Eq) (p.generateHeader tables) :=
  agrees_of_renders (p.header · tables) (p.runOn_generateHeader tables)

theorem agrees_generateReadme : Job.Agrees (Shares Eq) (Shares Eq) p.generateReadme :=
  agrees_of_renders p.readme p.runOn_generateReadme

end Project

end DenseSketch
