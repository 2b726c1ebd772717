import DenseSketch.Proofs.Storage.Refusals
import DenseSketch.Proofs.Workbench.Stages

/-!
# What a refusal leaves

A job may keep what is seen of its state, whatever it comes to, or it may be refused only for faults
without a wording.  A job that does the one first and the other afterwards keeps what is seen of its
state wherever a check refuses it.
-/

namespace DenseSketch

namespace Job

variable {σ τ α β : Type} {view : σ → τ} {job : Job σ α} {next : α → Job σ β}

/-! ### Kept states -/

/-- Whatever the job comes to, what is seen of the state stays as it was. -/
def Keeps (view : σ → τ) (job : Job σ α) : Prop :=
  ∀ state, view (runOn job state).2 = view state

theorem Keeps.pure (a : α) : Keeps view (Pure.pure a : Job σ α) := fun _ => rfl

theorem Keeps.throw (fault : Fault) : Keeps view (MonadExcept.throw fault : Job σ α) :=
  fun _ => rfl

theorem Keeps.get : Keeps view (MonadState.get : Job σ σ) := fun _ => rfl

theorem Keeps.ofExcept (result : Except Fault α) : Keeps view (Job.ofExcept result : Job σ α) := by
  intro state
  rw [runOn_ofExcept]

theorem Keeps.modify {change : σ → σ} (hchange : ∀ state, view (change state) = view state) :
    Keeps view (modify change : Job σ PUnit) :=
  hchange

theorem Keeps.bind (hjob : Keeps view job) (hnext : ∀ a, Keeps view (next a)) :
    Keeps view (job >>= next) := by
  intro state
  have hkept := hjob state
  rcases runOn_bind_cases job next state with
    ⟨fault, changed, hrun, hbind⟩ | ⟨a, changed, hrun, hbind⟩
  · rw [hrun] at hkept
    rw [hbind]
    exact hkept
  · rw [hrun] at hkept
    rw [hbind]
    exact (hnext a changed).trans hkept

theorem Keeps.forM {each : α → Job σ PUnit} (heach : ∀ a, Keeps view (each a)) (xs : List α) :
    Keeps view (xs.forM each) := by
  induction xs with
  | nil => exact .pure _
  | cons x xs ih => exact .bind (heach x) fun _ => ih

/-! ### Refusals without a wording -/

/-- The job is refused only for faults without a wording. -/
def IsSilent (job : Job σ α) : Prop := ∀ state, Silent (runOn job state).1

theorem IsSilent.pure (a : α) : IsSilent (Pure.pure a : Job σ α) := fun _ => .ok a

theorem IsSilent.throw {fault : Fault} (hfault : fault.message? = none) :
    IsSilent (MonadExcept.throw fault : Job σ α) :=
  fun _ => .error hfault

theorem IsSilent.ofExcept {result : Except Fault α} (hresult : Silent result) :
    IsSilent (Job.ofExcept result : Job σ α) := by
  intro state
  rw [runOn_ofExcept]
  exact hresult

theorem IsSilent.modify (change : σ → σ) : IsSilent (modify change : Job σ PUnit) :=
  fun _ => .ok _

theorem IsSilent.bind (hjob : IsSilent job) (hnext : ∀ a, IsSilent (next a)) :
    IsSilent (job >>= next) := by
  intro state
  have hsilent := hjob state
  rcases runOn_bind_cases job next state with
    ⟨fault, changed, hrun, hbind⟩ | ⟨a, changed, hrun, hbind⟩
  · rw [hrun] at hsilent
    rw [hbind]
    exact .error (hsilent fault rfl)
  · rw [hbind]
    exact hnext a changed

theorem IsSilent.forM {each : α → Job σ PUnit} (heach : ∀ a, IsSilent (each a)) (xs : List α) :
    IsSilent (xs.forM each) := by
  induction xs with
  | nil => exact .pure _
  | cons x xs ih => exact .bind (heach x) fun _ => ih

/-! ### Both -/

/-- Where a fault with a wording refuses the job, what is seen of the state stays as it was. -/
def KeepsRefused (view : σ → τ) (job : Job σ α) : Prop :=
  ∀ state fault, (runOn job state).1 = .error fault → fault.message?.isSome = true →
    view (runOn job state).2 = view state

theorem Keeps.keepsRefused (hjob : Keeps view job) : KeepsRefused view job :=
  fun state _ _ _ => hjob state

theorem IsSilent.keepsRefused (hjob : IsSilent job) : KeepsRefused view job := by
  intro state fault hrefused hworded
  rw [hjob state fault hrefused] at hworded
  cases hworded

/-- First jobs that keep what is seen, whatever they come to. -/
theorem Keeps.bind_keepsRefused (hjob : Keeps view job)
    (hnext : ∀ a, KeepsRefused view (next a)) : KeepsRefused view (job >>= next) := by
  intro state fault hrefused hworded
  have hkept := hjob state
  rcases runOn_bind_cases job next state with
    ⟨_, changed, hrun, hbind⟩ | ⟨a, changed, hrun, hbind⟩
  · rw [hrun] at hkept
    rw [hbind]
    exact hkept
  · rw [hrun] at hkept
    rw [hbind] at hrefused ⊢
    exact (hnext a changed fault hrefused hworded).trans hkept

/-- Behind them jobs that no check refuses. -/
theorem KeepsRefused.bind (hjob : KeepsRefused view job) (hnext : ∀ a, IsSilent (next a)) :
    KeepsRefused view (job >>= next) := by
  intro state fault hrefused hworded
  rcases runOn_bind_cases job next state with
    ⟨_, changed, hrun, hbind⟩ | ⟨a, changed, hrun, hbind⟩
  · rw [hbind] at hrefused ⊢
    cases hrefused
    have hkept := hjob state _ (congrArg Prod.fst hrun) hworded
    rw [hrun] at hkept
    exact hkept
  · rw [hbind] at hrefused
    rw [hnext a changed fault hrefused] at hworded
    cases hworded

end Job

/-! ### Stages -/

/-- What a compilation leaves for good: the files, the stages of the last complete run, and where the
    last snapshot went. -/
def Workbench.traces (bench : Workbench) : Tree × Option (List String) × Option String :=
  (bench.tree, bench.lastStages, bench.snapshotPath)

namespace Work

open Workbench

theorem keeps_print (line : String) : Job.Keeps traces (print line) := fun _ => rfl

theorem keeps_report (p : Project) (line : String) : Job.Keeps traces (report p line) := by
  intro bench
  rw [runOn_report]
  cases p.verbose <;> rfl

theorem isSilent_report (p : Project) (line : String) : Job.IsSilent (report p line) := by
  intro bench
  rw [runOn_report]
  exact .ok ()

theorem isSilent_onTree {α : Type} {step : Tree → Tree × Except Fault α}
    (hstep : ∀ tree, Silent (step tree).2) : Job.IsSilent (onTree step) := by
  intro bench
  rw [onTree, Job.runOn_ofStep]
  exact hstep bench.tree

end Work

namespace Project

open Workbench

variable (p : Project)

theorem keeps_validate : Job.Keeps traces p.validate :=
  .bind (.ofExcept _) fun _ => Work.keeps_report p _

theorem keeps_buildPlan : Job.Keeps traces p.buildPlan :=
  .bind (.ofExcept _) fun _ =>
  .bind (.modify fun _ => rfl) fun _ =>
  .bind (.ofExcept _) fun _ =>
  .bind (.modify fun _ => rfl) fun _ => .pure _

theorem keeps_serializeWeights : Job.Keeps traces p.serializeWeights :=
  .bind (.ofExcept _) fun _ => .bind (.modify fun _ => rfl) fun _ => .pure _

/-! Rendering only reads, so it keeps whatever is seen of the workbench. -/

variable {τ : Type} {view : Workbench → τ}

theorem keeps_generateSketch : Job.Keeps view p.generateSketch :=
  .bind .get fun _ => .ofExcept _

theorem keeps_generateHeader (tables : String) : Job.Keeps view (p.generateHeader tables) :=
  .bind .get fun _ => .ofExcept _

theorem keeps_generateReadme : Job.Keeps view p.generateReadme :=
  .bind .get fun _ => .ofExcept _

end Project

end DenseSketch
