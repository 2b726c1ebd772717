import DenseSketch.Fault
import Mathlib.Data.List.Basic

/-!
# Results

When a chain of computations that may be refused comes to its end, and for which reasons it is
refused: a chain and a loop for those of their steps.
-/

namespace DenseSketch

variable {α β : Type}

@[simp]
theorem bind_eq_ok {x : Except Fault α} {f : α → Except Fault β} {b : β} :
    (x >>= f) = .ok b ↔ ∃ a, x = .ok a ∧ f a = .ok b := by
  cases x with
  | error fault => simp [bind, Except.bind]
  | ok a => simp [bind, Except.bind]

@[simp]
theorem pure_eq_ok {a b : α} : (pure a : Except Fault α) = .ok b ↔ a = b := by
  simp [pure, Except.pure]

@[simp]
theorem exists_unit_eq_ok {x : Except Fault Unit} : (∃ u, x = .ok u) ↔ x = .ok () :=
  ⟨fun ⟨_, h⟩ => h, fun h => ⟨(), h⟩⟩

@[simp]
theorem throw_bind (fault : Fault) (f : α → Except Fault β) :
    (throw fault >>= f : Except Fault β) = throw fault :=
  rfl

/-- A check stands before the rest. -/
@[simp]
theorem refuse_eq_ok {p : Prop} [Decidable p] {fault : Fault} {rest : Except Fault α} {a : α} :
    (if p then throw fault else rest) = .ok a ↔ ¬ p ∧ rest = .ok a := by
  by_cases h : p <;> simp [h, throw, throwThe, MonadExceptOf.throw]

@[simp]
theorem require_eq_ok {p : Prop} [Decidable p] {fault : Fault} {rest : Except Fault α} {a : α} :
    (if p then rest else throw fault) = .ok a ↔ p ∧ rest = .ok a := by
  by_cases h : p <;> simp [h, throw, throwThe, MonadExceptOf.throw]

theorem forM_eq_ok {check : α → Except Fault Unit} {xs : List α} :
    forM xs check = .ok () ↔ ∀ x ∈ xs, check x = .ok () := by
  induction xs with
  | nil => simp
  | cons x xs ih => simp [ih]

/-! ### Reasons for a refusal -/

variable {allowed : Fault → Prop}

/-- If the computation is refused, then for such a reason. -/
def RefusedFor (allowed : Fault → Prop) (result : Except Fault α) : Prop :=
  ∀ fault, result = .error fault → allowed fault

namespace RefusedFor

theorem ok (a : α) : RefusedFor allowed (.ok a : Except Fault α) :=
  nofun

theorem error {fault : Fault} (hallowed : allowed fault) :
    RefusedFor allowed (.error fault : Except Fault α) := by
  rintro _ ⟨⟩
  exact hallowed

theorem mono {more : Fault → Prop} (hmore : ∀ fault, allowed fault → more fault)
    {result : Except Fault α} (h : RefusedFor allowed result) : RefusedFor more result := by
  intro fault hfault
  exact hmore fault (h fault hfault)

theorem bind {first : Except Fault α} {next : α → Except Fault β}
    (hfirst : RefusedFor allowed first) (hnext : ∀ a, first = .ok a → RefusedFor allowed (next a)) :
    RefusedFor allowed (first >>= next) := by
  cases first with
  | error fault => exact error (hfirst fault rfl)
  | ok a => exact hnext a rfl

/-- A check in front of the rest. -/
theorem refuse {p : Prop} [Decidable p] {fault : Fault} {next : β → Except Fault α}
    {rest : Except Fault α} (hfault : p → allowed fault) (hrest : RefusedFor allowed rest) :
    RefusedFor allowed (if p then throw fault >>= next else rest) := by
  by_cases h : p
  · rw [if_pos h]
    exact error (hfault h)
  · rw [if_neg h]
    exact hrest

theorem map {result : Except Fault α} (f : α → β) (h : RefusedFor allowed result) :
    RefusedFor allowed (result.map f) := by
  cases result with
  | error fault => exact error (h fault rfl)
  | ok a => exact ok (f a)

theorem mapM {f : α → Except Fault β} {xs : List α} (h : ∀ x ∈ xs, RefusedFor allowed (f x)) :
    RefusedFor allowed (xs.mapM f) := by
  induction xs with
  | nil => exact ok []
  | cons x xs ih =>
    rw [List.forall_mem_cons] at h
    obtain ⟨hfirst, hrest⟩ := h
    rw [List.mapM_cons]
    exact hfirst.bind fun y _ => (ih hrest).bind fun ys _ => ok (y :: ys)

theorem forM {check : α → Except Fault Unit} {xs : List α}
    (h : ∀ x ∈ xs, RefusedFor allowed (check x)) : RefusedFor allowed (xs.forM check) := by
  induction xs with
  | nil => exact ok ()
  | cons x xs ih =>
    rw [List.forall_mem_cons] at h
    exact h.1.bind fun _ _ => ih h.2

theorem mapM_option {f : α → Except Fault β} (x : Option α)
    (h : ∀ a ∈ x, RefusedFor allowed (f a)) : RefusedFor allowed (x.mapM f) := by
  cases x with
  | none => exact ok none
  | some a => exact (h a rfl).bind fun b _ => ok (some b)

end RefusedFor

/-- If the computation is refused, then for a wrong value. -/
abbrev RefusesValues (result : Except Fault α) : Prop :=
  RefusedFor (fun fault => fault.isValueFault = true) result

end DenseSketch
