import Mathlib.Data.List.Forall2

/-!
# Loops that do not fail

A loop whose every step succeeds is the loop without failures over the results of its steps.  A loop
that may be refused comes to its end when every step does; otherwise it is refused by the first item
whose step is.
-/

namespace DenseSketch

variable {α β : Type} {m : Type → Type} [Monad m] [LawfulMonad m]

theorem mapM_eq_pure_map {f : α → m β} {g : α → β} {xs : List α}
    (hsteps : ∀ x ∈ xs, f x = pure (g x)) : xs.mapM f = pure (xs.map g) := by
  induction xs with
  | nil => rfl
  | cons x xs ih =>
    rw [List.mapM_cons, hsteps x (by simp), ih fun y hy => hsteps y (by simp [hy])]
    simp

theorem mapM_congr {f g : α → m β} {xs : List α} (hsame : ∀ x ∈ xs, f x = g x) :
    xs.mapM f = xs.mapM g := by
  rw [← Function.id_comp f, ← List.mapM_map, List.map_congr_left hsame, List.mapM_map,
    Function.id_comp]

theorem foldlM_eq_pure_foldl {f : β → α → m β} {g : β → α → β} {xs : List α}
    (hsteps : ∀ state, ∀ x ∈ xs, f state x = pure (g state x)) (state : β) :
    xs.foldlM f state = pure (xs.foldl g state) := by
  induction xs generalizing state with
  | nil => rfl
  | cons x xs ih =>
    rw [List.foldlM_cons, hsteps state x (by simp), pure_bind, List.foldl_cons]
    exact ih (fun state y hy => hsteps state y (by simp [hy])) (g state x)

/-- What a loop over positions reads next, and what is left behind it. -/
theorem getElem?_of_drop_eq_cons {xs rest : List α} {x : α} {i : Nat} (h : xs.drop i = x :: rest) :
    xs[i]? = some x ∧ xs.drop (i + 1) = rest := by
  constructor
  · rw [← List.head?_drop, h, List.head?_cons]
  · rw [← List.tail_drop, h, List.tail_cons]

/-! ### Loops that may be refused -/

variable {ε : Type}

theorem mapM_eq_ok_iff {f : α → Except ε β} {xs : List α} {ys : List β} :
    xs.mapM f = .ok ys ↔ List.Forall₂ (fun x y => f x = .ok y) xs ys := by
  induction xs generalizing ys with
  | nil => simp [pure, Except.pure, eq_comm]
  | cons x xs ih =>
    rw [List.mapM_cons, List.forall₂_cons_left_iff]
    simp only [← ih]
    cases f x with
    | error fault => simp [bind, Except.bind]
    | ok y => cases xs.mapM f <;> simp [bind, Except.bind, pure, Except.pure, eq_comm]

theorem exists_mem_of_mapM_eq_ok {f : α → Except ε β} {xs : List α} {ys : List β}
    (h : xs.mapM f = .ok ys) : ∀ x ∈ xs, ∃ y ∈ ys, f x = .ok y := by
  rw [mapM_eq_ok_iff] at h
  induction h with
  | nil => exact List.forall_mem_nil _
  | cons hfirst _ ih =>
    rw [List.forall_mem_cons]
    refine ⟨⟨_, List.mem_cons_self, hfirst⟩, ?_⟩
    intro x hx
    obtain ⟨y, hy, hresult⟩ := ih x hx
    exact ⟨y, List.mem_cons_of_mem _ hy, hresult⟩

theorem exists_mapM_eq_ok {f : α → Except ε β} {xs : List α} :
    (∃ ys, xs.mapM f = .ok ys) ↔ ∀ x ∈ xs, ∃ y, f x = .ok y := by
  simp only [mapM_eq_ok_iff]
  induction xs with
  | nil => simp
  | cons x xs ih =>
    rw [List.forall_mem_cons, ← ih]
    constructor
    · rintro ⟨ys, hys⟩
      obtain ⟨y, rest, hy, hrest, -⟩ := List.forall₂_cons_left_iff.1 hys
      exact ⟨⟨y, hy⟩, rest, hrest⟩
    · rintro ⟨⟨y, hy⟩, rest, hrest⟩
      exact ⟨_, .cons hy hrest⟩

/-! ### The first refusal -/

/-- The item is the first one of a list without a property. -/
inductive IsFirstWithout (p : α → Prop) : List α → α → Prop
  | here {x : α} {xs : List α} (hx : ¬ p x) : IsFirstWithout p (x :: xs) x
  | later {x y : α} {xs : List α} (hy : p y) (hx : IsFirstWithout p xs x) :
    IsFirstWithout p (y :: xs) x

theorem IsFirstWithout.not {p : α → Prop} {xs : List α} {x : α} (h : IsFirstWithout p xs x) :
    ¬ p x := by
  induction h with
  | here hx => exact hx
  | later _ _ ih => exact ih

theorem IsFirstWithout.congr {p q : α → Prop} {xs : List α} {x : α} (hpq : ∀ y ∈ xs, p y ↔ q y)
    (h : IsFirstWithout p xs x) : IsFirstWithout q xs x := by
  induction h with
  | here hx => exact .here fun hq => hx ((hpq _ (List.mem_cons_self ..)).2 hq)
  | later hy _ ih =>
    rw [List.forall_mem_cons] at hpq
    exact .later (hpq.1.1 hy) (ih hpq.2)

end DenseSketch
