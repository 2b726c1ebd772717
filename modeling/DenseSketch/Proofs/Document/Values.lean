import DenseSketch.Document.Mapping
import DenseSketch.Proofs.List.Monadic
import DenseSketch.Proofs.Number.Exact

/-!
# Numbers and texts among plain values

What is known of plain values that are whole numbers, and of those that list texts.
-/

/-!
## Whole numbers as plain values

Plain values that are whole numbers are compared as whole numbers.
-/

namespace DenseSketch

namespace Document

theorem quantity?_of_wholeNumber {d : Document} {n : Int} (hwhole : d.wholeNumber = .ok n) :
    d.quantity? = some (.whole n) := by
  unfold wholeNumber at hwhole
  split at hwhole
  · next m hm =>
    cases hwhole
    exact hm
  · cases hwhole

theorem quantity_of_wholeNumber {d : Document} {n : Int} (hwhole : d.wholeNumber = .ok n) :
    d.quantity = .ok (.whole n) := by
  rw [quantity, quantity?_of_wholeNumber hwhole]

theorem isNotPositive_of_wholeNumber {d : Document} {n : Int} (hwhole : d.wholeNumber = .ok n) :
    d.isNotPositive = .ok (decide (n ≤ 0)) := by
  have hquantity := quantity_of_wholeNumber hwhole
  have hle : (Datum.ofInt n).le .zero = decide (n ≤ 0) := Datum.le_ofInt n 0
  simp only [isNotPositive, hquantity, bind, Except.bind, Quantity.exact, hle, pure, Except.pure]

/-- Numbers of any kind are compared by value. -/
theorem isBelow_of_quantity? {a b : Document} {x y : Quantity} (ha : a.quantity? = some x)
    (hb : b.quantity? = some y) : a.isBelow b = .ok (Datum.lt x.exact y.exact) := by
  -- Neither is a text or a list, so that they are compared as numbers.
  have hnumbers : a.isBelow b = do return Datum.lt (← a.quantity).exact (← b.quantity).exact := by
    cases a <;> first
      | cases ha; done
      | (cases b <;> first | cases hb; done | simp only [isBelow])
  rw [hnumbers, quantity, quantity, ha, hb]
  rfl

theorem isBelow_of_wholeNumber {a b : Document} {m n : Int} (ha : a.wholeNumber = .ok m)
    (hb : b.wholeNumber = .ok n) : a.isBelow b = .ok (decide (m < n)) := by
  have hlt : (Datum.ofInt m).lt (.ofInt n) = decide (m < n) := by
    rw [Bool.eq_iff_iff, Datum.lt_iff (Datum.isFinite_ofInt m) (Datum.isFinite_ofInt n),
      decide_eq_true_iff, Datum.toRat_ofInt, Datum.toRat_ofInt]
    exact Int.cast_lt
  rw [isBelow_of_quantity? (quantity?_of_wholeNumber ha) (quantity?_of_wholeNumber hb), ← hlt]
  rfl

theorem isBelow_integer (m n : Int) :
    (Document.integer m).isBelow (.integer n) = .ok (decide (m < n)) :=
  isBelow_of_wholeNumber rfl rfl

theorem same_integer_of_wholeNumber {d : Document} {n : Int} (hwhole : d.wholeNumber = .ok n)
    (m : Int) : same (.integer m) d = decide (m = n) := by
  have hequal : (Datum.compare? (.ofInt m) (.ofInt n) == some .eq) = decide (m = n) := by
    rw [Datum.compare?_eq (Datum.isFinite_ofInt m) (Datum.isFinite_ofInt n), Bool.eq_iff_iff,
      beq_iff_eq, Option.some.injEq, cmp_eq_eq_iff, Datum.toRat_ofInt, Datum.toRat_ofInt,
      decide_eq_true_iff]
    exact Int.cast_inj
  have hquantity := quantity?_of_wholeNumber hwhole
  rw [← hequal]
  cases d <;> simp only [quantity?, Option.some.injEq, Quantity.whole.injEq, reduceCtorEq]
    at hquantity
  case integer k =>
    subst hquantity
    simp only [same, quantity?, Quantity.exact]
  case truth b =>
    rw [← hquantity]
    simp only [same, quantity?, Quantity.exact]

end Document

end DenseSketch

/-!
## Lists of texts

A plain value that lists texts is read as these texts.
-/

namespace DenseSketch.Document

@[simp]
theorem items?_ofTexts (listed : List String) : (ofTexts listed).items? = .ok (listed.map .text) :=
  rfl

@[simp]
theorem texts_ofTexts (listed : List String) : (ofTexts listed).texts = .ok listed := by
  have hshown : (listed.map Document.text).map shown = listed := by
    simp [Function.comp_def, shown]
  unfold texts
  rw [items?_ofTexts]
  refine (mapM_eq_pure_map ?_).trans (congrArg Except.ok hshown)
  intro item hitem
  obtain ⟨s, _, rfl⟩ := List.mem_map.1 hitem
  rfl

end DenseSketch.Document
