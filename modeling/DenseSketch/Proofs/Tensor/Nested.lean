import DenseSketch.Proofs.Fault.Results
import DenseSketch.Proofs.List.Monadic
import DenseSketch.Tensor

/-!
# Nested lists as tensors

Why nested lists make no tensor, and which tensor a flat list makes.
-/

/-!
## Data that make no tensor

Nested lists make no tensor if they are ragged or nested too deep, or if a leaf is no number.  None
of these reasons condemns a model for compilation.
-/

namespace DenseSketch

/-- The reasons that condemn no model. -/
def Fault.IsOutside (fault : Fault) : Prop := fault.isCompilation = false

/-- The reasons why a value is no number that is asked for: it is of another type, out of range, or
    too large. -/
inductive Fault.IsOfNumber : Fault → Prop
  | wrongType : IsOfNumber .wrongType
  | badValue : IsOfNumber .badValue
  | overflow : IsOfNumber .overflow

theorem Fault.IsOfNumber.isOutside {fault : Fault} (h : fault.IsOfNumber) : fault.IsOutside := by
  cases h <;> rfl

theorem Document.refusedFor_toInt (d : Document) : RefusedFor Fault.IsOfNumber d.toInt := by
  cases d with
  | integer | truth => exact .ok _
  | real x =>
    cases x with
    | nan => exact .error .badValue
    | infinite s => exact .error .overflow
    | finite s m e => exact .ok _
  | text s =>
    rw [toInt]
    split
    · exact .ok _
    · exact .error .badValue
  | null | list | record => exact .error .wrongType

theorem Document.refusedFor_toReal (d : Document) : RefusedFor Fault.IsOfNumber d.toReal := by
  cases d with
  | integer n =>
    rw [toReal, realOfInt]
    split
    · exact .ok _
    · exact .error .overflow
  | text s =>
    rw [toReal]
    split
    · exact .ok _
    · exact .error .badValue
  | truth | real => exact .ok _
  | null | list | record => exact .error .wrongType

namespace Tensor

mutual

theorem refusedFor_shapeOf (d : Document) : RefusedFor Fault.IsOfNumber (shapeOf d) := by
  match d with
  | .list [] => exact .ok _
  | .list (item :: rest) =>
    rw [shapeOf]
    split
    · next fault hitem => exact .error (refusedFor_shapeOf item fault hitem)
    · next dims _ =>
      split
      · next fault hrest => exact .error (refusedFor_sameShape dims rest fault hrest)
      · exact .ok _
  | .null | .truth _ | .integer _ | .real _ | .text _ | .record _ => exact .ok _

theorem refusedFor_sameShape (dims : List Nat) (items : List Document) :
    RefusedFor Fault.IsOfNumber (sameShape dims items) := by
  match items with
  | [] => exact .ok _
  | item :: rest =>
    rw [sameShape]
    split
    · next fault hitem => exact .error (refusedFor_shapeOf item fault hitem)
    · split
      · exact refusedFor_sameShape dims rest
      · exact .error .badValue

end

theorem refusedFor_dimsOf (d : Document) : RefusedFor Fault.IsOfNumber (dimsOf d) := by
  rw [dimsOf]
  split
  · next fault hshape => exact .error (refusedFor_shapeOf d fault hshape)
  · split
    · exact .error .badValue
    · exact .ok _

theorem refusedFor_leafData (leaf : Document) : RefusedFor Fault.IsOfNumber (leafData leaf) := by
  unfold leafData
  split
  · exact .ok _
  · exact leaf.refusedFor_toReal.map _

theorem refusedFor_ofDocument (d : Document) : RefusedFor Fault.IsOfNumber (ofDocument d) := by
  refine (refusedFor_dimsOf d).bind fun dims _ => ?_
  refine RefusedFor.bind ?_ fun data _ => .ok _
  exact .mapM fun leaf _ => refusedFor_leafData leaf

end Tensor

/-!
## Flat lists

A list without lists in it becomes a tensor with one axis, if all of its values are converted.
-/

/-- The document is a single value. -/
def Document.IsScalar : Document → Prop
  | .list _ => False
  | _ => True

/-- The document is a flat list of `count` values. -/
def Document.IsFlat (d : Document) (count : Nat) : Prop :=
  ∃ items, d = .list items ∧ items.length = count ∧ ∀ item ∈ items, item.IsScalar

namespace Tensor

variable {d : Document} {items : List Document} {count : Nat}

theorem shapeOf_of_isScalar (hd : d.IsScalar) : shapeOf d = .ok [] := by
  cases d with
  | list => exact hd.elim
  | null | truth | integer | real | text | record => rfl

theorem leaves_of_isScalar (hd : d.IsScalar) : leaves d = [d] := by
  cases d with
  | list => exact hd.elim
  | null | truth | integer | real | text | record => rfl

theorem sameShape_of_isScalar (hitems : ∀ item ∈ items, item.IsScalar) :
    sameShape [] items = .ok () := by
  induction items with
  | nil => rfl
  | cons item items ih =>
    rw [List.forall_mem_cons] at hitems
    simp only [sameShape, shapeOf_of_isScalar hitems.1, if_true, ih hitems.2]

theorem leavesOf_of_isScalar (hitems : ∀ item ∈ items, item.IsScalar) : leavesOf items = items := by
  induction items with
  | nil => rfl
  | cons item items ih =>
    rw [List.forall_mem_cons] at hitems
    rw [leavesOf, leaves_of_isScalar hitems.1, ih hitems.2, List.singleton_append]

theorem shapeOf_list (hitems : ∀ item ∈ items, item.IsScalar) :
    shapeOf (.list items) = .ok [items.length] := by
  cases items with
  | nil => rfl
  | cons item items =>
    rw [List.forall_mem_cons] at hitems
    simp only [shapeOf, shapeOf_of_isScalar hitems.1, sameShape_of_isScalar hitems.2,
      List.length_cons]

/-- Only the values of a flat list can be refused. -/
theorem ofDocument_list (hitems : ∀ item ∈ items, item.IsScalar) :
    ofDocument (.list items) = (items.mapM leafData).map Block.vector := by
  have hdims : dimsOf (.list items) = .ok [items.length] := by
    rw [dimsOf, shapeOf_list hitems]
    rfl
  rw [ofDocument, hdims, leaves, leavesOf_of_isScalar hitems]
  cases hdata : items.mapM leafData with
  | error fault => rfl
  | ok data =>
    have hlength : items.length = data.length := (mapM_eq_ok_iff.1 hdata).length_eq
    rw [Except.map, Block.vector, ← hlength]
    rfl

/-- What a flat list becomes is as long as the list. -/
theorem exists_vector_of_ofDocument (hflat : d.IsFlat count) {t : Tensor}
    (ht : ofDocument d = .ok t) : ∃ xs, t = .vector xs ∧ xs.length = count := by
  obtain ⟨items, rfl, rfl, hitems⟩ := hflat
  rw [ofDocument_list hitems] at ht
  cases hdata : items.mapM leafData with
  | error fault =>
    rw [hdata] at ht
    cases ht
  | ok data =>
    rw [hdata] at ht
    cases ht
    exact ⟨data, rfl, (mapM_eq_ok_iff.1 hdata).length_eq.symm⟩

end Tensor

end DenseSketch
