import DenseSketch.Model.Extraction
import DenseSketch.Proofs.ForwardPass.Exact
import Mathlib.Algebra.BigOperators.Fin
import Mathlib.Data.List.Basic
import Mathlib.Data.List.GetD
import Mathlib.Data.Matrix.Mul

/-!
# Layers as modules store them

How data that lie row by row are seen by rows and by columns, and what becomes of the weights of a
layer that is stored with a row for each output.
-/

/-!
## Rows and columns

Data that lie row by row, seen by their positions: item `j` of row `i` stands at `i * width + j`.
-/

namespace DenseSketch.Block

variable {α : Type} {width count i j : Nat}

theorem rowsOf_eq_map (width count : Nat) (data : List α) :
    rowsOf width count data =
      (List.range count).map fun i => (data.drop (i * width)).take width := by
  induction count generalizing data with
  | zero => rfl
  | succ count ih =>
    rw [rowsOf, ih, List.range_succ_eq_map, List.map_cons, List.map_map]
    simp only [Nat.zero_mul, List.drop_zero, List.drop_drop, Function.comp_def, Nat.succ_mul,
      Nat.add_comm width]

/-- Column `j`, from the first row to the last one. -/
theorem column_rowsOf {data : List α} (hlength : data.length = count * width) (hj : j < width)
    (default : α) :
    ((rowsOf width count data).filterMap fun row => row[j]?) =
      (List.range count).map fun i => data.getD (i * width + j) default := by
  rw [rowsOf_eq_map, List.filterMap_map]
  refine List.filterMap_eq_map_iff_forall_eq_some.2 fun i hi => ?_
  have hposition : i * width + j < data.length := by
    rw [List.mem_range] at hi
    calc i * width + j < (i + 1) * width := by rw [Nat.succ_mul]; omega
      _ ≤ data.length := hlength ▸ Nat.mul_le_mul_right width hi
  simp only [Function.comp_apply, List.getElem?_take_of_lt hj, List.getElem?_drop,
    List.getD_eq_getElem _ _ hposition, List.getElem?_eq_getElem hposition]

/-! ### Pieces of one length -/

theorem length_flatMap_range {f : Nat → List α} (hlength : ∀ j < count, (f j).length = width) :
    ((List.range count).flatMap f).length = count * width := by
  induction count with
  | zero => simp
  | succ count ih =>
    have hfront := ih fun j hj => hlength j (Nat.lt_succ_of_lt hj)
    simp [List.range_succ, hfront, hlength count (Nat.lt_succ_self count), Nat.succ_mul]

theorem getElem?_flatMap_range {f : Nat → List α} (hlength : ∀ j < count, (f j).length = width)
    (hj : j < count) (hi : i < width) :
    ((List.range count).flatMap f)[j * width + i]? = (f j)[i]? := by
  induction count with
  | zero => omega
  | succ count ih =>
    have hfront : ((List.range count).flatMap f).length = count * width :=
      length_flatMap_range fun j hj => hlength j (Nat.lt_succ_of_lt hj)
    rw [List.range_succ, List.flatMap_append, List.flatMap_singleton]
    rcases Nat.lt_succ_iff_lt_or_eq.1 hj with hlt | rfl
    · have hposition : j * width + i < count * width := by
        calc j * width + i < (j + 1) * width := by rw [Nat.succ_mul]; omega
          _ ≤ count * width := Nat.mul_le_mul_right width hlt
      rw [List.getElem?_append_left (hfront.symm ▸ hposition)]
      exact ih (fun j hj => hlength j (Nat.lt_succ_of_lt hj)) hlt
    · rw [List.getElem?_append_right (by omega), hfront, Nat.add_sub_cancel_left]

/-! ### Scalars by their index -/

/-- The scalar of an array at an index, which has a position for each axis.  What belongs to one
    position of the first axis lies in one piece. -/
def scalarAt? : List Nat → List α → List Nat → Option α
  | [], data, [] => data.head?
  | n :: dims, data, i :: index =>
    if i < n then scalarAt? dims ((data.drop (i * sizeOf dims)).take (sizeOf dims)) index else none
  | _, _, _ => none

end DenseSketch.Block

/-!
## Stored layers

A module stores the weights of a fully connected layer with one row for each output; the layer of a
network has one row for each input.  The layer that is made of a stored one is the affine map that
the module stands for.
-/

namespace DenseSketch

/-- A fully connected layer as a module stores it, with one row of weights for each output and
    perhaps a bias for each output. -/
structure StoredLayer where
  inputs : Nat
  outputs : Nat
  weights : List Datum
  bias : Option (List Datum)
  inputs_pos : 0 < inputs
  outputs_pos : 0 < outputs
  weights_length : weights.length = outputs * inputs
  bias_length : ∀ b ∈ bias, b.length = outputs
  weights_finite : ∀ x ∈ weights, x.isFinite
  bias_finite : ∀ b ∈ bias, ∀ x ∈ b, x.isFinite

namespace StoredLayer

variable (s : StoredLayer)

/-- The weight of input `j` in output `i`. -/
def entry (i : Fin s.outputs) (j : Fin s.inputs) : Datum :=
  s.weights.getD (i * s.inputs + j) .zero

/-- The matrix of a stored layer. -/
def matrix : Matrix (Fin s.outputs) (Fin s.inputs) ℚ :=
  Matrix.of fun i j => (s.entry i j).toRat

/-- What a stored layer adds to its outputs. -/
def shift : Fin s.outputs → ℚ :=
  fun i => ((s.bias.getD []).getD i .zero).toRat

/-- The weights with one row for each input. -/
def transposed : List Datum :=
  (List.range s.inputs).flatMap fun j =>
    (List.range s.outputs).map fun i => s.weights.getD (i * s.inputs + j) .zero

theorem length_transposed : s.transposed.length = s.inputs * s.outputs :=
  Block.length_flatMap_range fun _ _ => by rw [List.length_map, List.length_range]

theorem getElem?_transposed (i : Fin s.outputs) (j : Fin s.inputs) :
    s.transposed[(j : Nat) * s.outputs + i]? = some (s.entry i j) := by
  rw [transposed, Block.getElem?_flatMap_range (fun _ _ => by rw [List.length_map, List.length_range])
    j.isLt i.isLt, List.getElem?_map, List.getElem?_range i.isLt, Option.map_some, entry]

theorem position_lt_length (i : Fin s.outputs) (j : Fin s.inputs) :
    (i : Nat) * s.inputs + j < s.weights.length := by
  rw [s.weights_length]
  calc (i : Nat) * s.inputs + j < (i + 1) * s.inputs := by rw [Nat.succ_mul]; omega
    _ ≤ s.outputs * s.inputs := Nat.mul_le_mul_right _ i.isLt

theorem isFinite_entry (i : Fin s.outputs) (j : Fin s.inputs) : (s.entry i j).isFinite := by
  rw [entry, List.getD_eq_getElem _ _ (s.position_lt_length i j)]
  exact s.weights_finite _ (List.getElem_mem _)

theorem isFinite_transposed : ∀ x ∈ s.transposed, x.isFinite := by
  intro x hx
  obtain ⟨j, hj, hx⟩ := List.mem_flatMap.1 hx
  obtain ⟨i, hi, rfl⟩ := List.mem_map.1 hx
  exact s.isFinite_entry ⟨i, List.mem_range.1 hi⟩ ⟨j, List.mem_range.1 hj⟩

/-- The layer of a network that is made of a stored one. -/
def layer (name : String) : Layer where
  name := .text name
  inputs := s.inputs
  outputs := s.outputs
  weights := s.transposed
  bias := s.bias
  inputs_pos := s.inputs_pos
  outputs_pos := s.outputs_pos
  weights_length := s.length_transposed
  bias_length := s.bias_length

/-! ### The affine map -/

variable (exp : ℚ → ℚ) (special : Datum → ℚ) (name : String)

theorem startAt_eq_shift (i : Fin s.outputs) :
    DenseStep.startAt (.exact exp special)
        ((s.layer name).bias.map fun b => b.map (Arithmetic.exact exp special).ofDatum) i =
      s.shift i := by
  unfold shift
  cases hbias : s.bias with
  | none => simp [layer, hbias, DenseStep.startAt, Arithmetic.exact]
  | some b =>
    have hi : (i : Nat) < b.length := (s.bias_length b hbias).symm ▸ i.isLt
    have hfinite : (b[(i : Nat)]).isFinite := s.bias_finite b hbias _ (List.getElem_mem hi)
    simp [layer, hbias, DenseStep.startAt, Arithmetic.exact, hi, hfinite]

theorem columnSum_eq_mulVec (x : Fin s.inputs → ℚ) (i : Fin s.outputs) :
    columnSum (List.ofFn x) ((s.layer name).weights.map (Arithmetic.exact exp special).ofDatum)
        s.outputs i =
      s.matrix.mulVec x i := by
  have hweight : ∀ j : Fin s.inputs,
      ((s.layer name).weights.map (Arithmetic.exact exp special).ofDatum).getD
        ((j : Nat) * s.outputs + i) 0 = s.matrix i j := by
    intro j
    have hentry : (s.layer name).weights[(j : Nat) * s.outputs + i]? = some (s.entry i j) :=
      s.getElem?_transposed i j
    rw [List.getD_eq_getElem?_getD, List.getElem?_map, hentry]
    simp [Arithmetic.exact, s.isFinite_entry i j, matrix]
  rw [columnSum, List.length_ofFn, Finset.sum_range]
  refine Finset.sum_congr rfl fun j _ => ?_
  rw [hweight, mul_comm]
  simp

/-- In exact arithmetic the layer is the matrix of the stored one times the inputs, plus its bias. -/
theorem linear_layer (x : Fin s.inputs → ℚ) :
    (s.layer name).linear (.exact exp special) (List.ofFn x) =
      .ok (List.ofFn (s.matrix.mulVec x + s.shift)) := by
  have hlength : (List.ofFn x).length = (s.layer name).inputs := List.length_ofFn
  rw [Layer.linear_exact exp special hlength]
  congr 1
  apply List.ext_getElem
  · simp [layer]
  · intro i hi _
    have hi' : i < s.outputs := by simpa [layer] using hi
    have hstart := s.startAt_eq_shift exp special name ⟨i, hi'⟩
    have hsum := s.columnSum_eq_mulVec exp special name x ⟨i, hi'⟩
    rw [List.getElem_ofFn, Pi.add_apply, ← hsum, ← hstart, add_comm]
    simp [Layer.sums, Layer.sumAt, layer]

end StoredLayer

end DenseSketch
