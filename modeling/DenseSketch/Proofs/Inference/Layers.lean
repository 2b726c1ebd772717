import DenseSketch.Inference.Reference
import Mathlib.Data.List.Basic

/-!
# One layer of the reference

A layer multiplies a vector of the right length with its weights, row by row, and adds its bias.  It
yields one value for each of its outputs, in any arithmetic, and a vector of another length is
refused.
-/

namespace DenseSketch

variable {α : Type}

theorem Block.length_of_mem_rowsOf {width count : Nat} {data row : List α}
    (hlength : data.length = count * width) (hrow : row ∈ rowsOf width count data) :
    row.length = width := by
  induction count generalizing data with
  | zero => simp [rowsOf] at hrow
  | succ count ih =>
    rw [Nat.succ_mul] at hlength
    rcases List.mem_cons.1 hrow with rfl | hrest
    · rw [List.length_take]
      omega
    · exact ih (by rw [List.length_drop]; omega) hrest

/-! ### Products and sums of vectors -/

namespace Arithmetic

variable (A : Arithmetic α) {height width : Nat} {x weights : List α}

/-- Adding rows of one width to sums of this width leaves as many sums. -/
theorem length_foldl_addScaled {pairs : List (α × List α)} {sums : List α}
    (hpairs : ∀ pair ∈ pairs, pair.2.length = width) (hsums : sums.length = width) :
    (pairs.foldl (fun sums p => A.addScaled sums p.1 p.2) sums).length = width := by
  induction pairs generalizing sums with
  | nil => exact hsums
  | cons pair pairs ih =>
    obtain ⟨hpair, hpairs⟩ := List.forall_mem_cons.1 hpairs
    refine ih hpairs ?_
    simp only [addScaled, List.length_zipWith, hsums, hpair, Nat.min_self]

theorem length_vecMul (x : List α) (hweights : weights.length = height * width) :
    (A.vecMul width x (Block.rowsOf width height weights)).length = width := by
  refine A.length_foldl_addScaled ?_ List.length_replicate
  rintro ⟨_, row⟩ hpair
  exact Block.length_of_mem_rowsOf hweights (List.of_mem_zip hpair).2

/-- A vector and a matrix that fit have a product. -/
theorem product_vector (hx : x.length = height) :
    A.product (.vector x) ⟨[height, width], weights⟩ =
      .ok ⟨[width], A.vecMul width x (Block.rowsOf width height weights)⟩ := by
  simp [product, asMatrix, Block.size, Block.vector, Block.sizeOf, stackMul, hx, bind, Except.bind,
    pure, Except.pure]

theorem product_of_length_ne (hx : x.length ≠ height) :
    A.product (.vector x) ⟨[height, width], weights⟩ =
      .error (.vector (.rows x.length height)) := by
  simp [product, asMatrix, Block.size, Block.vector, Ne.symm hx, bind, Except.bind, throw, throwThe,
    MonadExceptOf.throw]

theorem addBias_vector {y bias : List α} (hy : y.length = width) (hbias : bias.length = width) :
    A.addBias ⟨[width], y⟩ bias = .ok ⟨[width], List.zipWith A.add y bias⟩ := by
  have hrow : y.take width = y := List.take_of_length_le (Nat.le_of_eq hy)
  simp [addBias, hbias, Block.sizeOf, Block.rowsOf, hrow]

end Arithmetic

/-! ### Layers -/

namespace Layer

variable (A : Arithmetic α) (layer : Layer) {x : List α}

/-- A layer yields one value for each of its outputs. -/
theorem exists_linear_eq_ok (hx : x.length = layer.inputs) :
    ∃ y, layer.linear A x = .ok y ∧ y.length = layer.outputs := by
  have hweights : (layer.weights.map A.ofDatum).length = layer.inputs * layer.outputs := by
    rw [List.length_map, layer.weights_length]
  have hsums := A.length_vecMul x hweights
  rw [linear, Arithmetic.dense, matrix, A.product_vector hx, biasBlock]
  cases hbias : layer.bias with
  | none => exact ⟨_, rfl, hsums⟩
  | some bias =>
    have hcount : (bias.map A.ofDatum).length = layer.outputs := by
      rw [List.length_map, layer.bias_length bias hbias]
    have hsum := A.addBias_vector hsums hcount
    refine ⟨_, congrArg (Except.map Block.data) hsum, ?_⟩
    rw [List.length_zipWith, hsums, hcount, Nat.min_self]

theorem linear_of_length_ne (hx : x.length ≠ layer.inputs) :
    layer.linear A x = .error (.vector (.rows x.length layer.inputs)) := by
  rw [linear, Arithmetic.dense, matrix, A.product_of_length_ne hx]
  rfl

end Layer

end DenseSketch
