import DenseSketch.Proofs.ForwardPass.Loops
import DenseSketch.Proofs.Inference.Layers
import DenseSketch.Proofs.Number.Exact
import Mathlib.Algebra.BigOperators.Intervals
import Mathlib.Algebra.Order.Ring.Rat
import Mathlib.Tactic.Ring

/-!
# Layers in exact arithmetic

Over the rationals the order in which products are summed up does not count.  The matrix product of
the reference and the loops of a dense step both come to the same weighted sums.
-/

namespace DenseSketch

/-- Exact arithmetic on rationals.  Any function can stand for the exponential, and any rational for
    a datum that is no number. -/
def Arithmetic.exact (exp : ℚ → ℚ) (special : Datum → ℚ) : Arithmetic ℚ where
  ofDatum x := if x.isFinite then x.toRat else special x
  zero := 0
  one := 1
  add := (· + ·)
  sub := (· - ·)
  mul := (· * ·)
  div := (· / ·)
  neg := (- ·)
  max a b := Max.max a b
  exp := exp
  lt a b := decide (a < b)

/-- The sum of the products of a vector with column `i` of a matrix that lies row by row. -/
def columnSum (x weights : List ℚ) (width i : Nat) : ℚ :=
  ∑ j ∈ Finset.range x.length, x.getD j 0 * weights.getD (j * width + i) 0

theorem columnSum_cons (a : ℚ) (x weights : List ℚ) (width i : Nat) :
    columnSum (a :: x) weights width i =
      a * weights.getD i 0 + columnSum x (weights.drop width) width i := by
  have htail : ∀ j, (weights.drop width).getD (j * width + i) 0 =
      weights.getD ((j + 1) * width + i) 0 := by
    intro j
    rw [List.getD_eq_getElem?_getD, List.getD_eq_getElem?_getD, List.getElem?_drop,
      Nat.succ_mul, Nat.add_right_comm, Nat.add_comm width]
  simp only [columnSum, List.length_cons, Finset.sum_range_succ', List.getD_cons_succ,
    List.getD_cons_zero, Nat.zero_mul, Nat.zero_add, htail]
  ring

/-! ### The reference -/

variable (exp : ℚ → ℚ) (special : Datum → ℚ)

namespace Arithmetic

theorem exact_add (a b : ℚ) : (exact exp special).add a b = a + b :=
  rfl

theorem getD_addScaled (sums row : List ℚ) (x : ℚ) {i : Nat} (hsums : i < sums.length)
    (hrow : i < row.length) :
    ((exact exp special).addScaled sums x row).getD i 0 = sums.getD i 0 + x * row.getD i 0 := by
  rw [List.getD_eq_getElem _ _ hsums, List.getD_eq_getElem _ _ hrow,
    List.getD_eq_getElem _ _ (by simp [addScaled, hsums, hrow])]
  simp [addScaled, exact]

/-- Rows are added up to column sums. -/
theorem foldl_addScaled (width : Nat) (x weights sums : List ℚ)
    (hweights : weights.length = x.length * width) (hsums : sums.length = width) :
    (List.zip x (Block.rowsOf width x.length weights)).foldl
        (fun sums p => (exact exp special).addScaled sums p.1 p.2) sums =
      (List.range width).map fun i => sums.getD i 0 + columnSum x weights width i := by
  induction x generalizing weights sums with
  | nil =>
    apply List.ext_getElem
    · simpa using hsums
    · intro i hi _
      have hi' : i < sums.length := hi
      simp [columnSum, List.getElem?_eq_getElem hi']
  | cons a x ih =>
    rw [List.length_cons, Nat.succ_mul] at hweights
    have hrow : (weights.take width).length = width := by simp [hweights]
    have hnext : ((exact exp special).addScaled sums a (weights.take width)).length = width := by
      simp [addScaled, hsums, hrow]
    rw [List.length_cons, Block.rowsOf, List.zip_cons_cons, List.foldl_cons,
      ih (weights.drop width) _ (by simp [hweights]) hnext]
    apply List.map_congr_left
    intro i hi
    rw [List.mem_range] at hi
    have htake : (weights.take width).getD i 0 = weights.getD i 0 := by
      simp only [List.getD_eq_getElem?_getD, List.getElem?_take_of_lt hi]
    rw [getD_addScaled exp special sums _ a (hsums.symm ▸ hi) (hrow.symm ▸ hi), columnSum_cons,
      htake]
    ring

theorem vecMul_exact (width : Nat) (x weights : List ℚ)
    (hweights : weights.length = x.length * width) :
    (exact exp special).vecMul width x (Block.rowsOf width x.length weights) =
      (List.range width).map (columnSum x weights width) := by
  have hsums := foldl_addScaled exp special width x weights (List.replicate width 0) hweights
    List.length_replicate
  refine hsums.trans (List.map_congr_left fun i hi => ?_)
  simp [List.mem_range.1 hi]

theorem product_exact (width : Nat) (x weights : List ℚ)
    (hweights : weights.length = x.length * width) :
    (exact exp special).product (.vector x) ⟨[x.length, width], weights⟩ =
      .ok ⟨[width], (List.range width).map (columnSum x weights width)⟩ := by
  rw [product_vector _ rfl, vecMul_exact exp special width x weights hweights]

/-- Every output of a dense layer is a bias and a column sum. -/
theorem dense_exact {width : Nat} {x weights : List ℚ} {bias : Option (Block ℚ)}
    (hweights : weights.length = x.length * width) (hbias : ∀ b ∈ bias, b.size = width) :
    (exact exp special).dense (.vector x) ⟨[x.length, width], weights⟩ bias =
      .ok (.vector ((List.range width).map fun i =>
        DenseStep.startAt (exact exp special) (bias.map Block.data) i +
          columnSum x weights width i)) := by
  rw [dense, product_exact exp special width x weights hweights]
  cases bias with
  | none => simp [DenseStep.startAt, exact, Block.vector, bind, Except.bind, pure, Except.pure]
  | some b =>
    have hb : b.data.length = width := hbias b rfl
    have hcolumns : ((List.range width).map (columnSum x weights width)).length = width := by
      rw [List.length_map, List.length_range]
    have hsum := (exact exp special).addBias_vector hcolumns hb
    simp only [Option.map_some, bind, Except.bind, hsum, Block.vector, List.length_map,
      List.length_range]
    congr 2
    apply List.ext_getElem
    · simp [hb]
    · intro i hi _
      have hib : i < b.data.length := by simp at hi; omega
      simp [DenseStep.startAt, hib, exact_add, add_comm]

end Arithmetic

namespace Layer

/-- Output `i` of a layer before its activation. -/
def sumAt (A : Arithmetic ℚ) (layer : Layer) (x : List ℚ) (i : Nat) : ℚ :=
  DenseStep.startAt A (layer.bias.map fun b => b.map A.ofDatum) i +
    columnSum x (layer.weights.map A.ofDatum) layer.outputs i

/-- The outputs of a layer before its activation. -/
def sums (A : Arithmetic ℚ) (layer : Layer) (x : List ℚ) : List ℚ :=
  (List.range layer.outputs).map (layer.sumAt A x)

@[simp]
theorem length_sums (A : Arithmetic ℚ) (layer : Layer) (x : List ℚ) :
    (layer.sums A x).length = layer.outputs := by
  simp [sums]

theorem linear_exact {layer : Layer} {x : List ℚ} (hx : x.length = layer.inputs) :
    layer.linear (.exact exp special) x = .ok (layer.sums (.exact exp special) x) := by
  have hweights : (layer.weights.map (Arithmetic.exact exp special).ofDatum).length =
      x.length * layer.outputs := by
    rw [List.length_map, layer.weights_length, hx]
  have hbias : ∀ b ∈ layer.biasBlock (.exact exp special), b.size = layer.outputs := by
    intro b hb
    obtain ⟨values, hvalues, rfl⟩ := Option.mem_map.1 hb
    rw [Block.size, Block.vector, List.length_map, layer.bias_length values hvalues]
  have hdense := Arithmetic.dense_exact exp special hweights hbias
  rw [linear, matrix, ← hx, hdense, biasBlock, Option.map_map]
  rfl

end Layer

/-! ### The loops -/

namespace DenseStep

theorem sumFrom_exact (width : Nat) (x weights : List ℚ) (start : ℚ) (i : Nat) :
    sumFrom (.exact exp special) x.length width x weights start i =
      start + columnSum x weights width i := by
  have hprefix : ∀ k, (products k width i).foldl
      (fun sum p => sum + x.getD p.1 0 * weights.getD p.2 0) start =
        start + ∑ j ∈ Finset.range k, x.getD j 0 * weights.getD (j * width + i) 0 := by
    intro k
    induction k with
    | zero => simp [products]
    | succ k ih =>
      rw [products, List.range_succ, List.map_append, List.foldl_append, ← products, ih,
        Finset.sum_range_succ]
      simp [add_assoc]
  exact hprefix x.length

/-- The loop of a layer's step sums up what the layer does. -/
theorem sumFrom_layer {layer : Layer} {x : List ℚ} (hx : x.length = layer.inputs) (i : Nat) :
    sumFrom (.exact exp special) layer.inputs layer.outputs x
        (layer.weights.map (Arithmetic.exact exp special).ofDatum)
        (startAt (.exact exp special)
          (layer.bias.map fun b => b.map (Arithmetic.exact exp special).ofDatum) i) i =
      layer.sumAt (.exact exp special) x i := by
  rw [← hx, sumFrom_exact]
  rfl

end DenseStep

/-- The scan for the largest value finds the maximum, so the softmax of the loops is that of the
    reference. -/
theorem SoftmaxStep.softmax_exact (first : ℚ) (rest : List ℚ) :
    (Arithmetic.exact exp special).softmax (first :: rest) =
      .ok (parts (.exact exp special) first rest) := by
  have hlarger : ∀ top value, larger (.exact exp special) top value = max top value := by
    intro top value
    simp only [larger, Arithmetic.exact, decide_eq_true_eq]
    exact (max_def_lt top value).symm
  have htop : rest.foldl (larger (.exact exp special)) first =
      (Arithmetic.exact exp special).maximum first rest :=
    congrArg (fun step => rest.foldl step first) (funext₂ hlarger)
  simp only [Arithmetic.softmax, parts, htop, Arithmetic.sum, List.foldl_map, List.map_map]
  rfl

end DenseSketch
