import DenseSketch.Proofs.ForwardPass.Exact

/-!
# Flat weights

A dense layer takes its weights as a matrix or flat.  Flat weights are cut into as many rows as the
vector has values, so their count has to be a multiple of this; position `j * columns + i`, which
is the one that the loops of a sketch read, then holds row `j` of column `i`.
-/

namespace DenseSketch

variable {α : Type}

namespace Arithmetic

/-- Flat weights make a matrix when their count is a multiple of the rows. -/
theorem asMatrix_vector {count : Nat} (hcount : 0 < count) (w : List α) :
    asMatrix count (.vector w) =
      if count ∣ w.length then .ok ⟨[count, w.length / count], w⟩ else .error .badValue := by
  simp only [asMatrix, Block.vector, Block.size, Nat.dvd_iff_mod_eq_zero]
  by_cases hmod : w.length % count = 0 <;> simp [hmod, Nat.ne_of_gt hcount]

variable (A : Arithmetic α) {x : Block α} {w : List α} {bias : Option (Block α)}

/-- In any arithmetic flat weights do what the matrix does that they are cut into. -/
theorem dense_vector_of_dvd (hx : 0 < x.size) (hdvd : x.size ∣ w.length) :
    A.dense x (.vector w) bias = A.dense x ⟨[x.size, w.length / x.size], w⟩ bias := by
  have hflat : asMatrix x.size (.vector w) = asMatrix x.size ⟨[x.size, w.length / x.size], w⟩ := by
    rw [asMatrix_vector hx, if_pos hdvd]
    rfl
  rw [dense, dense, product, product, hflat]

theorem dense_vector_of_not_dvd (hx : 0 < x.size) (hdvd : ¬ x.size ∣ w.length) :
    A.dense x (.vector w) bias = .error .badValue := by
  rw [dense, product, asMatrix_vector hx, if_neg hdvd]
  rfl

theorem dense_of_rows_ne {rows columns : Nat} (hrows : rows ≠ x.size) :
    A.dense x ⟨[rows, columns], w⟩ bias = .error (.vector (.rows x.size rows)) := by
  have hproduct : A.product (.vector x.data) ⟨[rows, columns], w⟩ =
      .error (.vector (.rows x.size rows)) := A.product_of_length_ne hrows.symm
  rw [show A.dense x ⟨[rows, columns], w⟩ bias = A.dense (.vector x.data) ⟨[rows, columns], w⟩ bias
    from rfl, dense, hproduct]
  rfl

/-- A vector that is not empty goes through flat weights exactly when their count is a multiple of
    its own.  Each output is then its bias and the sum of the products with every `columns`-th
    weight, as for the matrix that holds the weights row by row.  A matrix with another number of
    rows is refused for its value. -/
theorem dense_flat_weights (exp : ℚ → ℚ) (special : Datum → ℚ) {x : Block ℚ} {w : List ℚ}
    {bias : Option (Block ℚ)} (hx : 0 < x.size)
    (hbias : x.size ∣ w.length → ∀ b ∈ bias, b.size = w.length / x.size) :
    let dense := (exact exp special).dense x
    let columns := w.length / x.size
    ((∃ y, dense (.vector w) bias = .ok y) ↔ x.size ∣ w.length) ∧
    (x.size ∣ w.length →
      dense (.vector w) bias = .ok (.vector ((List.range columns).map fun i =>
        bias.elim 0 (·.data.getD i 0) +
          ∑ j ∈ Finset.range x.size, x.data.getD j 0 * w.getD (j * columns + i) 0)) ∧
      dense (.vector w) bias = dense ⟨[x.size, columns], w⟩ bias) ∧
    ∀ rows columns (weights : List ℚ), rows ≠ x.size →
      ∃ fault, dense ⟨[rows, columns], weights⟩ bias = .error fault ∧ fault.isValueFault := by
  have hflat : x.size ∣ w.length → (exact exp special).dense x (.vector w) bias =
      (exact exp special).dense x ⟨[x.size, w.length / x.size], w⟩ bias :=
    (exact exp special).dense_vector_of_dvd hx
  have hmatrix : x.size ∣ w.length →
      (exact exp special).dense x ⟨[x.size, w.length / x.size], w⟩ bias =
        .ok (.vector ((List.range (w.length / x.size)).map fun i =>
          DenseStep.startAt (exact exp special) (bias.map Block.data) i +
            columnSum x.data w (w.length / x.size) i)) := by
    intro hdvd
    exact dense_exact exp special (Nat.mul_div_cancel' hdvd).symm (hbias hdvd)
  refine ⟨⟨?_, ?_⟩, ?_, ?_⟩
  · rintro ⟨y, hy⟩
    by_contra hdvd
    rw [(exact exp special).dense_vector_of_not_dvd hx hdvd] at hy
    cases hy
  · intro hdvd
    exact ⟨_, (hflat hdvd).trans (hmatrix hdvd)⟩
  · intro hdvd
    refine ⟨?_, hflat hdvd⟩
    rw [hflat hdvd, hmatrix hdvd]
    cases bias <;> rfl
  · intro rows columns weights hrows
    exact ⟨_, (exact exp special).dense_of_rows_ne hrows, rfl⟩

theorem dense_flat_weights_two_inputs :
    0 < (Block.vector ([1, -2] : List ℚ)).size ∧
    (Arithmetic.exact id fun _ => 0).dense (.vector [1, -2]) (.vector [1, 2, 3, 4, 5, 6])
        (some (.vector [10, 20, 30])) =
      .ok (.vector [3, 12, 21]) := by
  obtain ⟨-, hsums, -⟩ := @dense_flat_weights id (fun _ => 0) (.vector [1, -2])
    [1, 2, 3, 4, 5, 6] (some (.vector [10, 20, 30])) Nat.two_pos (by rintro - b ⟨⟩; rfl)
  exact ⟨Nat.two_pos, (hsums (by decide)).1.trans (by decide +kernel)⟩

end Arithmetic

end DenseSketch
