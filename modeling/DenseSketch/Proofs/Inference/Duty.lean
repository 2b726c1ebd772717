import DenseSketch.Inference.Reference
import DenseSketch.Proofs.Message.Regression
import DenseSketch.Proofs.Network.Chain
import DenseSketch.Proofs.Number.Nearest
import DenseSketch.Proofs.Sample

/-!
# Duty cycles of the host

For a value of single precision the double arithmetic of a duty cycle is exact up to the sum with
one half, and cutting off the fraction of that sum is taking the floor of the exact one.  For every
other value both operations round, but neither passes 255 or turns the order of two values around.
The exact duty cycle is `round(clamp(output, 0, 1) * 255)` of SPEC_FULL, section 4.2.
-/

namespace DenseSketch

open Format

/-! ### The sum whose integer part is the duty cycle -/

/-- The double whose integer part is the duty cycle. -/
def dutySum (v : Datum) : Datum :=
  binary64.add (binary64.mul v.clampUnit (binary64.ofInt 255)) (.finite false 1 (-1))

/-- No number of this size overflows. -/
theorem lt_range_of_le {q : ℚ} (hle : q ≤ 256) : q < 2 ^ (1023 : ℤ) :=
  calc q ≤ 256 := hle
    _ < 2 ^ (9 : ℤ) := by norm_num
    _ ≤ 2 ^ (1023 : ℤ) := zpow_le_zpow_right₀ one_le_two (by decide)

theorem toRat_product_le {num den : ℕ} {v : Datum} (hden : 0 < den)
    (hexact : (num : ℚ) / den = 255 * v.unitValue) :
    (binary64.nearest false num den).toRat ≤ 255 := by
  have hle : (num : ℚ) / den ≤ (255 : ℕ) / (1 : ℕ) := by
    have hone := v.unitValue_le_one
    push_cast
    linarith
  have hlast : (binary64.nearest false 255 1).toRat = 255 := by
    have hexact : binary64.nearest false 255 1 = .finite false 255 0 := by decide
    norm_num [hexact, Datum.toRat]
  rw [← hlast]
  exact toRat_nearest_mono hden Nat.one_pos hle (lt_range_of_le (by norm_num))

/-- The sum is what two roundings make of the exact one. -/
theorem exists_dutySum_eq (v : Datum) :
    ∃ num den num' den' : ℕ, 0 < den ∧ 0 < den' ∧ (num : ℚ) / den = 255 * v.unitValue ∧
      (num' : ℚ) / den' = (binary64.nearest false num den).toRat + 1 / 2 ∧
      (num' : ℚ) / den' < 2 ^ (1023 : ℤ) ∧ dutySum v = binary64.nearest false num' den' := by
  have hfactor : binary64.ofInt 255 = .finite false 255 0 := by decide
  obtain ⟨m, e, hclamp, hmagnitude⟩ := v.exists_clampUnit_eq
  obtain ⟨num, den, hden, hquotient, hproduct⟩ := binary64.exists_mul_eq m e 255 0
  have hexact : (num : ℚ) / den = 255 * v.unitValue := by
    rw [hquotient, hmagnitude, zpow_zero]
    push_cast
    ring
  have hone := v.unitValue_le_one
  have hproductLe := toRat_product_le hden hexact
  obtain ⟨k, g, hfinite⟩ := exists_eq_of_isFinite num hden
    (isNearest_binary64 num hden (lt_range_of_le (by linarith))).isFinite
  obtain ⟨num', den', hden', hquotient', hsum⟩ := binary64.exists_add_eq k g 1 (-1)
  have hexact' : (num' : ℚ) / den' = (binary64.nearest false num den).toRat + 1 / 2 := by
    rw [hquotient', hfinite]
    norm_num [Datum.toRat]
  refine ⟨num, den, num', den', hden, hden', hexact, hexact',
    lt_range_of_le (by linarith), ?_⟩
  rw [dutySum, hclamp, hfactor, hproduct, hfinite, hsum]

/-- The duty cycle is found for every value: the sum is finite and has no sign. -/
theorem truncate?_dutySum (v : Datum) : (dutySum v).truncate? = some ⌊(dutySum v).toRat⌋ := by
  obtain ⟨_, _, num, den, -, hden, -, -, hsmall, hsum⟩ := exists_dutySum_eq v
  obtain ⟨m, e, hfinite⟩ :=
    exists_eq_of_isFinite num hden (isNearest_binary64 num hden hsmall).isFinite
  rw [hsum, hfinite, Datum.truncate?_eq_floor]
  norm_num [Datum.toRat]

theorem pwmDuty_eq_floor_dutySum (v : Datum) : pwmDuty v = ⌊(dutySum v).toRat⌋ :=
  congrArg (Option.getD · 0) (truncate?_dutySum v)

/-! ### Single precision -/

/-- What a value of single precision is moved to has a short mantissa. -/
theorem Datum.exists_unitValue_eq {v : Datum} (hsingle : binary32.Holds v) :
    ∃ (n : ℕ) (u : ℤ), n < 2 ^ 24 ∧ -149 ≤ u ∧ u < 0 ∧ v.unitValue = n * 2 ^ u := by
  have hzero : ∃ (n : ℕ) (u : ℤ), n < 2 ^ 24 ∧ -149 ≤ u ∧ u < 0 ∧ (0 : ℚ) = n * 2 ^ u :=
    ⟨0, -1, by decide, by decide, by decide, by simp⟩
  have hone : ∃ (n : ℕ) (u : ℤ), n < 2 ^ 24 ∧ -149 ≤ u ∧ u < 0 ∧ (1 : ℚ) = n * 2 ^ u :=
    ⟨2, -1, by decide, by decide, by decide, by norm_num⟩
  rcases hsingle with _ | s | ⟨s, hmantissa, hmin, -⟩
  · exact hzero
  · cases s with
    | true => exact hzero
    | false => exact hone
  · next n u =>
    have hvalue := unitValue_of_isFinite (isFinite_ofDyadic s n u)
    rw [toRat_ofDyadic] at hvalue
    have hnonneg : (0 : ℚ) ≤ n * 2 ^ u := by positivity
    rw [hvalue]
    cases s with
    | true =>
      have hlow : min 1 (-1 * ((n : ℚ) * 2 ^ u)) ≤ 0 := (min_le_right ..).trans (by linarith)
      simpa only [if_true, max_eq_left hlow] using hzero
    | false =>
      simp only [Bool.false_eq_true, if_false, one_mul]
      rcases le_or_gt 1 ((n : ℚ) * 2 ^ u) with hlarge | hsmall
      · rw [min_eq_left hlarge, max_eq_right zero_le_one]
        exact hone
      · rw [min_eq_right hsmall.le, max_eq_right hnonneg]
        rcases Nat.eq_zero_or_pos n with rfl | hn
        · simpa using hzero
        · refine ⟨n, u, hmantissa, hmin, ?_, rfl⟩
          -- From one on a positive mantissa would reach one.
          by_contra hu
          have hpow : (1 : ℚ) ≤ 2 ^ u := one_le_zpow₀ one_le_two (not_lt.1 hu)
          have hn' : (1 : ℚ) ≤ n := by exact_mod_cast hn
          exact hsmall.not_ge (one_le_mul_of_one_le_of_one_le hn' hpow)

/-- The product with 255 is exact. -/
theorem toRat_product_eq {num den n : ℕ} {u : ℤ} (hden : 0 < den) (hn : n < 2 ^ 24)
    (hmin : -149 ≤ u) (hu : u < 0) (hquotient : (num : ℚ) / den = 255 * (n * 2 ^ u)) :
    (binary64.nearest false num den).toRat = 255 * n * 2 ^ u := by
  have hexact : (num : ℚ) / den = (255 * n : ℕ) * 2 ^ u := by
    rw [hquotient]
    push_cast
    ring
  have hlarge : 255 * n < 2 ^ binary64.precision := lt_trans (by omega : _ < 2 ^ 32) (by decide)
  rw [nearest_of_holds false hlarge (by simp only [binary64]; omega)
    (by simp only [binary64]; omega) hden hexact, Datum.toRat_ofDyadic]
  simp

/-- A sum with one half is exact, unless so little is added to the half that its floor is zero. -/
theorem floor_nearest_eq {num den n : ℕ} {u : ℤ} (hden : 0 < den) (hn : n < 2 ^ 24)
    (hmin : -149 ≤ u) (hu : u < 0) (hquotient : (num : ℚ) / den = 255 * n * 2 ^ u + 1 / 2) :
    ⌊(binary64.nearest false num den).toRat⌋ = ⌊(num : ℚ) / den⌋ := by
  rcases le_or_gt (-53) u with hcoarse | hfine
  · have hpow : (2 : ℚ) ^ (-1 - u).toNat * 2 ^ u = 1 / 2 := by
      rw [← zpow_natCast, Int.toNat_of_nonneg (by omega), ← zpow_add₀ two_ne_zero]
      norm_num
    have hexact : (num : ℚ) / den = (255 * n + 2 ^ (-1 - u).toNat : ℕ) * 2 ^ u := by
      push_cast
      rw [hquotient, add_mul, hpow]
    have hhalf : 2 ^ (-1 - u).toNat ≤ 2 ^ 52 := Nat.pow_le_pow_right (by decide) (by omega)
    have hlarge : 255 * n + 2 ^ (-1 - u).toNat < 2 ^ binary64.precision := by
      have hprecision : 2 ^ binary64.precision = 2 ^ 52 + 2 ^ 52 := by decide
      omega
    rw [nearest_of_holds false hlarge (by simp only [binary64]; omega)
      (by simp only [binary64]; omega) hden hexact, Datum.toRat_ofDyadic, hexact]
    simp
  · have hsmall : 255 * (n : ℚ) * 2 ^ u ≤ 1 / 4 := by
      have hpow : (2 : ℚ) ^ u ≤ 2 ^ (-54 : ℤ) := zpow_le_zpow_right₀ one_le_two (by omega)
      have hmantissa : (n : ℚ) ≤ 2 ^ 24 := by exact_mod_cast hn.le
      calc 255 * (n : ℚ) * 2 ^ u ≤ 255 * 2 ^ 24 * 2 ^ (-54 : ℤ) := by gcongr
        _ ≤ 1 / 4 := by norm_num
    have hnonneg : (0 : ℚ) ≤ 255 * n * 2 ^ u := by positivity
    have hnear := isNearest_binary64 num hden
      (lt_of_le_of_lt (by linarith : (num : ℚ) / den ≤ 1) (one_lt_zpow₀ one_lt_two (by decide)))
    have hhalf : (Datum.finite false 1 (-1)).toRat = 1 / 2 := by norm_num [Datum.toRat]
    have hnext : (Datum.finite false 3 (-2)).toRat = 3 / 4 := by norm_num [Datum.toRat]
    have hlow := hnear.le_toRat (by decide : binary64.Holds (.finite false 1 (-1))) rfl
      (by linarith)
    have hhigh := hnear.toRat_le (by decide : binary64.Holds (.finite false 3 (-2))) rfl
      (by linarith)
    have hfloor : ∀ x : ℚ, 0 ≤ x → x < 1 → ⌊x⌋ = 0 :=
      fun _ hlow hhigh => Int.floor_eq_zero_iff.2 ⟨hlow, hhigh⟩
    rw [hfloor _ (by linarith) (by linarith), hfloor _ (by linarith) (by linarith)]

/-- The duty cycle of a value of single precision is the exact product, rounded with halves up. -/
theorem pwmDuty_eq_floor {v : Datum} (hsingle : binary32.Holds v) :
    pwmDuty v = ⌊255 * v.unitValue + 1 / 2⌋ := by
  obtain ⟨n, u, hn, hmin, hu, hunit⟩ := Datum.exists_unitValue_eq hsingle
  obtain ⟨num, den, num', den', hden, hden', hexact, hexact', -, hsum⟩ := exists_dutySum_eq v
  rw [hunit] at hexact
  rw [toRat_product_eq hden hn hmin hu hexact] at hexact'
  rw [pwmDuty_eq_floor_dutySum, hsum, floor_nearest_eq hden' hn hmin hu hexact', hexact', hunit,
    mul_assoc]

/-! ### Order -/

/-- Neither rounding turns the order around. -/
theorem toRat_dutySum_mono {v w : Datum} (hle : v.unitValue ≤ w.unitValue) :
    (dutySum v).toRat ≤ (dutySum w).toRat := by
  obtain ⟨num, den, num', den', hden, hden', hexact, hexact', -, hsum⟩ := exists_dutySum_eq v
  obtain ⟨high, base, high', base', hbase, hbase', hhigh, hhigh', hsmall, hsum'⟩ :=
    exists_dutySum_eq w
  have hproducts : (binary64.nearest false num den).toRat ≤
      (binary64.nearest false high base).toRat := by
    have hone := w.unitValue_le_one
    exact toRat_nearest_mono hden hbase (by linarith) (lt_range_of_le (by linarith))
  rw [hsum, hsum']
  exact toRat_nearest_mono hden' hbase' (by linarith) hsmall

theorem Datum.unitValue_mono {v w : Datum} (hle : v.le w) : v.unitValue ≤ w.unitValue := by
  match v, w with
  | .nan, _ => exact unitValue_nonneg _
  | .infinite true, _ => exact unitValue_nonneg _
  | .infinite false, .nan => cases hle
  | .infinite false, .infinite true => cases hle
  | .infinite false, .infinite false => exact le_rfl
  | .infinite false, .finite .. => cases hle
  | .finite .., .nan => cases hle
  | .finite .., .infinite true => cases hle
  | .finite .., .infinite false => exact unitValue_le_one _
  | .finite s m e, .finite t n g =>
    have hvalues := (le_iff (a := .finite s m e) (b := .finite t n g) rfl rfl).1 hle
    exact max_le_max le_rfl (min_le_min le_rfl hvalues)

theorem pwmDuty_mono {v w : Datum} (hle : v.unitValue ≤ w.unitValue) : pwmDuty v ≤ pwmDuty w := by
  rw [pwmDuty_eq_floor_dutySum, pwmDuty_eq_floor_dutySum]
  exact Int.floor_le_floor (toRat_dutySum_mono hle)

/-- So every duty cycle lies between those of zero and one. -/
theorem pwmDuty_mem_range (v : Datum) : 0 ≤ pwmDuty v ∧ pwmDuty v ≤ 255 := by
  constructor
  · have hzero : pwmDuty .zero = 0 := by decide
    rw [← hzero]
    refine pwmDuty_mono ?_
    simpa [Datum.zero, Datum.unitValue, Datum.toRat] using v.unitValue_nonneg
  · have hone : pwmDuty .one = 255 := by decide
    rw [← hone]
    refine pwmDuty_mono ?_
    simpa [Datum.one, Datum.unitValue, Datum.toRat] using v.unitValue_le_one

/-! ### Predictions -/

/-- What the logistic function yields is in single precision. -/
theorem Arithmetic.holds_sigmoid (x : Datum) :
    Format.binary32.Holds (Arithmetic.binary32.sigmoid x) :=
  holds_div (by decide) (by decide) (by decide) ..

/-- The outputs of a regressor are values of the logistic function. -/
theorem Network.holds_of_forward_eq_ok {net : Network} {x y : List Datum}
    (hforward : net.forward Arithmetic.binary32 .regression x = .ok y) :
    ∀ v ∈ y, Format.binary32.Holds v := by
  rw [Network.forward] at hforward
  split at hforward
  · cases hforward
  · obtain ⟨sums, -, hactivate⟩ := bind_eq_ok.1 hforward
    cases hactivate
    intro v hv
    obtain ⟨x, -, rfl⟩ := List.mem_map.1 hv
    exact Arithmetic.holds_sigmoid x

/-- A regressor predicts the duty cycles of its outputs, and these are in single precision. -/
theorem duties_of_predict_eq_ok {net : Network} {m : Metadata} {x : List Datum} {p : Prediction}
    (hvariant : m.variant = .regression) (hpredict : predict net m x = .ok p) :
    p.duties = p.outputs.map pwmDuty ∧ ∀ v ∈ p.outputs, Format.binary32.Holds v := by
  rw [predict, hvariant] at hpredict
  obtain ⟨outputs, hforward, hrest⟩ := bind_eq_ok.1 hpredict
  obtain ⟨message, -, hresult⟩ := bind_eq_ok.1 hrest
  cases hresult
  exact ⟨rfl, Network.holds_of_forward_eq_ok hforward⟩

theorem exists_predict_eq_ok {net : Network} {m : Metadata} {x : List Datum}
    (hvariant : m.variant = .regression) (hchain : net.checkChain = .ok ())
    (hx : x.length = net.inputs) :
    ∃ p, predict net m x = .ok p ∧ p.outputs.length = net.outputs := by
  obtain ⟨y, hforward, hlength⟩ :=
    net.exists_forward_eq_ok Arithmetic.binary32 .regression hchain hx
  have hne : y ≠ [] := List.ne_nil_of_length_pos (hlength ▸ net.outputs_pos)
  refine ⟨⟨y, Message.regressionBody y ++ "\n", none, y.map pwmDuty⟩, ?_, hlength⟩
  rw [predict, hvariant]
  exact bind_eq_ok.2 ⟨y, hforward, bind_eq_ok.2 ⟨_, Message.frameRegression_eq_ok hne, rfl⟩⟩

/-- **Duty cycles are exact, bounded and monotone.**  A value of single precision has the duty cycle
    that exact numbers give, whatever it is, and what is no number counts as zero.  Every double has
    a duty cycle between 0 and 255, and a larger one never has a smaller duty cycle.  So a regressor
    predicts one such duty cycle for each output, the exact one, and it predicts for every window of
    the right length. -/
theorem pwmDuty_exact_bounded_mono :
    (∀ v, Format.binary32.Holds v →
      (dutySum v).truncate? = some (pwmDuty v) ∧ pwmDuty v = ⌊255 * v.unitValue + 1 / 2⌋) ∧
    (∀ v, (dutySum v).truncate? = some (pwmDuty v) ∧ 0 ≤ pwmDuty v ∧ pwmDuty v ≤ 255) ∧
    (∀ v w : Datum, v.le w → pwmDuty v ≤ pwmDuty w) ∧
    (∀ (net : Network) (m : Metadata) (x : List Datum) (p : Prediction),
      m.variant = .regression → predict net m x = .ok p →
        p.duties = p.outputs.map (fun v => ⌊255 * v.unitValue + 1 / 2⌋) ∧
        ∀ d ∈ p.duties, 0 ≤ d ∧ d ≤ 255) ∧
    ∀ (net : Network) (m : Metadata) (x : List Datum),
      m.variant = .regression → net.checkChain = .ok () → x.length = net.inputs →
        ∃ p, predict net m x = .ok p ∧ p.duties.length = net.outputs := by
  have hfound (v : Datum) : (dutySum v).truncate? = some (pwmDuty v) := by
    rw [truncate?_dutySum, pwmDuty_eq_floor_dutySum]
  refine ⟨fun v hsingle => ⟨hfound v, pwmDuty_eq_floor hsingle⟩,
    fun v => ⟨hfound v, pwmDuty_mem_range v⟩, fun v w hle => pwmDuty_mono (Datum.unitValue_mono hle),
    ?_, ?_⟩
  · intro net m x p hvariant hpredict
    obtain ⟨hduties, hsingle⟩ := duties_of_predict_eq_ok hvariant hpredict
    rw [hduties]
    refine ⟨List.map_congr_left fun v hv => pwmDuty_eq_floor (hsingle v hv), fun d hd => ?_⟩
    obtain ⟨v, -, rfl⟩ := List.mem_map.1 hd
    exact pwmDuty_mem_range v
  · intro net m x hvariant hchain hx
    obtain ⟨p, hpredict, hlength⟩ := exists_predict_eq_ok hvariant hchain hx
    refine ⟨p, hpredict, ?_⟩
    rw [(duties_of_predict_eq_ok hvariant hpredict).1, List.length_map, hlength]

/-- A half in single precision, a tenth below it, and a regressor with two outputs. -/
theorem pwmDuty_exact_bounded_mono_sample :
    pwmDuty (.finite false 1 (-1)) = ⌊255 * (1 / 2 : ℚ) + 1 / 2⌋ ∧
    pwmDuty (.finite false 13421773 (-27)) ≤ pwmDuty (.finite false 1 (-1)) ∧
    ∃ p, predict .sample Project.regressor.metadata Datum.sampleFrame = .ok p ∧
      p.duties.length = 2 ∧ ∀ d ∈ p.duties, 0 ≤ d ∧ d ≤ 255 := by
  obtain ⟨hexact, -, hmono, hpredicted, hpredicts⟩ := pwmDuty_exact_bounded_mono
  obtain ⟨p, hpredict, hlength⟩ :=
    hpredicts .sample Project.regressor.metadata Datum.sampleFrame rfl (by decide) rfl
  have hhalf := (hexact (.finite false 1 (-1)) (by decide)).2
  refine ⟨?_, hmono _ _ (by decide), p, hpredict, hlength, ?_⟩
  · rw [hhalf, Datum.unitValue_eq_toRat rfl (by norm_num [Datum.toRat]) (by norm_num [Datum.toRat])]
    norm_num [Datum.toRat]
  · exact (hpredicted .sample Project.regressor.metadata Datum.sampleFrame p rfl hpredict).2

end DenseSketch
