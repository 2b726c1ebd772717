import DenseSketch.Proofs.Inference.Duty
import DenseSketch.Proofs.Report.Bounds
import DenseSketch.Sketch.Basic
import Mathlib.Tactic.IntervalCases

/-!
# Duty cycles of the board

The board rounds the product with 255 to single precision before it rounds to a whole number, the
host adds one half to the exact product.  From one half on the grid of single precision is so much
finer for values than for products that the last value with a product below a half can have this
half as its rounded product.  For these values the two differ, and for no others.  Both stand for
the duty cycle of SPEC_FULL, section 4.2.
-/

namespace DenseSketch.Report

open Format Sketch

/-! ### The function -/

/-- An expression of the function. -/
inductive Expression where
  | argument
  | whole (n : Nat)
  | constrain (x low high : Expression)
  | times (x y : Expression)

/-- The expression as it stands in the code. -/
def Expression.text : Expression → String
  | .argument => "value"
  | .whole n => toString n ++ ".0f"
  | .constrain x low high => "constrain(" ++ x.text ++ ", " ++ low.text ++ ", " ++ high.text ++ ")"
  | .times x y => x.text ++ " * " ++ y.text

/-- The value of the expression in single precision; constraining only compares. -/
def Expression.eval (v : Datum) : Expression → Datum
  | .argument => v
  | .whole n => .ofInt n
  | .constrain x low high =>
    if (x.eval v).lt (low.eval v) then low.eval v
    else if (high.eval v).lt (x.eval v) then high.eval v
    else x.eval v
  | .times x y => binary32.mul (x.eval v) (y.eval v)

/-- What is rounded to the duty cycle. -/
def scaled : Expression := .times (.constrain .argument (.whole 0) (.whole 1)) (.whole 255)

/-- The function of this expression. -/
def dutyCode : Code :=
  Code.block "int pwmDuty(float value)"
    (Code.line ("return (int)lroundf(" ++ scaled.text ++ ");")) ""

/-- The function is that of the sketch. -/
theorem dutyCode_suffix_dutyFunction : dutyCode <:+ dutyFunction :=
  ⟨Code.line "// Duty cycle for a value in [0, 1]: round(clamp(value, 0, 1) * 255)", rfl⟩

theorem dutyCode_infix_regressor (p : Project) (d : Draft) (s : Project.Surroundings)
    (reading : Project.FrameReading) : dutyCode <:+: Sketch.regressor p d s reading := by
  have hreport : dutyFunction <+: valueReport :=
    ((List.prefix_append ..).trans (List.prefix_append ..)).trans (List.prefix_append ..)
  exact (dutyCode_suffix_dutyFunction.isInfix.trans hreport.isInfix).trans
    (List.suffix_append ..).isInfix

/-- The whole number nearest to a finite datum, a half going away from zero. -/
def nearestWhole : Datum → Option Int
  | .finite s m e =>
    let n : Int := roundQuotient .awayFromZero (Datum.numerator m e) (Datum.denominator e)
    some (if s then -n else n)
  | _ => none

/-- The duty cycle of the board. -/
def boardDuty (v : Datum) : Option Int := nearestWhole (scaled.eval v)

theorem nearestWhole_eq_floor (m : Nat) (e : Int) :
    nearestWhole (.finite false m e) = some ⌊(m : ℚ) * 2 ^ e + 1 / 2⌋ := by
  rw [← Datum.numerator_div_denominator,
    ← roundQuotient_awayFromZero _ (Datum.denominator_pos e)]
  rfl

theorem eval_scaled (v : Datum) :
    scaled.eval v = binary32.mul (constrained v) (.finite false 255 0) := by
  have hzero : Datum.ofInt (0 : Nat) = .zero := by decide
  have hone : Datum.ofInt (1 : Nat) = .one := by decide
  have hfactor : Datum.ofInt (255 : Nat) = .finite false 255 0 := by decide
  simp only [scaled, Expression.eval, hzero, hone, hfactor, constrained]

/-- The duty cycle of a zero with a sign. -/
theorem boardDuty_of_not_isPlain {v : Datum} (hv : ¬ IsPlain v) :
    boardDuty v = some 0 ∧ v.unitValue = 0 := by
  obtain ⟨hzero, hsign⟩ : v.isZero ∧ v.isNegative := not_not.1 hv
  cases v with
  | nan => cases hzero
  | infinite s => cases hzero
  | finite s m e =>
    obtain rfl : m = 0 := by simpa [Datum.isZero] using hzero
    obtain rfl : s = true := hsign
    have hvalue : Datum.toRat (.finite true 0 e) = 0 := by simp [Datum.toRat]
    have hlow : ¬ (Datum.finite true 0 e).lt .zero := by
      rw [Datum.lt_iff rfl rfl, hvalue, Datum.toRat_zero]
      exact lt_irrefl 0
    have hhigh : ¬ Datum.one.lt (.finite true 0 e) := by
      rw [Datum.lt_iff rfl rfl, hvalue, Datum.toRat_one]
      norm_num
    have hproduct : binary32.mul (.finite true 0 e) (.finite false 255 0) = .zeroOf true := by
      simp [mul, Format.ofDyadic, nearest, Datum.numerator]
    refine ⟨?_, by simp [Datum.unitValue, hvalue]⟩
    rw [boardDuty, eval_scaled, constrained, if_neg hlow, if_neg hhigh, hproduct]
    rfl

/-- The rounded product decides. -/
theorem exists_boardDuty_eq {v : Datum} (hnumber : v ≠ .nan) :
    ∃ num den : ℕ, 0 < den ∧ (num : ℚ) / den = 255 * v.unitValue ∧
      binary32.IsNearest (255 * v.unitValue) (binary32.nearest false num den) ∧
      boardDuty v = some ⌊(binary32.nearest false num den).toRat + 1 / 2⌋ := by
  have hnear : ∀ num den : ℕ, 0 < den → (num : ℚ) / den = 255 * v.unitValue →
      binary32.IsNearest (255 * v.unitValue) (binary32.nearest false num den) := by
    intro num den hden hquotient
    rw [← hquotient]
    refine isNearest_of_lt num hden (by decide) (by decide) (by decide) (by decide) ?_
    have hunit := v.unitValue_le_one
    calc (num : ℚ) / den ≤ 255 := by rw [hquotient]; linarith
      _ < 2 ^ (binary32.maxExponent + (binary32.precision - 1 : ℕ)) := by norm_num [binary32]
  by_cases hv : IsPlain v
  · obtain ⟨m, e, hconstrained, hvalue⟩ := exists_constrained hv hnumber
    obtain ⟨num, den, hden, hquotient, hproduct⟩ := binary32.exists_mul_eq m e 255 0
    have hexact : (num : ℚ) / den = 255 * v.unitValue := by
      rw [hquotient, hvalue]
      norm_num [mul_comm]
    obtain ⟨a, b, hfinite⟩ := exists_eq_of_isFinite num hden (hnear num den hden hexact).isFinite
    refine ⟨num, den, hden, hexact, hnear num den hden hexact, ?_⟩
    rw [boardDuty, eval_scaled, hconstrained, hproduct, hfinite, nearestWhole_eq_floor]
    simp [Datum.toRat]
  · obtain ⟨hduty, hvalue⟩ := boardDuty_of_not_isPlain hv
    have hexact : ((0 : ℕ) : ℚ) / (1 : ℕ) = 255 * v.unitValue := by simp [hvalue]
    refine ⟨0, 1, one_pos, hexact, hnear 0 1 one_pos hexact, ?_⟩
    have hzero : (binary32.nearest false 0 1).toRat = 0 := by
      simp [nearest, Datum.zeroOf, Datum.toRat]
    rw [hduty, hzero]
    norm_num

/-! ### Halves -/

/-- The half behind a duty cycle is a number of single precision. -/
theorem exists_half {k : ℕ} (hk : k ≤ 255) :
    ∃ y, binary32.Holds y ∧ y.isFinite ∧ y.toRat = k + 1 / 2 := by
  have hshort : 2 * k + 1 < 2 ^ binary32.precision := lt_trans (by omega : _ < 2 ^ 10) (by decide)
  refine ⟨.ofDyadic false (2 * k + 1) (-1), .finite false hshort (by decide) (by decide),
    Datum.isFinite_ofDyadic .., ?_⟩
  rw [Datum.toRat_ofDyadic]
  push_cast
  norm_num
  ring

/-- A rounded product is rounded to the same whole number as the exact one, unless it lies on the
    half behind it. -/
theorem floor_toRat_cases {q : ℚ} {x : Datum} {k : ℕ} (hx : binary32.IsNearest q x) (hk : k ≤ 255)
    (hlow : 0 ≤ q) (hfloor : ⌊q + 1 / 2⌋ = k) :
    x.toRat = k + 1 / 2 ∧ ⌊x.toRat + 1 / 2⌋ = k + 1 ∨
      x.toRat < k + 1 / 2 ∧ ⌊x.toRat + 1 / 2⌋ = k := by
  obtain ⟨hge, hlt⟩ := Int.floor_eq_iff.1 hfloor
  rw [Int.cast_natCast] at hge hlt
  have hupper : x.toRat ≤ k + 1 / 2 := by
    obtain ⟨y, hy, hfinite, hvalue⟩ := exists_half hk
    rw [← hvalue]
    exact hx.toRat_le hy hfinite (by linarith)
  have hlower : (k : ℚ) - 1 / 2 ≤ x.toRat := by
    cases k with
    | zero =>
      have hnonneg := hx.le_toRat (by decide : binary32.Holds .zero) rfl
        (by rwa [Datum.toRat_zero])
      rw [Datum.toRat_zero] at hnonneg
      push_cast
      linarith
    | succ k =>
      obtain ⟨y, hy, hfinite, hvalue⟩ := exists_half (by omega : k ≤ 255)
      push_cast at hge ⊢
      have hbound := hx.le_toRat hy hfinite (by linarith)
      linarith
  rcases hupper.eq_or_lt with heq | hbelow
  · refine .inl ⟨heq, ?_⟩
    rw [heq, Int.floor_eq_iff]
    push_cast
    constructor <;> linarith
  · refine .inr ⟨hbelow, ?_⟩
    rw [Int.floor_eq_iff, Int.cast_natCast]
    constructor <;> linarith

/-- From one half on, the last number of single precision whose product with 255 lies below the half
    behind `k`. -/
def lastBelow (k : ℕ) : ℚ := (65793 * k + 32897) / 2 ^ 24

theorem product_lastBelow (k : ℕ) : 255 * lastBelow k = k + 1 / 2 - (k - 127) / 2 ^ 24 := by
  rw [lastBelow]
  ring

/-- A product that is rounded onto a half lies at most half a unit of the last place below it. -/
theorem le_product_of_nearest_eq {num den k : ℕ} {p : ℤ} (hden : 0 < den)
    (hbelow : (num : ℚ) / den < k + 1 / 2)
    (hhalf : (binary32.nearest false num den).toRat = k + 1 / 2)
    (hpower : (k : ℚ) + 1 / 2 ≤ 2 ^ p) (hmin : -1 ≤ p) (hmax : p ≤ 8) :
    (k : ℚ) + 1 / 2 - 2 ^ (p - 25) ≤ num / den := by
  have herror := abs_nearest_sub_le_zpow (f := binary32) (k := p) num hden (by decide)
    (by simp only [binary32]; omega) (by simp only [binary32]; omega) (hbelow.trans_le hpower)
  have hexponent : p - (binary32.precision : ℤ) - 1 = p - 25 := by
    simp only [binary32]
    omega
  rw [hexponent, hhalf] at herror
  linarith [(abs_le.1 herror).2]

/-- The scale that brings the double of a half to nine bits also bounds the half. -/
theorem half_le_zpow {k s : ℕ} (hscale : (2 * k + 1) * 2 ^ s < 2 ^ 9) :
    (k : ℚ) + 1 / 2 ≤ 2 ^ (8 - s : ℤ) := by
  have hscaled : ((2 * k + 1 : ℕ) : ℚ) * 2 ^ s < 2 ^ 9 := by exact_mod_cast hscale
  rw [zpow_sub₀ two_ne_zero, le_div_iff₀ (by positivity)]
  push_cast at hscaled
  norm_num at hscaled ⊢
  linarith

theorem exists_scale {k : ℕ} (hpos : 0 < k) (hk : k ≤ 254) :
    ∃ s < 8, 2 ^ 8 ≤ (2 * k + 1) * 2 ^ s ∧ (2 * k + 1) * 2 ^ s < 2 ^ 9 := by
  have hall : ∀ k ≤ 254, 0 < k →
      ∃ s < 8, 2 ^ 8 ≤ (2 * k + 1) * 2 ^ s ∧ (2 * k + 1) * 2 ^ s < 2 ^ 9 := by
    decide +kernel
  exact hall k hk hpos

/-- A value whose product comes that close below a half is a multiple of this unit. -/
theorem exists_mantissa {v : Datum} {k s : ℕ} {gap : ℕ} (hsingle : binary32.Holds v)
    (hscale : 2 ^ 8 ≤ (2 * k + 1) * 2 ^ s) (hgap : gap ≤ 128)
    (hclose : (k : ℚ) + 1 / 2 - gap * 2 ^ (-24 - s : ℤ) ≤ 255 * v.toRat)
    (hbelow : 255 * v.toRat < k + 1 / 2) :
    ∃ n : ℕ, v.toRat = n * 2 ^ (-24 - s : ℤ) ∧ 255 * n < (2 * k + 1) * 2 ^ (23 + s) ∧
      (2 * k + 1) * 2 ^ (23 + s) ≤ 255 * n + gap := by
  have hunit : (0 : ℚ) < 2 ^ (-24 - s : ℤ) := by positivity
  have hhalf : (k : ℚ) + 1 / 2 = ((2 * k + 1) * 2 ^ (23 + s) : ℕ) * 2 ^ (-24 - s : ℤ) := by
    have hpow : (2 : ℚ) ^ (23 + s) * 2 ^ (-24 - s : ℤ) = 1 / 2 := by
      rw [← zpow_natCast, ← zpow_add₀ two_ne_zero]
      have hexponent : ((23 + s : ℕ) : ℤ) + (-24 - s) = -1 := by omega
      rw [hexponent]
      norm_num
    push_cast
    rw [mul_assoc, hpow]
    ring
  have hscaled : (2 : ℚ) ^ 31 ≤ ((2 * k + 1) * 2 ^ (23 + s) : ℕ) := by
    have hnat : 2 ^ 31 ≤ (2 * k + 1) * 2 ^ (23 + s) := by
      calc 2 ^ 31 = 2 ^ 8 * 2 ^ 23 := by norm_num
        _ ≤ (2 * k + 1) * 2 ^ s * 2 ^ 23 := Nat.mul_le_mul_right _ hscale
        _ = (2 * k + 1) * 2 ^ (23 + s) := by ring
    exact_mod_cast hnat
  have hlarge : 2 ^ (binary32.precision - 1) * 2 ^ (-24 - s : ℤ) ≤ v.toRat := by
    have hgap' : (gap : ℚ) ≤ 128 := by exact_mod_cast hgap
    have hproduct : 255 * ((2 : ℚ) ^ 23 * 2 ^ (-24 - s : ℤ)) ≤ 255 * v.toRat := by
      refine le_trans ?_ hclose
      rw [hhalf, ← sub_mul, ← mul_assoc]
      refine mul_le_mul_of_nonneg_right ?_ hunit.le
      linarith
    exact le_of_mul_le_mul_left hproduct (by norm_num)
  obtain ⟨n, hn⟩ := hsingle.exists_toRat_eq (by decide) hlarge
  refine ⟨n, hn, ?_, ?_⟩
  · rw [hn, hhalf, ← mul_assoc] at hbelow
    exact_mod_cast lt_of_mul_lt_mul_right hbelow hunit.le
  · rw [hn, hhalf, ← sub_mul, ← mul_assoc] at hclose
    have hle := le_of_mul_le_mul_right hclose hunit
    rw [sub_le_iff_le_add] at hle
    exact_mod_cast hle

/-- Below one half no product is rounded up to a half: there the remainders of the halves by 255 are
    too large. -/
theorem not_close {k t n : ℕ} (hk : 0 < k) (hlow : 2 ^ 7 ≤ (2 * k + 1) * 2 ^ t)
    (hhigh : (2 * k + 1) * 2 ^ t < 2 ^ 8) (hbelow : 255 * n < (2 * k + 1) * 2 ^ t * 2 ^ 24) :
    255 * n + 128 < (2 * k + 1) * 2 ^ t * 2 ^ 24 := by
  by_contra hclose
  have hremainder : (2 * k + 1) * 2 ^ t = 2 ^ 7 := by
    rcases le_or_gt n (65793 * ((2 * k + 1) * 2 ^ t)) with hn | hn <;> omega
  have ht : t < 7 := by
    by_contra hlarge
    have hpow : 2 ^ 7 ≤ 2 ^ t := Nat.pow_le_pow_right two_pos (not_lt.1 hlarge)
    have hmul := Nat.mul_le_mul (by omega : 3 ≤ 2 * k + 1) hpow
    omega
  interval_cases t <;> omega

/-- Only from one half on is a product rounded up to a half, and only one product to each half. -/
theorem eq_lastBelow_of_nearest_eq {v : Datum} {num den k : ℕ} (hsingle : binary32.Holds v)
    (hden : 0 < den) (hquotient : (num : ℚ) / den = 255 * v.toRat) (hk : k ≤ 254)
    (hbelow : (num : ℚ) / den < k + 1 / 2)
    (hhalf : (binary32.nearest false num den).toRat = k + 1 / 2) :
    128 ≤ k ∧ v.toRat = lastBelow k := by
  rcases Nat.eq_zero_or_pos k with rfl | hpos
  · -- One half is a power of two, below which the grid is finer.
    have hclose := le_product_of_nearest_eq (p := -1) hden hbelow hhalf (by norm_num) (by decide)
      (by decide)
    rw [hquotient] at hbelow hclose
    have hgap : ((0 : ℕ) : ℚ) + 1 / 2 - (64 : ℕ) * 2 ^ (-24 - (8 : ℕ) : ℤ) ≤ 255 * v.toRat := by
      refine le_trans (le_of_eq ?_) hclose
      norm_num
    obtain ⟨n, -, hlow, hhigh⟩ := exists_mantissa hsingle (by decide) (by decide) hgap hbelow
    omega
  · obtain ⟨s, hs, hscale, hscale'⟩ := exists_scale hpos hk
    have hclose := le_product_of_nearest_eq hden hbelow hhalf (half_le_zpow hscale') (by omega)
      (by omega)
    rw [hquotient] at hbelow hclose
    have hgap : (k : ℚ) + 1 / 2 - (128 : ℕ) * 2 ^ (-24 - s : ℤ) ≤ 255 * v.toRat := by
      have hunit : (2 : ℚ) ^ (8 - s - 25 : ℤ) = (128 : ℕ) * 2 ^ (-24 - s : ℤ) := by
        have hexponent : (8 - s - 25 : ℤ) = 7 + (-24 - s) := by omega
        rw [hexponent, zpow_add₀ two_ne_zero]
        norm_num
      rwa [← hunit]
    obtain ⟨n, hn, hlow, hhigh⟩ := exists_mantissa hsingle hscale le_rfl hgap hbelow
    cases s with
    | zero =>
      obtain rfl : n = 65793 * k + 32897 := by omega
      refine ⟨by omega, ?_⟩
      rw [hn, lastBelow]
      push_cast
      norm_num [div_eq_mul_inv]
    | succ t =>
      have hdouble : (2 * k + 1) * 2 ^ (t + 1) = 2 * ((2 * k + 1) * 2 ^ t) := by ring
      have hshift : (2 * k + 1) * 2 ^ (23 + (t + 1)) = (2 * k + 1) * 2 ^ t * 2 ^ 24 := by ring
      rw [hdouble] at hscale hscale'
      rw [hshift] at hlow hhigh
      exact absurd hhigh (not_le.2 (not_close hpos (by omega) (by omega) hlow))

/-- These products are rounded onto the half. -/
theorem nearest_lastBelow {k : ℕ} {x : Datum} (hlow : 128 ≤ k) (hhigh : k ≤ 254)
    (hx : binary32.IsNearest (255 * lastBelow k) x) : x.toRat = k + 1 / 2 := by
  have hlow' : (128 : ℚ) ≤ k := by exact_mod_cast hlow
  have hhigh' : (k : ℚ) ≤ 254 := by exact_mod_cast hhigh
  obtain ⟨y, hy, hfinite, hvalue⟩ := exists_half (by omega : k ≤ 255)
  have hproduct := product_lastBelow k
  have hbelow : 255 * lastBelow k ≤ y.toRat := by
    rw [hproduct, hvalue]
    linarith
  have hupper : x.toRat ≤ k + 1 / 2 := hvalue ▸ hx.toRat_le hy hfinite hbelow
  have hlarge : 2 ^ (binary32.precision - 1) * 2 ^ (-16 : ℤ) ≤ x.toRat := by
    have hstart : (Datum.ofInt 128).toRat = 128 := Datum.toRat_ofInt 128
    have hbound := hx.le_toRat (by decide : binary32.Holds (.ofInt 128))
      (Datum.isFinite_ofInt 128) (by rw [hstart, hproduct]; linarith)
    rw [hstart] at hbound
    refine le_trans (le_of_eq ?_) hbound
    norm_num [binary32]
  obtain ⟨n, hn⟩ := hx.holds.exists_toRat_eq (by decide) hlarge
  -- The half is so near that no other number with this last place can be as near.
  have hnear := hx.le y hy hfinite
  rw [abs_of_nonneg (sub_nonneg.2 hbelow), hvalue, hproduct] at hnear
  have hlower := (abs_le.1 hnear).1
  have hgrid : (k : ℚ) + 1 / 2 = ((2 * k + 1) * 2 ^ 15 : ℕ) * 2 ^ (-16 : ℤ) := by
    push_cast
    norm_num
    ring
  have hmantissa : n = (2 * k + 1) * 2 ^ 15 := by
    rw [hn] at hupper hlower
    have hle : n ≤ (2 * k + 1) * 2 ^ 15 := by
      rw [hgrid] at hupper
      exact_mod_cast le_of_mul_le_mul_right hupper (by positivity)
    have hge : (2 * k + 1) * 2 ^ 15 < n + 1 := by
      have hcast : (((2 * k + 1) * 2 ^ 15 : ℕ) : ℚ) < (n + 1 : ℕ) := by
        push_cast
        norm_num at hlower ⊢
        linarith
      exact_mod_cast hcast
    omega
  rw [hn, hmantissa, ← hgrid]

theorem floor_product_lastBelow {k : ℕ} (hlow : 128 ≤ k) (hhigh : k ≤ 254) :
    ⌊255 * lastBelow k + 1 / 2⌋ = k := by
  have hlow' : (128 : ℚ) ≤ k := by exact_mod_cast hlow
  have hhigh' : (k : ℚ) ≤ 254 := by exact_mod_cast hhigh
  rw [product_lastBelow, Int.floor_eq_iff, Int.cast_natCast]
  constructor <;> linarith

/-- The numbers are of single precision. -/
theorem exists_toRat_eq_lastBelow {k : ℕ} (hhigh : k ≤ 254) :
    ∃ v, binary32.Holds v ∧ v.toRat = lastBelow k := by
  have hshort : 65793 * k + 32897 < 2 ^ binary32.precision :=
    lt_of_lt_of_le (by omega : _ < 2 ^ 24) (by decide)
  refine ⟨.ofDyadic false (65793 * k + 32897) (-24),
    .finite false hshort (by decide) (by decide), ?_⟩
  rw [Datum.toRat_ofDyadic, lastBelow]
  push_cast
  norm_num [div_eq_mul_inv]

/-! ### Board and host -/

variable {v : Datum}

/-- The exact product is rounded to a byte. -/
theorem exists_floor_eq (v : Datum) :
    ∃ k : ℕ, k ≤ 255 ∧ ⌊255 * v.unitValue + 1 / 2⌋ = k := by
  have hlow := v.unitValue_nonneg
  have hhigh := v.unitValue_le_one
  obtain ⟨k, hfloor⟩ : ∃ k : ℕ, ⌊255 * v.unitValue + 1 / 2⌋ = k :=
    Int.eq_ofNat_of_zero_le (Int.floor_nonneg.2 (by linarith))
  have hbound : (k : ℚ) < (256 : ℕ) := by
    have hge := (Int.floor_eq_iff.1 hfloor).1
    push_cast at hge ⊢
    linarith
  exact ⟨k, Nat.le_of_lt_succ (by exact_mod_cast hbound), hfloor⟩

/-- Zero is rounded to zero and 255 to itself, so neither is rounded to a half. -/
theorem range_of_toRat_eq_half {x : Datum} {k : ℕ}
    (hnear : binary32.IsNearest (255 * v.unitValue) x) (hhalf : x.toRat = k + 1 / 2) :
    0 < v.unitValue ∧ k ≤ 254 := by
  refine ⟨lt_of_le_of_ne v.unitValue_nonneg fun hzero => ?_, ?_⟩
  · have hnone := hnear.toRat_le (by decide : binary32.Holds .zero) rfl
      (by rw [← hzero, Datum.toRat_zero, mul_zero])
    rw [hhalf, Datum.toRat_zero] at hnone
    linarith [(by positivity : (0 : ℚ) ≤ k)]
  · have htop : (Datum.ofInt 255).toRat = 255 := Datum.toRat_ofInt 255
    have hmax := hnear.toRat_le (by decide : binary32.Holds (.ofInt 255))
      (Datum.isFinite_ofInt 255) (by rw [htop]; linarith [v.unitValue_le_one])
    rw [hhalf, htop] at hmax
    have hbound : (k : ℚ) < (255 : ℕ) := by
      push_cast
      linarith
    exact Nat.le_of_lt_succ (by exact_mod_cast hbound)

/-- A board that leaves the host goes one further, and only for one of these numbers. -/
theorem exists_boardDuty_cases (hsingle : binary32.Holds v) (hnumber : v ≠ .nan) :
    ∃ k : ℕ, k ≤ 255 ∧ pwmDuty v = k ∧ (boardDuty v = some (k : ℤ) ∨
      128 ≤ k ∧ k ≤ 254 ∧ v.toRat = lastBelow k ∧ boardDuty v = some (k + 1 : ℤ)) := by
  obtain ⟨num, den, hden, hquotient, hnear, hboard⟩ := exists_boardDuty_eq hnumber
  obtain ⟨k, hk, hfloor⟩ := exists_floor_eq v
  have hnonneg := v.unitValue_nonneg
  refine ⟨k, hk, (pwmDuty_eq_floor hsingle).trans hfloor, ?_⟩
  rcases floor_toRat_cases hnear hk (by linarith) hfloor with ⟨hhalf, hnext⟩ | ⟨-, hsame⟩
  · obtain ⟨hpos, hk'⟩ := range_of_toRat_eq_half hnear hhalf
    have hsmall : (k : ℚ) ≤ 254 := by exact_mod_cast hk'
    have hbelow := (Int.floor_eq_iff.1 hfloor).2
    rw [Int.cast_natCast] at hbelow
    have hvalue := Datum.toRat_eq_unitValue hpos (by linarith)
    obtain ⟨hlow, hlast⟩ := eq_lastBelow_of_nearest_eq hsingle hden (hvalue ▸ hquotient) hk'
      (by linarith) hhalf
    exact .inr ⟨hlow, hk', hlast, hboard.trans (congrArg some hnext)⟩
  · exact .inl (hboard.trans (congrArg some hsame))

/-- These numbers lie in the unit interval, and clamping leaves them alone. -/
theorem unitValue_of_toRat_eq {k : ℕ} (hhigh : k ≤ 254) (hv : v.toRat = lastBelow k) :
    v ≠ .nan ∧ v.unitValue = lastBelow k := by
  have hhigh' : (k : ℚ) ≤ 254 := by exact_mod_cast hhigh
  have hpos : 0 < lastBelow k := by
    rw [lastBelow]
    positivity
  have hle : lastBelow k ≤ 1 := by
    rw [lastBelow, div_le_one (by positivity)]
    linarith
  cases v with
  | nan => exact absurd hv hpos.ne
  | infinite s => exact absurd hv hpos.ne
  | finite s m e =>
    have hunit := Datum.unitValue_eq_toRat (v := .finite s m e) rfl (hv ▸ hpos.le) (hv ▸ hle)
    exact ⟨Datum.noConfusion, hunit.trans hv⟩

/-- For these numbers it does go one further. -/
theorem duty_of_toRat_eq {k : ℕ} (hsingle : binary32.Holds v) (hlow : 128 ≤ k) (hhigh : k ≤ 254)
    (hv : v.toRat = lastBelow k) : pwmDuty v = k ∧ boardDuty v = some (k + 1 : ℤ) := by
  obtain ⟨hnumber, hunit⟩ := unitValue_of_toRat_eq hhigh hv
  obtain ⟨num, den, -, -, hnear, hboard⟩ := exists_boardDuty_eq hnumber
  rw [hunit] at hnear
  refine ⟨?_, ?_⟩
  · rw [pwmDuty_eq_floor hsingle, hunit, floor_product_lastBelow hlow hhigh]
  · have hwhole : ⌊(k : ℚ) + 1 / 2 + 1 / 2⌋ = k + 1 := by
      rw [Int.floor_eq_iff]
      push_cast
      constructor <;> linarith
    rw [hboard, nearest_lastBelow hlow hhigh hnear, hwhole]

/-- **When board and host drive a pin alike.**  For a number of single precision the function in
    each sketch of a regressor gives a byte, and it is that of the host unless the number is one of
    127: from one half on the last whose product with 255 lies below a half.  There the rounded
    product is the half, and the board goes one further. -/
theorem boardDuty_eq_pwmDuty_iff (hsingle : binary32.Holds v) (hnumber : v ≠ .nan) :
    (∀ p d s reading, dutyCode <:+: Sketch.regressor p d s reading) ∧
      (∃ duty : ℕ, duty ≤ 255 ∧ boardDuty v = some (duty : ℤ)) ∧
      (boardDuty v = some (pwmDuty v) ↔
        ∀ k : ℕ, 128 ≤ k → k ≤ 254 → v.toRat ≠ lastBelow k) ∧
      ∀ k : ℕ, 128 ≤ k → k ≤ 254 → (∃ w, binary32.Holds w ∧ w.toRat = lastBelow k) ∧
        (v.toRat = lastBelow k → pwmDuty v = k ∧ boardDuty v = some (k + 1 : ℤ)) := by
  obtain ⟨k, hk, hhost, hcases⟩ := exists_boardDuty_cases hsingle hnumber
  refine ⟨dutyCode_infix_regressor, ?_, ?_, fun j hlow hhigh =>
    ⟨exists_toRat_eq_lastBelow hhigh, duty_of_toRat_eq hsingle hlow hhigh⟩⟩
  · rcases hcases with hsame | ⟨-, hhigh, -, hnext⟩
    · exact ⟨k, hk, hsame⟩
    · exact ⟨k + 1, by omega, hnext⟩
  · constructor
    · intro hsame j hlow hhigh hv
      obtain ⟨hhost', hnext⟩ := duty_of_toRat_eq hsingle hlow hhigh hv
      rw [hhost', hnext, Option.some.injEq] at hsame
      omega
    · intro hnone
      rcases hcases with hsame | ⟨hlow, hhigh, hv, -⟩
      · rw [hsame, hhost]
      · exact absurd hv (hnone k hlow hhigh)

/-- Both drive a tenth alike. -/
theorem boardDuty_eq_pwmDuty_iff_tenth :
    boardDuty (binary32.nearest false 1 10) = some (pwmDuty (binary32.nearest false 1 10)) := by
  obtain ⟨-, -, hiff, -⟩ := boardDuty_eq_pwmDuty_iff
    (by decide : binary32.Holds (binary32.nearest false 1 10)) (by decide)
  refine hiff.2 fun k hlow _ => ?_
  have hvalue : (binary32.nearest false 1 10).toRat < 1 / 2 := by
    have htenth : binary32.nearest false 1 10 = .finite false 13421773 (-27) := by decide
    rw [htenth, Datum.toRat]
    norm_num
  have hlow' : (128 : ℚ) ≤ k := by exact_mod_cast hlow
  have hlarge : 1 / 2 ≤ lastBelow k := by
    rw [lastBelow, le_div_iff₀ (by positivity)]
    linarith
  exact (hvalue.trans_le hlarge).ne

/-- The least of the 127 numbers: the board drives 129 and the host 128. -/
theorem boardDuty_ne_pwmDuty :
    binary32.Holds (.finite false 8454401 (-24)) ∧
      boardDuty (.finite false 8454401 (-24)) = some 129 ∧
      pwmDuty (.finite false 8454401 (-24)) = 128 := by
  refine ⟨?_, ?_, ?_⟩
  all_goals decide

end DenseSketch.Report
