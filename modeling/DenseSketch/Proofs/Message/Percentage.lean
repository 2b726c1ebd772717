import DenseSketch.Message.Frame
import DenseSketch.Proofs.Number.Nearest

/-!
# Percentages

The product of a probability with one hundred is rounded once, to single precision on the board and
to double precision on the host, and is then written as a number of hundredths.
-/

namespace DenseSketch

/-- A datum of the unit interval with a positive sign. -/
theorem Datum.exists_of_le_one {p : Datum} (hsign : p.isNegative = false) (hp : p.le .one) :
    ∃ m e, p = .finite false m e ∧ (m : ℚ) * 2 ^ e ≤ 1 := by
  cases p with
  | nan => cases hp
  | infinite s =>
    cases s with
    | true => cases hsign
    | false => cases hp
  | finite s m e =>
    obtain rfl : s = false := hsign
    refine ⟨m, e, rfl, ?_⟩
    rw [le_iff rfl rfl, toRat_one] at hp
    simpa [toRat] using hp

namespace Message

theorem hundred_eq : hundred = .finite false 25 2 := by decide

@[simp]
theorem toRat_hundred : hundred.toRat = 100 := by norm_num [hundred_eq, Datum.toRat]

end Message

namespace Format

open Message

/-- A format in whose range the numbers up to one hundred lie. -/
structure TakesPercentages (f : Format) : Prop where
  precision_pos : 0 < f.precision
  minExponent_le : f.minExponent ≤ 0
  le_maxExponent : 0 ≤ f.maxExponent
  minExponent_lt : f.minExponent < f.maxExponent
  minExponent_add_le : f.minExponent + f.precision ≤ 7
  le_maxExponent_add : 7 ≤ f.maxExponent + (f.precision - 1 : ℕ)
  holds_hundred : f.Holds hundred

theorem takesPercentages_binary32 : binary32.TakesPercentages := by
  constructor
  all_goals decide

theorem takesPercentages_binary64 : binary64.TakesPercentages := by
  constructor
  all_goals decide

end Format

namespace Message

section Percentages

variable {f : Format} {p : Datum}

/-- The percentage of a probability is what is computed for the exact product. -/
theorem exists_percentage_eq (f : Format) (hsign : p.isNegative = false) (hp : p.le .one) :
    ∃ num den : ℕ, 0 < den ∧ (num : ℚ) / den = 100 * p.toRat ∧
      f.mul p hundred = f.nearest false num den := by
  obtain ⟨m, e, rfl, -⟩ := Datum.exists_of_le_one hsign hp
  obtain ⟨num, den, hden, hquotient, hproduct⟩ := f.exists_mul_eq m e 25 2
  refine ⟨num, den, hden, ?_, by rw [hundred_eq, hproduct]⟩
  rw [hquotient, Datum.toRat]
  norm_num
  ring

theorem hundred_mul_toRat_le (hsign : p.isNegative = false) (hp : p.le .one) :
    100 * p.toRat ≤ 100 := by
  obtain ⟨m, e, rfl, hle⟩ := Datum.exists_of_le_one hsign hp
  have hvalue : (Datum.finite false m e).toRat = m * 2 ^ e := by simp [Datum.toRat]
  rw [hvalue]
  linarith

/-- A percentage is nearest to the exact product. -/
theorem isNearest_percentage (hf : f.TakesPercentages) (hsign : p.isNegative = false)
    (hp : p.le .one) : f.IsNearest (100 * p.toRat) (f.mul p hundred) := by
  obtain ⟨num, den, hden, hvalue, hproduct⟩ := exists_percentage_eq f hsign hp
  have hsmall : (num : ℚ) / den < 2 ^ (f.maxExponent + (f.precision - 1 : ℕ)) := by
    rw [hvalue]
    calc 100 * p.toRat ≤ 100 := hundred_mul_toRat_le hsign hp
      _ < 2 ^ (7 : ℤ) := by norm_num
      _ ≤ 2 ^ (f.maxExponent + (f.precision - 1 : ℕ)) :=
        zpow_le_zpow_right₀ one_le_two hf.le_maxExponent_add
  rw [hproduct, ← hvalue]
  exact Format.isNearest_of_lt num hden hf.precision_pos hf.minExponent_le hf.le_maxExponent
    hf.minExponent_lt hsmall

/-- It is off by at most half a unit of the last place of one hundred. -/
theorem abs_percentage_sub_le (hf : f.TakesPercentages) (hsign : p.isNegative = false)
    (hp : p.le .one) :
    |(f.mul p hundred).toRat - 100 * p.toRat| ≤ 2 ^ (6 - f.precision : ℤ) := by
  obtain ⟨num, den, hden, hvalue, hproduct⟩ := exists_percentage_eq f hsign hp
  have hsmall : (num : ℚ) / den < 2 ^ (7 : ℤ) := by
    rw [hvalue]
    exact (hundred_mul_toRat_le hsign hp).trans_lt (by norm_num)
  have herror := Format.abs_nearest_sub_le_zpow num hden hf.minExponent_lt hf.minExponent_add_le
    hf.le_maxExponent_add hsmall
  rw [hproduct, ← hvalue]
  convert herror using 2
  omega

/-- In double precision the percentage of a datum of single precision is the exact product. -/
theorem toRat_percentage (hp : Format.binary32.Holds p) (hsign : p.isNegative = false)
    (hle : p.le .one) : (Format.binary64.mul p hundred).toRat = 100 * p.toRat := by
  obtain ⟨num, den, hden, hvalue, hproduct⟩ := exists_percentage_eq .binary64 hsign hle
  rcases hp with _ | s | ⟨s, hmantissa, hmin, hmax⟩
  · cases hle
  · cases s with
    | true => cases hsign
    | false => cases hle
  · next n u =>
    rw [Datum.isNegative_ofDyadic] at hsign
    subst hsign
    simp only [Format.binary32] at hmantissa hmin hmax
    have hexact : (num : ℚ) / den = (25 * n : ℕ) * 2 ^ (u + 2) := by
      rw [hvalue, Datum.toRat_ofDyadic, zpow_add₀ two_ne_zero]
      push_cast
      norm_num
      ring
    have hlarge : 25 * n < 2 ^ Format.binary64.precision :=
      lt_trans (by omega : 25 * n < 2 ^ 29) (by decide)
    rw [hproduct, Format.nearest_of_holds false hlarge (by simp only [Format.binary64]; omega)
      (by simp only [Format.binary64]; omega) hden hexact, ← hvalue, hexact, Datum.toRat_ofDyadic]
    simp

/-- A percentage is at most one hundred, and has no sign. -/
theorem exists_percentage (hf : f.TakesPercentages) (hsign : p.isNegative = false)
    (hp : p.le .one) :
    ∃ n u, f.mul p hundred = .finite false n u ∧ (n : ℚ) * 2 ^ u ≤ 100 := by
  have hnear := isNearest_percentage hf hsign hp
  obtain ⟨num, den, hden, -, hproduct⟩ := exists_percentage_eq f hsign hp
  obtain ⟨n, u, hfinite⟩ := Format.exists_eq_of_isFinite num hden (hproduct ▸ hnear.isFinite)
  have hbound := hnear.toRat_le hf.holds_hundred (by rw [hundred_eq]; rfl)
    ((hundred_mul_toRat_le hsign hp).trans toRat_hundred.ge)
  rw [hproduct, hfinite, toRat_hundred] at hbound
  refine ⟨n, u, hproduct.trans hfinite, ?_⟩
  simpa [Datum.toRat] using hbound

/-- The confidence is written as `k` hundredths. -/
theorem exists_confidence (hf : f.TakesPercentages) (hsign : p.isNegative = false)
    (hp : p.le .one) :
    ∃ k ≤ 10000, confidenceStyle.text (f.mul p hundred) = placedText 2 k ∧
      (k : ℤ) = roundHalfEven (100 * (f.mul p hundred).toRat) := by
  obtain ⟨n, u, hpercentage, hle⟩ := exists_percentage hf hsign hp
  have hunits : (confidenceStyle.units n u : ℤ) = roundHalfEven (100 * (n * 2 ^ u)) := by
    rw [confidenceStyle, FixedStyle.units_toEven]
    norm_num
  have hvalue : (Datum.finite false n u).toRat = n * 2 ^ u := by simp [Datum.toRat]
  refine ⟨confidenceStyle.units n u, ?_, ?_, ?_⟩
  · have hbound : roundHalfEven (100 * (n * 2 ^ u)) ≤ 10000 := by
      refine roundHalfEven_le_of_le ?_
      push_cast
      linarith
    omega
  · rw [hpercentage]
    rfl
  · rw [hpercentage, hvalue, hunits]

/-- Of the data with a sign only zero is in the unit interval. -/
theorem exists_eq_of_isNegative (hsign : p.isNegative) (hlow : Datum.zero.le p) :
    ∃ e, p = .finite true 0 e := by
  cases p with
  | nan => cases hsign
  | infinite s =>
    obtain rfl : s = true := hsign
    cases hlow
  | finite s m e =>
    obtain rfl : s = true := hsign
    rw [Datum.le_iff rfl rfl, Datum.toRat_zero] at hlow
    exact ⟨e, by rw [Datum.mantissa_eq_zero hlow]⟩

theorem mul_hundred_of_isNegative (f : Format) (hsign : p.isNegative) (hlow : Datum.zero.le p) :
    f.mul p hundred = .zeroOf true := by
  obtain ⟨e, rfl⟩ := exists_eq_of_isNegative hsign hlow
  rw [hundred_eq]
  simp [Format.mul, Format.ofDyadic, Format.nearest, Datum.numerator]

theorem confidence_of_isNegative (f : Format) (hsign : p.isNegative) (hlow : Datum.zero.le p) :
    confidenceStyle.text (f.mul p hundred) = "-0.00".toList := by
  rw [mul_hundred_of_isNegative f hsign hlow]
  decide

/-- The percentage of a probability is a number. -/
theorem mul_hundred_ne_nan (hf : f.TakesPercentages) (hlow : Datum.zero.le p) (hhigh : p.le .one) :
    f.mul p hundred ≠ .nan := by
  by_cases hsign : p.isNegative
  · rw [mul_hundred_of_isNegative f hsign hlow]
    decide
  · obtain ⟨n, u, hpercentage, -⟩ := exists_percentage hf (Bool.eq_false_iff.2 hsign) hhigh
    rw [hpercentage]
    exact Datum.noConfusion

end Percentages

end Message

end DenseSketch
