import DenseSketch.Number.Shortest
import DenseSketch.Proofs.Number.Nearest

/-!
# Shortest decimals read back

The datum that a decimal stands for depends on the value of the decimal only.  The shortest decimal
of a datum stands for what the datum is rounded to, and so for the datum itself where the format
holds it.
-/

namespace DenseSketch

/-! ### The datum of a decimal -/

theorem ten_pow_le (k : Nat) : 10 ^ (k * 3 / 10) ≤ 2 ^ k := by
  refine le_of_pow_le_pow_left₀ (n := 10) (by decide) (Nat.zero_le _) ?_
  calc (10 ^ (k * 3 / 10)) ^ 10 = 10 ^ (k * 3 / 10 * 10) := (pow_mul ..).symm
    _ ≤ 10 ^ (3 * k) := Nat.pow_le_pow_right (by decide) (by omega)
    _ = (10 ^ 3) ^ k := pow_mul ..
    _ ≤ (2 ^ 10) ^ k := Nat.pow_le_pow_left (by decide) k
    _ = (2 ^ k) ^ 10 := by rw [← pow_mul, ← pow_mul, mul_comm]

theorem two_zpow_le_ten_zpow {n k : Int} (hk : 0 ≤ k) (hn : n ≤ 3 * k) : (2 : ℚ) ^ n ≤ 10 ^ k :=
  calc (2 : ℚ) ^ n ≤ 2 ^ (3 * k) := zpow_le_zpow_right₀ one_le_two hn
    _ = 8 ^ k := by
      rw [zpow_mul]
      norm_num
    _ ≤ 10 ^ k := zpow_le_zpow_left₀ hk (by norm_num) (by norm_num)

namespace Format

theorem decimal_quotient (digits : Nat) (e : Int) :
    ((digits * 10 ^ e.toNat : ℕ) : ℚ) / (10 ^ (-e).toNat : ℕ) = digits * 10 ^ e := by
  rw [zpow_eq_div (by norm_num : (10 : ℚ) ≠ 0) e]
  push_cast
  rw [mul_div_assoc]

/-- What is far above every double is infinite. -/
theorem nearest_of_large {num den : Nat} (s : Bool) (hnum : 0 < num) (hden : 0 < den)
    (hlarge : (2 : ℚ) ^ (1024 : ℤ) ≤ (num : ℚ) / den) :
    binary64.nearest s num den = .infinite s := by
  have hlog : 1024 ≤ Int.log 2 ((num : ℚ) / den) :=
    (Int.zpow_le_iff_le_log one_lt_two (by positivity)).1 (by rwa [Nat.cast_ofNat])
  have hunit := le_max_left (Int.log 2 ((num : ℚ) / den) - (binary64.precision - 1 : ℕ))
    binary64.minExponent
  rw [← unit] at hunit
  rw [nearest_eq s hnum hden, if_pos]
  refine .inl ?_
  simp only [binary64] at hunit ⊢
  omega

/-- What is far below every double is zero. -/
theorem nearest_of_small {num den : Nat} (s : Bool) (hnum : 0 < num) (hden : 0 < den)
    (hsmall : (num : ℚ) / den < 2 ^ (-1075 : ℤ)) : binary64.nearest s num den = .zeroOf s := by
  have hpos : (0 : ℚ) < num / den := by positivity
  have hlog : Int.log 2 ((num : ℚ) / den) < -1075 :=
    (Int.lt_zpow_iff_log_lt one_lt_two hpos).1 (by rwa [Nat.cast_ofNat])
  have hunit : binary64.unit ((num : ℚ) / den) = -1074 := by
    simp only [unit, binary64]
    omega
  have hmantissa : binary64.mantissa ((num : ℚ) / den) = 0 := by
    have hquotient : (num : ℚ) / den / 2 ^ (-1074 : ℤ) < 1 / 2 := by
      rw [div_lt_iff₀ (by positivity)]
      calc (num : ℚ) / den < 2 ^ (-1075 : ℤ) := hsmall
        _ = 1 / 2 * 2 ^ (-1074 : ℤ) := by
          rw [show (-1075 : ℤ) = -1 + -1074 by norm_num, zpow_add₀ two_ne_zero]
          norm_num
    have hnear := roundHalfEven_le ((num : ℚ) / den / 2 ^ (-1074 : ℤ)) 0
    have hnonneg : (0 : ℚ) ≤ (num : ℚ) / den / 2 ^ (-1074 : ℤ) := by positivity
    have hrounded := mantissa_eq (f := binary64) hpos.le
    rw [hunit] at hrounded
    rw [Int.cast_zero, sub_zero, abs_of_nonneg hnonneg, ← hrounded, Int.cast_natCast] at hnear
    by_contra hne
    have hone : (1 : ℚ) ≤ binary64.mantissa ((num : ℚ) / den) := by
      exact_mod_cast Nat.one_le_iff_ne_zero.2 hne
    rw [abs_of_nonpos (by linarith)] at hnear
    linarith
  rw [nearest_eq s hnum hden, if_neg, hmantissa]
  · rfl
  · rintro (hlarge | ⟨hlast, _⟩)
    · rw [hunit] at hlarge
      simp [binary64] at hlarge
    · rw [hunit] at hlast
      simp [binary64] at hlast

theorem le_decimal {digits : Nat} {e : Int} (hdigits : 0 < digits)
    (hlarge : 400 < e + (digits.log2 : Int) * 3 / 10) :
    (2 : ℚ) ^ (1024 : ℤ) ≤ digits * 10 ^ e := by
  have hlow : (2 : ℚ) ^ digits.log2 ≤ digits := by
    exact_mod_cast Nat.log2_self_le hdigits.ne'
  have hpower : (10 : ℚ) ^ (digits.log2 * 3 / 10) ≤ 2 ^ digits.log2 := by
    exact_mod_cast ten_pow_le digits.log2
  calc (2 : ℚ) ^ (1024 : ℤ) ≤ 10 ^ (401 : ℤ) := two_zpow_le_ten_zpow (by decide) (by decide)
    _ ≤ 10 ^ (((digits.log2 * 3 / 10 : ℕ) : ℤ) + e) :=
      zpow_le_zpow_right₀ (by norm_num) (by push_cast; omega)
    _ = 10 ^ (digits.log2 * 3 / 10) * 10 ^ e := by
      rw [zpow_add₀ (by norm_num), zpow_natCast]
    _ ≤ digits * 10 ^ e := by
      gcongr
      exact hpower.trans hlow

theorem decimal_lt {digits : Nat} {e : Int} (hsmall : e + (digits.log2 : Int) < -400) :
    (digits : ℚ) * 10 ^ e < 2 ^ (-1075 : ℤ) := by
  have hhigh : (digits : ℚ) < 2 ^ (digits.log2 + 1) := by
    exact_mod_cast Nat.lt_log2_self (n := digits)
  have hpower : (2 : ℚ) ^ digits.log2 ≤ 10 ^ digits.log2 := by gcongr; norm_num
  calc (digits : ℚ) * 10 ^ e < 2 ^ (digits.log2 + 1) * 10 ^ e := by gcongr
    _ ≤ 2 * (10 ^ digits.log2 * 10 ^ e) := by
      rw [pow_succ]
      have hscale : (0 : ℚ) < 10 ^ e := by positivity
      nlinarith
    _ = 2 * 10 ^ ((digits.log2 : ℤ) + e) := by rw [zpow_add₀ (by norm_num), zpow_natCast]
    _ ≤ 2 * 10 ^ (-401 : ℤ) := by
      gcongr
      · norm_num
      · omega
    _ ≤ 2 * 2 ^ (-1203 : ℤ) := by
      rw [zpow_neg, zpow_neg]
      gcongr
      exact two_zpow_le_ten_zpow (by decide) (by decide)
    _ = 2 ^ (-1202 : ℤ) := (zpow_one_add₀ two_ne_zero (-1203)).symm
    _ < 2 ^ (-1075 : ℤ) := zpow_lt_zpow_right₀ one_lt_two (by decide)

/-- The exponents that are answered without writing the number out get the answer that the number
    would get. -/
theorem ofDecimal_eq (s : Bool) (digits : Nat) (e : Int) :
    binary64.ofDecimal s digits e =
      binary64.nearest s (digits * 10 ^ e.toNat) (10 ^ (-e).toNat) := by
  rcases Nat.eq_zero_or_pos digits with rfl | hdigits
  · simp [ofDecimal, nearest]
  · have hvalue := decimal_quotient digits e
    have hnum : 0 < digits * 10 ^ e.toNat := by positivity
    have hden : 0 < 10 ^ (-e).toNat := by positivity
    unfold ofDecimal
    rw [if_neg hdigits.ne']
    dsimp only
    split
    · next hlarge =>
      exact (nearest_of_large s hnum hden (hvalue ▸ le_decimal hdigits hlarge)).symm
    · split
      · next hsmall => exact (nearest_of_small s hnum hden (hvalue ▸ decimal_lt hsmall)).symm
      · rfl

end Format

/-! ### The shortest decimal -/

namespace Decimal

/-- The number that a decimal stands for. -/
def value (d : Decimal) : ℚ := d.significand * 10 ^ d.exponent

theorem toDatum_eq (s : Bool) (d : Decimal) : d.toDatum .binary64 s =
    Format.binary64.nearest s (d.significand * 10 ^ d.exponent.toNat) (10 ^ (-d.exponent).toNat) :=
  Format.ofDecimal_eq ..

theorem toDatum_congr (s : Bool) {d e : Decimal} (hvalue : d.value = e.value) :
    d.toDatum .binary64 s = e.toDatum .binary64 s := by
  rw [toDatum_eq, toDatum_eq]
  refine Format.nearest_congr s (by positivity) (by positivity) ?_
  rw [Format.decimal_quotient, Format.decimal_quotient]
  exact hvalue

theorem toDatum_of_value {d : Decimal} {m : Nat} {e : Int} (hvalue : d.value = m * 2 ^ e)
    (s : Bool) : d.toDatum .binary64 s = Format.binary64.round (.finite s m e) := by
  have hquotient : ((d.significand * 10 ^ d.exponent.toNat : ℕ) : ℚ) / (10 ^ (-d.exponent).toNat : ℕ) =
      Datum.numerator m e / Datum.denominator e := by
    rw [Format.decimal_quotient, Datum.numerator_div_denominator]
    exact hvalue
  rw [toDatum_eq]
  exact Format.nearest_congr s (by positivity) (Datum.denominator_pos e) hquotient

theorem value_dropZeros (fuel : Nat) (d : Decimal) : (dropZeros fuel d).value = d.value := by
  induction fuel generalizing d with
  | zero => rfl
  | succ fuel ih =>
    rw [dropZeros]
    split
    · next hzero =>
      obtain ⟨k, hk⟩ := Nat.dvd_of_mod_eq_zero hzero.1
      rw [ih, value, value, hk, Nat.mul_div_cancel_left k (by decide),
        zpow_add_one₀ (by norm_num)]
      push_cast
      ring
    · rfl

theorem significand_dropZeros_pos (fuel : Nat) {d : Decimal} (hpos : 0 < d.significand) :
    0 < (dropZeros fuel d).significand := by
  induction fuel generalizing d with
  | zero => exact hpos
  | succ fuel ih =>
    rw [dropZeros]
    split
    · next hzero =>
      refine ih ?_
      change 0 < d.significand / 10
      omega
    · exact hpos

end Decimal

theorem value_exactDecimal (m : Nat) (e : Int) : (exactDecimal m e).value = m * 2 ^ e := by
  have hten : (10 : ℚ) ^ (-((-e).toNat : ℤ)) = 1 / (2 ^ (-e).toNat * 5 ^ (-e).toNat) := by
    rw [zpow_neg, zpow_natCast, ← mul_pow]
    norm_num
  have htwo := zpow_eq_div (two_ne_zero (α := ℚ)) e
  simp only [Decimal.value, exactDecimal, hten, htwo, Nat.pow_eq]
  push_cast
  field_simp

theorem significand_exactDecimal_pos {m : Nat} (hm : m ≠ 0) (e : Int) :
    0 < (exactDecimal m e).significand :=
  Nat.mul_pos (Nat.mul_pos (Nat.pos_of_ne_zero hm) (Nat.pow_pos (by decide)))
    (Nat.pow_pos (by decide))

/-- The datum that is found for a nonzero magnitude is the magnitude, rounded. -/
theorem toDatum_shortestFrom {m : Nat} (hm : m ≠ 0) (e : Int) (fuel count : Nat) :
    (shortestFrom .binary64 m e fuel count).toDatum .binary64 false =
        Format.binary64.round (.finite false m e) ∧
      0 < (shortestFrom .binary64 m e fuel count).significand := by
  induction fuel generalizing count with
  | zero =>
    -- No short decimal was found: the exact one is taken.
    exact ⟨Decimal.toDatum_of_value (value_exactDecimal m e) false,
      significand_exactDecimal_pos hm e⟩
  | succ fuel ih =>
    rw [shortestFrom]
    cases hfound : (gridNeighbours m e count).find? fun d =>
        d.toDatum .binary64 false == .finite false m e with
    | none => exact ih (count + 1)
    | some d =>
      have hreads := List.find?_some hfound
      rw [beq_iff_eq] at hreads
      have hholds : Format.binary64.Holds (d.toDatum .binary64 false) := by
        rw [Decimal.toDatum_eq]
        exact Format.holds_nearest false (by decide) (by decide) (by decide) _ (by positivity)
      rw [Option.getD_some]
      constructor
      · rw [hreads] at hholds ⊢
        exact hholds.round_eq.symm
      · rw [Nat.pos_iff_ne_zero]
        intro hzero
        rw [Decimal.toDatum, hzero] at hreads
        simp only [Format.ofDecimal, if_true, Datum.zeroOf, Datum.finite.injEq] at hreads
        exact hm hreads.2.1.symm

theorem toDatum_shortestDecimal {m : Nat} (hm : m ≠ 0) (s : Bool) (e : Int) :
    (shortestDecimal .binary64 m e).toDatum .binary64 s =
      Format.binary64.round (.finite s m e) := by
  have hvalue : (shortestDecimal .binary64 m e).toDatum .binary64 s =
      (shortestFrom .binary64 m e 17 1).toDatum .binary64 s :=
    Decimal.toDatum_congr s (Decimal.value_dropZeros ..)
  have hmagnitude := (toDatum_shortestFrom hm e 17 1).1
  rw [hvalue]
  cases s with
  | false => exact hmagnitude
  | true =>
    rw [Decimal.toDatum_eq, Format.round_finite] at hmagnitude ⊢
    rw [Format.nearest_neg, hmagnitude, Format.nearest_neg]

theorem significand_shortestDecimal_pos {m : Nat} (hm : m ≠ 0) (e : Int) :
    0 < (shortestDecimal .binary64 m e).significand :=
  Decimal.significand_dropZeros_pos 400 (toDatum_shortestFrom hm e 17 1).2

end DenseSketch
