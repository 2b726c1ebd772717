import DenseSketch.Proofs.Number.Rounding
import Mathlib.Algebra.Order.Round
import Mathlib.Data.Int.Log

/-!
# Halves to the even neighbour

The integer that is nearest to a rational number, a half going to the even neighbour.  A rounded
quotient is this integer, and so depends on the exact quotient only.
-/

namespace DenseSketch

/-- The integer nearest to `x`, a half going to the even neighbour. -/
def roundHalfEven (x : ℚ) : ℤ :=
  if Int.fract x = 1 / 2 ∧ Even ⌊x⌋ then ⌊x⌋ else round x

theorem abs_sub_roundHalfEven (x : ℚ) : |x - roundHalfEven x| = |x - round x| := by
  by_cases h : Int.fract x = 1 / 2 ∧ Even ⌊x⌋
  · -- Both neighbours of a half are equally far away.
    have hround : round x = ⌊x⌋ + 1 := by
      rw [round_eq, Int.floor_eq_iff]
      have hsplit := Int.floor_add_fract x
      rw [h.1] at hsplit
      push_cast
      constructor <;> linarith
    rw [roundHalfEven, if_pos h, Int.self_sub_floor, h.1, hround]
    push_cast
    have hdistance : x - (⌊x⌋ + 1) = -(1 / 2) := by
      have hsplit := Int.floor_add_fract x
      rw [h.1] at hsplit
      linarith
    rw [hdistance, abs_neg]
  · rw [roundHalfEven, if_neg h]

/-- No integer is nearer. -/
theorem roundHalfEven_le (x : ℚ) (z : ℤ) : |x - roundHalfEven x| ≤ |x - z| := by
  rw [abs_sub_roundHalfEven]
  exact round_le x z

theorem abs_sub_roundHalfEven_le (x : ℚ) : |x - roundHalfEven x| ≤ 1 / 2 := by
  rw [abs_sub_roundHalfEven]
  exact abs_sub_round x

/-- Of two integers that are equally near the even one is taken. -/
theorem even_roundHalfEven {x : ℚ} (hhalf : |x - roundHalfEven x| = 1 / 2) :
    Even (roundHalfEven x) := by
  have hfract : Int.fract x = 1 / 2 := by
    rw [abs_sub_roundHalfEven, abs_sub_round_eq_min] at hhalf
    have hbelow := Int.fract_lt_one x
    rcases min_choice (Int.fract x) (1 - Int.fract x) with hmin | hmin
    · rw [hmin] at hhalf
      exact hhalf
    · rw [hmin] at hhalf
      linarith
  by_cases heven : Even ⌊x⌋
  · rw [roundHalfEven, if_pos ⟨hfract, heven⟩]
    exact heven
  · have hround : round x = ⌊x⌋ + 1 := by
      have hsplit := Int.floor_add_fract x
      rw [hfract] at hsplit
      rw [round_eq, Int.floor_eq_iff]
      push_cast
      constructor <;> linarith
    rw [roundHalfEven, if_neg fun h => heven h.2, hround]
    exact (Int.not_even_iff_odd.1 heven).add_one

@[simp]
theorem roundHalfEven_intCast (n : ℤ) : roundHalfEven n = n := by
  rw [roundHalfEven, if_neg (by norm_num), round_intCast]

theorem roundHalfEven_le_of_le {x : ℚ} {n : ℤ} (hx : x ≤ n) : roundHalfEven x ≤ n := by
  by_contra hlarge
  have hnear := roundHalfEven_le x n
  have hfar : (n : ℚ) + 1 ≤ roundHalfEven x := by exact_mod_cast Int.not_le.1 hlarge
  rw [abs_of_nonpos (by linarith), abs_of_nonpos (by linarith)] at hnear
  linarith

theorem le_roundHalfEven_of_le {x : ℚ} {n : ℤ} (hx : n ≤ x) : n ≤ roundHalfEven x := by
  by_contra hsmall
  have hnear := roundHalfEven_le x n
  have hfar : (roundHalfEven x : ℚ) + 1 ≤ n := by exact_mod_cast Int.not_le.1 hsmall
  rw [abs_of_nonneg (by linarith), abs_of_nonneg (by linarith)] at hnear
  linarith

theorem roundHalfEven_eq_of_abs_lt {x : ℚ} {n : ℤ} (hnear : |x - n| < 1 / 2) :
    roundHalfEven x = n := by
  have hround := roundHalfEven_le x n
  have hdistance : |((roundHalfEven x - n : ℤ) : ℚ)| < 1 := by
    calc |((roundHalfEven x - n : ℤ) : ℚ)| = |(roundHalfEven x - x) + (x - n)| := by
          push_cast
          ring_nf
      _ ≤ |roundHalfEven x - x| + |x - n| := abs_add_le ..
      _ < 1 := by
        rw [abs_sub_comm]
        linarith
  rw [← Int.cast_abs] at hdistance
  have hzero : |roundHalfEven x - n| < 1 := by exact_mod_cast hdistance
  rw [Int.abs_lt_one_iff] at hzero
  omega

/-- Does the number lie below the half behind `k`?  The half itself does if `k` is even. -/
def IsBelowHalf (k : ℤ) (x : ℚ) : Prop := if Even k then x ≤ k + 1 / 2 else x < k + 1 / 2

theorem roundHalfEven_le_iff (x : ℚ) (k : ℤ) : roundHalfEven x ≤ k ↔ IsBelowHalf k x := by
  have hnear := abs_le.1 (abs_sub_roundHalfEven_le x)
  rw [IsBelowHalf]
  rcases lt_trichotomy (roundHalfEven x) k with hbelow | rfl | habove
  · have hstep : (roundHalfEven x : ℚ) + 1 ≤ k := by exact_mod_cast hbelow
    refine iff_of_true hbelow.le ?_
    split <;> linarith
  · refine iff_of_true le_rfl ?_
    split
    · linarith
    · next hodd =>
      refine lt_of_le_of_ne (by linarith) fun hhalf => hodd (even_roundHalfEven ?_)
      rw [abs_of_nonneg] <;> linarith
  · have hstep : (k : ℚ) + 1 ≤ roundHalfEven x := by exact_mod_cast habove
    refine iff_of_false habove.not_ge ?_
    split
    · next heven =>
      -- On the half itself the even neighbour would be the one below.
      intro hle
      have hnext : (roundHalfEven x : ℚ) = k + 1 := by linarith
      have hparity : Even (roundHalfEven x) := by
        refine even_roundHalfEven ?_
        rw [abs_of_nonpos] <;> linarith
      have hvalue : roundHalfEven x = k + 1 := by exact_mod_cast hnext
      rw [hvalue, Int.even_add_one] at hparity
      exact hparity heven
    · linarith

/-- Numbers are rounded alike if they lie on the same side of every half. -/
theorem roundHalfEven_eq_iff {x y : ℚ} :
    roundHalfEven x = roundHalfEven y ↔ ∀ k, IsBelowHalf k x ↔ IsBelowHalf k y := by
  simp only [← roundHalfEven_le_iff]
  exact ⟨fun h k => by rw [h], eq_of_forall_ge_iff⟩

/-- Between numbers that are rounded to neighbours lies a half, so it is as close to each of them as
    they are to each other. -/
theorem abs_sub_half_le {x y bound : ℚ} {k : ℤ} (hx : roundHalfEven x = k)
    (hy : roundHalfEven y = k + 1) (hclose : |x - y| ≤ bound) :
    |x - (k + 1 / 2)| ≤ bound ∧ |y - (k + 1 / 2)| ≤ bound := by
  have hlow := abs_le.1 (abs_sub_roundHalfEven_le x)
  have hhigh := abs_le.1 (abs_sub_roundHalfEven_le y)
  have hxy := abs_le.1 hclose
  rw [hx] at hlow
  rw [hy, Int.cast_add, Int.cast_one] at hhigh
  rw [abs_le, abs_le]
  refine ⟨⟨?_, ?_⟩, ?_, ?_⟩ <;> linarith

/-- Numbers that are less than one apart are rounded to neighbours. -/
theorem abs_roundHalfEven_sub_le {x y : ℚ} (hclose : |x - y| < 1) :
    |roundHalfEven x - roundHalfEven y| ≤ 1 := by
  have hx := abs_le.1 (abs_sub_roundHalfEven_le x)
  have hy := abs_le.1 (abs_sub_roundHalfEven_le y)
  have hxy := abs_lt.1 hclose
  have hbound : |((roundHalfEven x - roundHalfEven y : ℤ) : ℚ)| < (2 : ℤ) := by
    rw [abs_lt]
    push_cast
    constructor <;> linarith
  rw [← Int.cast_abs, Int.cast_lt] at hbound
  omega

/-! ### Quotients -/

theorem roundQuotient_toEven (num : Nat) {den : Nat} (hden : 0 < den) :
    (roundQuotient .toEven num den : ℤ) = roundHalfEven ((num : ℚ) / den) := by
  have hpos : (0 : ℚ) < den := by exact_mod_cast hden
  have hfloor : ⌊(num : ℚ) / den⌋ = (num / den : ℕ) := Rat.floor_natCast_div_natCast num den
  have hround : round ((num : ℚ) / den) = roundQuotient .awayFromZero num den := by
    rw [round_eq, roundQuotient_awayFromZero num hden]
  have htie : Int.fract ((num : ℚ) / den) = 1 / 2 ↔ 2 * (num % den) = den := by
    rw [Int.fract_div_natCast_eq_div_natCast_mod, div_eq_div_iff hpos.ne' two_ne_zero]
    norm_cast
    omega
  have heven : Even ((num / den : ℕ) : ℤ) ↔ num / den % 2 = 0 := by
    rw [Int.even_coe_nat, Nat.even_iff]
  rw [roundHalfEven, hround, roundQuotient, roundQuotient]
  simp only [htie, hfloor, heven]
  rcases Nat.lt_trichotomy (2 * (num % den)) den with hlow | hhalf | hhigh
  · rw [if_pos hlow, if_pos hlow, if_neg (by omega)]
  · -- The two rules differ here only.
    simp only [hhalf, Nat.lt_irrefl, if_false, true_and]
    by_cases hwhole : num / den % 2 = 0
    · rw [if_pos hwhole, if_pos hwhole]
    · rw [if_neg hwhole, if_neg hwhole]
  · rw [if_neg (by omega), if_pos hhigh, if_neg (by omega), if_pos hhigh, if_neg (by omega)]

/-- The units that a text shows are the magnitude in units of the last place, rounded. -/
theorem FixedStyle.units_toEven (places : Nat) (signedZero : Bool) (m : Nat) (e : Int) :
    (units ⟨places, .toEven, signedZero⟩ m e : ℤ) = roundHalfEven (10 ^ places * (m * 2 ^ e)) := by
  rw [units, roundQuotient_toEven _ (Datum.denominator_pos e),
    ← Datum.numerator_div_denominator]
  congr 1
  rw [Nat.pow_eq, Nat.cast_mul, mul_div_right_comm, mul_comm]
  norm_cast

/-! ### Exponents -/

theorem zpow_eq_div {b : ℚ} (hb : b ≠ 0) (e : ℤ) : b ^ e = b ^ e.toNat / b ^ (-e).toNat := by
  rw [← zpow_natCast, ← zpow_natCast, ← zpow_sub₀ hb]
  congr 1
  omega

/-- The highest power of two that does not exceed a quotient has the exponent that is computed. -/
theorem floorLog_eq {num den : Nat} (hnum : 0 < num) (hden : 0 < den) :
    floorLog num den = Int.log 2 ((num : ℚ) / den) := by
  have hdenPos : (0 : ℚ) < den := by exact_mod_cast hden
  have hq : (0 : ℚ) < (num : ℚ) / den := by positivity
  have hnumLow : (2 : ℚ) ^ (Nat.log2 num : ℤ) ≤ num := by
    rw [zpow_natCast]
    exact_mod_cast Nat.log2_self_le hnum.ne'
  have hnumHigh : (num : ℚ) < 2 ^ ((Nat.log2 num : ℤ) + 1) := by
    exact_mod_cast Nat.lt_log2_self (n := num)
  have hdenLow : (2 : ℚ) ^ (Nat.log2 den : ℤ) ≤ den := by
    rw [zpow_natCast]
    exact_mod_cast Nat.log2_self_le hden.ne'
  have hdenHigh : (den : ℚ) < 2 ^ ((Nat.log2 den : ℤ) + 1) := by
    exact_mod_cast Nat.lt_log2_self (n := den)
  let guess : ℤ := (Nat.log2 num : ℤ) - Nat.log2 den
  have htest : den * Nat.pow 2 guess.toNat ≤ num * Nat.pow 2 (-guess).toNat ↔
      (2 : ℚ) ^ guess ≤ (num : ℚ) / den := by
    rw [zpow_eq_div two_ne_zero, div_le_div_iff₀ (by positivity) hdenPos, Nat.pow_eq, Nat.pow_eq,
      mul_comm den]
    exact_mod_cast Iff.rfl
  have hupper : (num : ℚ) / den < 2 ^ (guess + 1) := by
    calc (num : ℚ) / den < 2 ^ ((Nat.log2 num : ℤ) + 1) / 2 ^ (Nat.log2 den : ℤ) :=
          div_lt_div₀ hnumHigh hdenLow (by positivity) (by positivity)
      _ = 2 ^ (guess + 1) := by
        rw [← zpow_sub₀ two_ne_zero]
        congr 1
        omega
  have hlower : (2 : ℚ) ^ (guess - 1) ≤ (num : ℚ) / den := by
    calc (2 : ℚ) ^ (guess - 1)
        = 2 ^ (Nat.log2 num : ℤ) / 2 ^ ((Nat.log2 den : ℤ) + 1) := by
          rw [← zpow_sub₀ two_ne_zero]
          congr 1
          omega
      _ ≤ (num : ℚ) / den := by gcongr
  have hbelow : Int.log 2 ((num : ℚ) / den) < guess + 1 :=
    (Int.lt_zpow_iff_log_lt one_lt_two hq).1 (by exact_mod_cast hupper)
  have habove : guess - 1 ≤ Int.log 2 ((num : ℚ) / den) :=
    (Int.zpow_le_iff_le_log one_lt_two hq).1 (by exact_mod_cast hlower)
  change (if den * Nat.pow 2 guess.toNat ≤ num * Nat.pow 2 (-guess).toNat then guess
    else guess - 1) = _
  by_cases h : (2 : ℚ) ^ guess ≤ (num : ℚ) / den
  · rw [if_pos (htest.2 h)]
    have hle : guess ≤ Int.log 2 ((num : ℚ) / den) :=
      (Int.zpow_le_iff_le_log one_lt_two hq).1 (by exact_mod_cast h)
    omega
  · rw [if_neg fun hnat => h (htest.1 hnat)]
    have hlt : Int.log 2 ((num : ℚ) / den) < guess :=
      (Int.lt_zpow_iff_log_lt one_lt_two hq).1 (by exact_mod_cast not_le.1 h)
    omega

end DenseSketch
