import DenseSketch.Proofs.Number.Decimal
import DenseSketch.Proofs.Number.Exact

/-!
# Rounded decimals

Decimal text with a fixed number of places stands for a rounded value, and the rounded value is
close to the exact one.
-/

namespace DenseSketch

/-- The multiple of `10 ^ -places` that is nearest to `x`, a half going away from zero. -/
def roundHalfAway (places : Nat) (x : ℚ) : ℚ :=
  if x < 0 then -(⌊-x * 10 ^ places + 1 / 2⌋ / 10 ^ places)
  else ⌊x * 10 ^ places + 1 / 2⌋ / 10 ^ places

example : roundHalfAway 1 (-1 / 4) = -3 / 10 := by
  norm_num [roundHalfAway]

theorem abs_roundHalfAway_sub_le (places : Nat) (x : ℚ) :
    |roundHalfAway places x - x| ≤ 1 / (2 * 10 ^ places) := by
  -- It is enough to look at magnitudes: the sign is taken off before and put back after.
  have hmagnitude : ∀ y : ℚ,
      |(⌊y * 10 ^ places + 1 / 2⌋ : ℚ) / 10 ^ places - y| ≤ 1 / (2 * 10 ^ places) := by
    intro y
    have hpow : (0 : ℚ) < 10 ^ places := by positivity
    have hdistance : |(⌊y * 10 ^ places + 1 / 2⌋ : ℚ) - y * 10 ^ places| ≤ 1 / 2 := by
      rw [← round_eq, abs_sub_comm]
      exact abs_sub_round _
    calc |(⌊y * 10 ^ places + 1 / 2⌋ : ℚ) / 10 ^ places - y|
        = |(⌊y * 10 ^ places + 1 / 2⌋ : ℚ) - y * 10 ^ places| / 10 ^ places := by
          rw [← abs_of_pos hpow, ← abs_div, abs_of_pos hpow, sub_div,
            mul_div_cancel_right₀ _ hpow.ne']
      _ ≤ 1 / 2 / 10 ^ places := by gcongr
      _ = 1 / (2 * 10 ^ places) := by rw [div_div]
  by_cases hx : x < 0
  · have hneg := hmagnitude (-x)
    rw [sub_neg_eq_add] at hneg
    rw [roundHalfAway, if_pos hx, ← abs_neg, neg_sub, sub_neg_eq_add, add_comm]
    exact hneg
  · rw [roundHalfAway, if_neg hx]
    exact hmagnitude x

theorem roundHalfAway_neg (places : Nat) (x : ℚ) :
    roundHalfAway places (-x) = -roundHalfAway places x := by
  rcases lt_trichotomy x 0 with hneg | rfl | hpos
  · rw [roundHalfAway, if_neg (by linarith), roundHalfAway, if_pos hneg, neg_neg]
  · norm_num [roundHalfAway]
  · rw [roundHalfAway, if_pos (by linarith), roundHalfAway, if_neg (by linarith), neg_neg]

theorem roundHalfAway_nonneg (places : Nat) {x : ℚ} (hx : 0 ≤ x) : 0 ≤ roundHalfAway places x := by
  have hfloor : 0 ≤ ⌊x * 10 ^ places + 1 / 2⌋ := Int.floor_nonneg.2 (by positivity)
  rw [roundHalfAway, if_neg (not_lt.2 hx)]
  positivity

theorem roundHalfAway_mono (places : Nat) : Monotone (roundHalfAway places) := by
  -- On numbers that are not negative it is a floor; the others are these with a sign.
  have hright : ∀ {x y : ℚ}, 0 ≤ x → x ≤ y → roundHalfAway places x ≤ roundHalfAway places y := by
    intro x y hx hxy
    rw [roundHalfAway, if_neg (not_lt.2 hx), roundHalfAway, if_neg (not_lt.2 (hx.trans hxy))]
    gcongr
  intro x y hxy
  rcases le_total 0 x with hx | hx
  · exact hright hx hxy
  · rcases le_total 0 y with hy | hy
    · have hlow := roundHalfAway_nonneg places (neg_nonneg.2 hx)
      rw [roundHalfAway_neg] at hlow
      linarith [roundHalfAway_nonneg places hy]
    · have hnegated := hright (neg_nonneg.2 hy) (neg_le_neg hxy)
      rw [roundHalfAway_neg, roundHalfAway_neg] at hnegated
      linarith

/-- A quotient is rounded to no more than a whole number that bounds it. -/
theorem roundQuotient_le (tie : Tie) {num den n : Nat} (hden : 0 < den) (hnum : num ≤ n * den) :
    roundQuotient tie num den ≤ n := by
  have hwhole : num / den ≤ n := Nat.div_le_of_le_mul (by rwa [Nat.mul_comm])
  rcases hwhole.eq_or_lt with heq | hlt
  · have hrest : num % den = 0 := by
      have hdivision := Nat.div_add_mod num den
      rw [heq, Nat.mul_comm] at hdivision
      omega
    simp only [roundQuotient, hrest]
    rw [if_pos (by omega)]
    exact hwhole
  · have hnext : roundQuotient tie num den ≤ num / den + 1 := by
      cases tie <;> simp only [roundQuotient] <;> split_ifs <;> omega
    exact hnext.trans hlt

/-- A quotient with halves away from zero is the floor of the exact quotient plus one half. -/
theorem roundQuotient_awayFromZero (num : Nat) {den : Nat} (hden : 0 < den) :
    (roundQuotient .awayFromZero num den : ℤ) = ⌊(num : ℚ) / den + 1 / 2⌋ := by
  have hpos : (0 : ℚ) < den := by exact_mod_cast hden
  have hnum : (num : ℚ) / den = (num / den : ℕ) + (num % den : ℕ) / den := by
    have hdivision : (num : ℚ) = den * (num / den : ℕ) + (num % den : ℕ) := by
      exact_mod_cast (Nat.div_add_mod num den).symm
    rw [eq_comm, eq_div_iff hpos.ne', add_mul, div_mul_cancel₀ _ hpos.ne', mul_comm]
    exact hdivision.symm
  have hrest : (0 : ℚ) ≤ (num % den : ℕ) / den := by positivity
  have hbelow : ((num % den : ℕ) : ℚ) / den < 1 := by
    rw [div_lt_one hpos]
    exact_mod_cast Nat.mod_lt num hden
  rw [eq_comm, Int.floor_eq_iff, hnum, roundQuotient]
  by_cases hlow : 2 * (num % den) < den
  · have hhalf : ((num % den : ℕ) : ℚ) / den < 1 / 2 := by
      rw [div_lt_div_iff₀ hpos two_pos]
      exact_mod_cast (by omega : num % den * 2 < 1 * den)
    simp only [hlow, if_true, Int.cast_natCast]
    constructor <;> linarith
  · have hhalf : (1 : ℚ) / 2 ≤ (num % den : ℕ) / den := by
      rw [div_le_div_iff₀ two_pos hpos]
      exact_mod_cast (by omega : 1 * den ≤ num % den * 2)
    simp only [hlow, if_false, ite_self, Nat.cast_add, Nat.cast_one, Int.cast_add, Int.cast_one,
      Int.cast_natCast]
    constructor <;> linarith

/-! ### Text -/

namespace FixedStyle

/-- A value of the unit interval has at most as many units as one has. -/
theorem units_le (style : FixedStyle) {m : Nat} {e : Int} (hvalue : (m : ℚ) * 2 ^ e ≤ 1) :
    style.units m e ≤ 10 ^ style.places := by
  have hpos := Datum.denominator_pos e
  have hle : Datum.numerator m e ≤ Datum.denominator e := by
    rw [← Datum.numerator_div_denominator, div_le_one (by exact_mod_cast hpos)] at hvalue
    exact_mod_cast hvalue
  refine roundQuotient_le style.tie hpos ?_
  rw [Nat.pow_eq, Nat.mul_comm]
  exact Nat.mul_le_mul_left _ hle

theorem units_awayFromZero (places : Nat) (signedZero : Bool) (m : Nat) (e : Int) :
    (units ⟨places, .awayFromZero, signedZero⟩ m e : ℤ) =
      ⌊(m * 2 ^ e : ℚ) * 10 ^ places + 1 / 2⌋ := by
  rw [units, roundQuotient_awayFromZero _ (Datum.denominator_pos e),
    ← Datum.numerator_div_denominator]
  congr 2
  rw [Nat.pow_eq, Nat.cast_mul, mul_div_right_comm]
  norm_cast

/-- What the units of a text stand for, with the sign of the datum. -/
theorem roundHalfAway_toRat (places : Nat) (signedZero s : Bool) (m : Nat) (e : Int) :
    roundHalfAway places (Datum.toRat (.finite s m e)) =
      (if s then -1 else 1) *
        ((units ⟨places, .awayFromZero, signedZero⟩ m e : ℚ) / 10 ^ places) := by
  have hunits := congrArg (Int.cast (R := ℚ)) (units_awayFromZero places signedZero m e)
  rw [Int.cast_natCast] at hunits
  rw [hunits]
  have hmagnitude : (0 : ℚ) ≤ m * 2 ^ e := by positivity
  cases s with
  | false =>
    rw [roundHalfAway, if_neg (by simpa [Datum.toRat] using hmagnitude)]
    simp [Datum.toRat]
  | true =>
    rcases hmagnitude.eq_or_lt with hzero | hpos
    · rw [Datum.toRat, ← hzero]
      norm_num [roundHalfAway]
    · rw [roundHalfAway, if_pos (by simpa [Datum.toRat] using hpos)]
      simp [Datum.toRat]

end FixedStyle

end DenseSketch
