import DenseSketch.Number.Format
import Mathlib.Algebra.Order.Field.Power
import Mathlib.Algebra.Order.Ring.Cast
import Mathlib.Data.Rat.Cast.Order
import Mathlib.Order.Compare
import Mathlib.Order.WithBot
import Mathlib.Tactic.FieldSimp
import Mathlib.Tactic.Linarith
import Mathlib.Tactic.Ring

/-!
# Exact values

The rational number that a finite datum stands for.  Whole numbers stand for themselves, and data
are ordered as their values are, between the infinities.
-/

namespace DenseSketch.Datum

/-- The exact value of a finite datum; zero where there is none. -/
def toRat : Datum → ℚ
  | .finite s m e => (if s then -1 else 1) * (m * 2 ^ e)
  | _ => 0

@[simp]
theorem toRat_zero : zero.toRat = 0 := by simp [zero, toRat]

@[simp]
theorem toRat_one : one.toRat = 1 := by simp [one, toRat]

/-! ### Magnitudes -/

theorem denominator_pos (e : Int) : 0 < denominator e := by
  simp [denominator]

theorem numerator_div_denominator (m : Nat) (e : Int) :
    (numerator m e : ℚ) / denominator e = m * 2 ^ e := by
  rcases Int.le_total 0 e with he | he
  · lift e to ℕ using he
    simp [numerator, denominator]
  · obtain ⟨k, rfl⟩ := Int.exists_eq_neg_ofNat he
    simp [numerator, denominator, zpow_neg, div_eq_mul_inv]

theorem halve_value (fuel m : Nat) (e : Int) :
    ((halve fuel m e).1 : ℚ) * 2 ^ (halve fuel m e).2 = m * 2 ^ e := by
  induction fuel generalizing m e with
  | zero => rfl
  | succ fuel ih =>
    by_cases hm : m % 2 = 0
    · obtain ⟨k, rfl⟩ := Nat.dvd_of_mod_eq_zero hm
      rw [halve, if_pos hm, ih, Nat.mul_div_cancel_left k (by decide), zpow_add_one₀ (by norm_num)]
      push_cast
      ring
    · rw [halve, if_neg hm]

theorem toRat_ofDyadic (s : Bool) (m : Nat) (e : Int) :
    (ofDyadic s m e).toRat = (if s then -1 else 1) * (m * 2 ^ e) := by
  by_cases hm : m = 0
  · simp [ofDyadic, hm, zeroOf, toRat]
  · rw [ofDyadic, if_neg hm, toRat, halve_value]

theorem toRat_ofInt (n : Int) : (ofInt n).toRat = n := by
  rw [ofInt, toRat_ofDyadic]
  by_cases hn : n < 0
  · have habs : ((n.natAbs : ℤ) : ℚ) = -n := by
      rw [Int.ofNat_natAbs_of_nonpos (Int.le_of_lt hn)]
      simp
    simp only [hn, decide_true, if_true, zpow_zero, mul_one]
    rw [← Int.cast_natCast, habs]
    ring
  · have habs : ((n.natAbs : ℤ) : ℚ) = n := by
      rw [Int.natAbs_of_nonneg (Int.not_lt.1 hn)]
    simp only [hn, decide_false, zpow_zero, mul_one]
    rw [← Int.cast_natCast, habs]
    simp

theorem isFinite_ofInt (n : Int) : (ofInt n).isFinite := by
  rw [ofInt, ofDyadic]
  split <;> rfl

@[simp]
theorem isFinite_neg (x : Datum) : x.neg.isFinite = x.isFinite := by
  cases x <;> rfl

@[simp]
theorem toRat_neg (x : Datum) : x.neg.toRat = -x.toRat := by
  cases x with
  | nan => simp [neg, toRat]
  | infinite s => simp [neg, toRat]
  | finite s m e => cases s <;> simp [neg, toRat]

theorem abs_toRat (s : Bool) (m : Nat) (e : Int) : |toRat (.finite s m e)| = m * 2 ^ e := by
  have hmagnitude : (0 : ℚ) ≤ m * 2 ^ e := by positivity
  cases s <;> simp [toRat, abs_of_nonneg hmagnitude]

/-- Of the data with a sign only zero is not below zero. -/
theorem mantissa_eq_zero {m : Nat} {e : Int} (hvalue : 0 ≤ toRat (.finite true m e)) : m = 0 := by
  have hnonneg : (0 : ℚ) ≤ m * 2 ^ e := by positivity
  have hzero : (m : ℚ) * 2 ^ e = 0 := by
    simp only [toRat, if_true] at hvalue
    linarith
  have hpow : (2 : ℚ) ^ e ≠ 0 := zpow_ne_zero e two_ne_zero
  exact_mod_cast (mul_eq_zero.1 hzero).resolve_right hpow

theorem sign_eq_false {s : Bool} {m : Nat} {e : Int} (hvalue : 0 < toRat (.finite s m e)) :
    s = false := by
  rw [Bool.eq_false_iff]
  rintro rfl
  have hzero := mantissa_eq_zero hvalue.le
  simp [toRat, hzero] at hvalue

/-! ### Order -/

theorem scaled_eq (s : Bool) (m : Nat) {e unit : Int} (hunit : unit ≤ e) :
    (scaled s m e unit : ℚ) * 2 ^ unit = toRat (.finite s m e) := by
  have hpow : (2 : ℚ) ^ (e - unit).toNat * 2 ^ unit = 2 ^ e := by
    rw [← zpow_natCast, Int.toNat_of_nonneg (by omega), ← zpow_add₀ (by norm_num)]
    congr 1
    omega
  cases s <;> simp [scaled, toRat, mul_assoc, hpow]

theorem compare?_eq {a b : Datum} (ha : a.isFinite) (hb : b.isFinite) :
    compare? a b = some (cmp a.toRat b.toRat) := by
  cases a <;> cases b <;> simp only [isFinite, Bool.false_eq_true] at ha hb
  case finite s m e t n f =>
    rw [compare?, ← cmp_eq_compare, ← scaled_eq s m (Int.min_le_left e f),
      ← scaled_eq t n (Int.min_le_right e f), cmp_mul_pos_right (by positivity),
      Int.cast_strictMono.cmp_map_eq]

section Compared

variable {α : Type} [LinearOrder α] {a b : Datum} {x y : α}

theorem lt_iff_of_compare? (h : compare? a b = some (cmp x y)) : a.lt b ↔ x < y := by
  rw [lt, h, beq_iff_eq, Option.some.injEq, cmp_eq_lt_iff]

theorem le_iff_of_compare? (h : compare? a b = some (cmp x y)) : a.le b ↔ x ≤ y := by
  rw [le, h]
  rcases lt_trichotomy x y with hxy | hxy | hxy
  · rw [(cmp_eq_lt_iff _ _).2 hxy]
    simp [hxy.le]
  · rw [(cmp_eq_eq_iff _ _).2 hxy]
    simp [hxy.le]
  · rw [(cmp_eq_gt_iff _ _).2 hxy]
    simp [hxy]

end Compared

theorem lt_iff {a b : Datum} (ha : a.isFinite) (hb : b.isFinite) :
    a.lt b ↔ a.toRat < b.toRat :=
  lt_iff_of_compare? (compare?_eq ha hb)

theorem le_iff {a b : Datum} (ha : a.isFinite) (hb : b.isFinite) :
    a.le b ↔ a.toRat ≤ b.toRat :=
  le_iff_of_compare? (compare?_eq ha hb)

theorem le_ofInt (m n : Int) : (ofInt m).le (ofInt n) = decide (m ≤ n) := by
  rw [Bool.eq_iff_iff, le_iff (isFinite_ofInt m) (isFinite_ofInt n), decide_eq_true_iff,
    toRat_ofInt, toRat_ofInt]
  exact Int.cast_le

/-- A whole number has no fraction to cut off. -/
theorem truncate?_ofInt (n : Int) : (ofInt n).truncate? = some n := by
  rw [ofInt, ofDyadic]
  split
  · next hzero => simp [zeroOf, truncate?, numerator, Int.natAbs_eq_zero.1 hzero]
  · next hzero =>
    rcases hlowest : halve (Nat.log2 n.natAbs) n.natAbs 0 with ⟨m, e⟩
    have hvalue := halve_value (Nat.log2 n.natAbs) n.natAbs 0
    rw [hlowest, zpow_zero, mul_one, ← numerator_div_denominator,
      div_eq_iff (by exact_mod_cast (denominator_pos e).ne')] at hvalue
    have hnumerator : numerator m e = n.natAbs * denominator e := by exact_mod_cast hvalue
    have hquotient : numerator m e / denominator e = n.natAbs := by
      rw [hnumerator, Nat.mul_div_cancel _ (denominator_pos e)]
    simp only [truncate?, hquotient, decide_eq_true_eq, Option.some.injEq]
    split <;> omega

/-! ### Infinities

Data that are numbers lie in one line, the infinities at its ends, and are compared by their places
in it.  What is not a number is neither below nor above anything, itself included.
-/

/-- The place of a number among the rational numbers with two ends; the place of what is not a number
    has no meaning. -/
def place : Datum → WithBot (WithTop ℚ)
  | .nan => ⊥
  | .infinite true => ⊥
  | .infinite false => ((⊤ : WithTop ℚ) : WithBot (WithTop ℚ))
  | .finite s m e => ((toRat (.finite s m e) : WithTop ℚ) : WithBot (WithTop ℚ))

variable {a b c : Datum}

theorem compare?_eq_place (ha : a ≠ .nan) (hb : b ≠ .nan) :
    compare? a b = some (cmp a.place b.place) := by
  match a, b with
  | .nan, _ => exact absurd rfl ha
  | _, .nan => exact absurd rfl hb
  | .infinite true, .infinite true => rfl
  | .infinite true, .infinite false => rfl
  | .infinite false, .infinite true => rfl
  | .infinite false, .infinite false => exact congrArg some (cmp_self_eq_eq _).symm
  | .infinite true, .finite .. => rfl
  | .infinite false, .finite .. => rfl
  | .finite .., .infinite true => rfl
  | .finite .., .infinite false => rfl
  | .finite s m e, .finite t n f =>
    have hmono := WithBot.coe_strictMono.comp (WithTop.coe_strictMono (α := ℚ))
    rw [compare?_eq rfl rfl, ← hmono.cmp_map_eq]
    rfl

theorem compare?_nan_right (a : Datum) : compare? a .nan = none := by
  cases a <;> rfl

theorem ne_nan_of_compare? {o : Ordering} (ho : compare? a b = some o) : a ≠ .nan ∧ b ≠ .nan := by
  constructor
  · rintro rfl
    cases ho
  · rintro rfl
    rw [compare?_nan_right] at ho
    cases ho

theorem lt_iff_place : a.lt b ↔ a ≠ .nan ∧ b ≠ .nan ∧ a.place < b.place := by
  constructor
  · intro hlt
    obtain ⟨ha, hb⟩ := ne_nan_of_compare? (beq_iff_eq.1 hlt)
    exact ⟨ha, hb, (lt_iff_of_compare? (compare?_eq_place ha hb)).1 hlt⟩
  · rintro ⟨ha, hb, hplaces⟩
    exact (lt_iff_of_compare? (compare?_eq_place ha hb)).2 hplaces

theorem ne_nan_of_le (hle : a.le b) : a ≠ .nan ∧ b ≠ .nan := by
  rw [le] at hle
  split at hle
  · next hlt => exact ne_nan_of_compare? hlt
  · next heq => exact ne_nan_of_compare? heq
  · cases hle

theorem le_iff_place : a.le b ↔ a ≠ .nan ∧ b ≠ .nan ∧ a.place ≤ b.place := by
  constructor
  · intro hle
    obtain ⟨ha, hb⟩ := ne_nan_of_le hle
    exact ⟨ha, hb, (le_iff_of_compare? (compare?_eq_place ha hb)).1 hle⟩
  · rintro ⟨ha, hb, hplaces⟩
    exact (le_iff_of_compare? (compare?_eq_place ha hb)).2 hplaces

theorem le_self (ha : a ≠ .nan) : a.le a := le_iff_place.2 ⟨ha, ha, le_rfl⟩

theorem le_of_lt (hab : a.lt b) : a.le b := by
  obtain ⟨ha, hb, hplaces⟩ := lt_iff_place.1 hab
  exact le_iff_place.2 ⟨ha, hb, hplaces.le⟩

/-- Two numbers can always be compared. -/
theorem le_of_not_lt (ha : a ≠ .nan) (hb : b ≠ .nan) (hab : ¬ a.lt b) : b.le a :=
  le_iff_place.2 ⟨hb, ha, not_lt.1 fun hplaces => hab (lt_iff_place.2 ⟨ha, hb, hplaces⟩)⟩

theorem lt_of_le_of_lt (hab : a.le b) (hbc : b.lt c) : a.lt c := by
  obtain ⟨ha, -, hle⟩ := le_iff_place.1 hab
  obtain ⟨-, hc, hlt⟩ := lt_iff_place.1 hbc
  exact lt_iff_place.2 ⟨ha, hc, hle.trans_lt hlt⟩

end DenseSketch.Datum
