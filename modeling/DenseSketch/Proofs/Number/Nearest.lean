import DenseSketch.Proofs.Number.Exact
import DenseSketch.Proofs.Number.HalfEven

/-!
# Nearest data

The rounding of a format gives the nearest datum, and its operations round the exact results.
-/

/-!
## Correct rounding

What is computed as the datum nearest to a quotient depends on the exact quotient only.  It is a
datum of the format, and no datum of the format lies nearer to the quotient.
-/

namespace DenseSketch

namespace Datum

/-! ### Lowest terms -/

theorem halve_odd {fuel m : Nat} (hm : m ≠ 0) (hfuel : Nat.log2 m ≤ fuel) (e : Int) :
    (halve fuel m e).1 % 2 = 1 := by
  induction fuel generalizing m e with
  | zero =>
    have hone : m < 2 := by
      have hlog : Nat.log2 m < 1 := by omega
      exact (Nat.log2_lt hm).1 hlog
    rw [halve]
    omega
  | succ fuel ih =>
    by_cases heven : m % 2 = 0
    · rw [halve, if_pos heven]
      refine ih (by omega) ?_ (e + 1)
      have hbelow : m < 2 ^ (fuel + 1 + 1) := (Nat.log2_lt hm).1 (by omega)
      rw [Nat.pow_succ] at hbelow
      exact Nat.le_of_lt_succ ((Nat.log2_lt (by omega)).2 (by omega))
    · rw [halve, if_neg heven]
      omega

theorem eq_of_odd {m n : Nat} {e f : Int} (hm : m % 2 = 1) (hn : n % 2 = 1)
    (hvalue : (m : ℚ) * 2 ^ e = n * 2 ^ f) : m = n ∧ e = f := by
  have hstep : ∀ {m n : Nat} {e f : Int}, m % 2 = 1 → (m : ℚ) * 2 ^ e = n * 2 ^ f → f ≤ e := by
    intro m n e f hm hvalue
    by_contra hlt
    obtain ⟨k, rfl⟩ : ∃ k : ℕ, f = e + (k + 1) := ⟨(f - e - 1).toNat, by omega⟩
    have hm' : (m : ℚ) = n * 2 ^ (k + 1) := by
      have hpow : (2 : ℚ) ^ (e + (k + 1) : ℤ) = 2 ^ (k + 1) * 2 ^ e := by
        rw [zpow_add₀ two_ne_zero, mul_comm]
        norm_cast
      rw [hpow, ← mul_assoc] at hvalue
      exact mul_right_cancel₀ (zpow_ne_zero _ two_ne_zero) hvalue
    have hnat : m = n * 2 ^ (k + 1) := by exact_mod_cast hm'
    rw [hnat, pow_succ, ← mul_assoc, Nat.mul_mod_left] at hm
    omega
  obtain rfl : e = f := le_antisymm (hstep hn hvalue.symm) (hstep hm hvalue)
  have hcancel := mul_right_cancel₀ (zpow_ne_zero _ two_ne_zero) hvalue
  exact ⟨by exact_mod_cast hcancel, rfl⟩

/-- A dyadic datum depends on its value only. -/
theorem ofDyadic_congr (s : Bool) {m n : Nat} {e f : Int}
    (hvalue : (m : ℚ) * 2 ^ e = n * 2 ^ f) : ofDyadic s m e = ofDyadic s n f := by
  have hzero : m = 0 ↔ n = 0 := by
    have hpow : ∀ e : Int, (2 : ℚ) ^ e ≠ 0 := fun e => zpow_ne_zero e two_ne_zero
    constructor
    · rintro rfl
      simpa [hpow] using hvalue.symm
    · rintro rfl
      simpa [hpow] using hvalue
  by_cases hm : m = 0
  · simp [ofDyadic, hm, hzero.1 hm]
  · have hn : n ≠ 0 := fun h => hm (hzero.2 h)
    obtain ⟨hmantissa, hexponent⟩ := eq_of_odd (halve_odd hm le_rfl e) (halve_odd hn le_rfl f)
      (by rw [halve_value, halve_value, hvalue])
    simp only [ofDyadic, hm, hn, if_false, hmantissa, hexponent]

theorem isFinite_ofDyadic (s : Bool) (m : Nat) (e : Int) : (ofDyadic s m e).isFinite := by
  rw [ofDyadic]
  split <;> rfl

theorem isNegative_ofDyadic (s : Bool) (m : Nat) (e : Int) : (ofDyadic s m e).isNegative = s := by
  rw [ofDyadic]
  split <;> rfl

end Datum

namespace Format

/-- The data of a format: what is no number, the infinities, and the dyadic numbers whose mantissa
    and exponent lie in range. -/
inductive Holds (f : Format) : Datum → Prop
  | nan : Holds f .nan
  | infinite (s : Bool) : Holds f (.infinite s)
  | finite (s : Bool) {n : Nat} {u : Int} (hmantissa : n < 2 ^ f.precision)
      (hmin : f.minExponent ≤ u) (hmax : u ≤ f.maxExponent) : Holds f (.ofDyadic s n u)

/-- A datum of the format that is nearest to `q`. -/
structure IsNearest (f : Format) (q : ℚ) (x : Datum) : Prop where
  holds : f.Holds x
  isFinite : x.isFinite
  le : ∀ y, f.Holds y → y.isFinite → |x.toRat - q| ≤ |y.toRat - q|

/-- Single precision is part of double precision. -/
theorem Holds.widen {x : Datum} (hx : binary32.Holds x) : binary64.Holds x := by
  rcases hx with _ | s | ⟨s, hmantissa, hmin, hmax⟩
  · exact .nan
  · exact .infinite s
  · simp only [binary32] at hmantissa hmin hmax
    refine .finite s ?_ ?_ ?_
    · exact lt_of_lt_of_le hmantissa (by decide)
    · simp only [binary64]
      omega
    · simp only [binary64]
      omega

theorem Holds.abs_toRat_lt {f : Format} {x : Datum} (hx : f.Holds x) :
    |x.toRat| < 2 ^ (f.precision + f.maxExponent) := by
  rcases hx with _ | s | ⟨s, hmantissa, -, hmax⟩
  · simp only [Datum.toRat, abs_zero]
    positivity
  · simp only [Datum.toRat, abs_zero]
    positivity
  · next n u =>
    have hmagnitude : |(Datum.ofDyadic s n u).toRat| = n * 2 ^ u := by
      have hnonneg : (0 : ℚ) ≤ n * 2 ^ u := by positivity
      rw [Datum.toRat_ofDyadic]
      cases s <;> simp [abs_of_nonneg hnonneg]
    have hbelow : (n : ℚ) < 2 ^ f.precision := by exact_mod_cast hmantissa
    calc |(Datum.ofDyadic s n u).toRat| = n * 2 ^ u := hmagnitude
      _ < 2 ^ f.precision * 2 ^ u := by gcongr
      _ ≤ 2 ^ f.precision * 2 ^ f.maxExponent := by gcongr; exact one_le_two
      _ = 2 ^ (f.precision + f.maxExponent) := by rw [zpow_add₀ two_ne_zero, zpow_natCast]

/-- From the least magnitude that fills the mantissa in units of `2 ^ s` on, the data of a format
    are multiples of this unit. -/
theorem Holds.exists_toRat_eq {f : Format} {x : Datum} {s : ℤ} (hx : f.Holds x)
    (hprecision : 0 < f.precision) (hlarge : 2 ^ (f.precision - 1) * 2 ^ s ≤ x.toRat) :
    ∃ n : ℕ, x.toRat = n * 2 ^ s := by
  have hpos : (0 : ℚ) < 2 ^ (f.precision - 1) * 2 ^ s := by positivity
  rcases hx with _ | t | ⟨t, hmantissa, -, -⟩
  · simp only [Datum.toRat] at hlarge
    linarith
  · simp only [Datum.toRat] at hlarge
    linarith
  · next n u =>
    have hnonneg : (0 : ℚ) ≤ n * 2 ^ u := by positivity
    rw [Datum.toRat_ofDyadic] at hlarge ⊢
    cases t with
    | true =>
      simp only [if_true] at hlarge
      linarith
    | false =>
      simp only [Bool.false_eq_true, if_false, one_mul] at hlarge ⊢
      have hunit : s ≤ u := by
        by_contra hfine
        have hshort : (n : ℚ) < 2 ^ f.precision := by exact_mod_cast hmantissa
        have hsmall : (n : ℚ) * 2 ^ u < 2 ^ (f.precision - 1) * 2 ^ s := by
          calc (n : ℚ) * 2 ^ u < 2 ^ f.precision * 2 ^ u := by gcongr
            _ = 2 ^ (f.precision - 1) * 2 ^ (u + 1) := by
              rw [zpow_add_one₀ two_ne_zero, mul_comm (2 ^ u : ℚ), ← mul_assoc, ← pow_succ,
                Nat.sub_add_cancel hprecision]
            _ ≤ 2 ^ (f.precision - 1) * 2 ^ s := by
              gcongr
              · exact one_le_two
              · omega
        exact hsmall.not_ge hlarge
      obtain ⟨k, rfl⟩ : ∃ k : ℕ, u = k + s := ⟨(u - s).toNat, by omega⟩
      refine ⟨n * 2 ^ k, ?_⟩
      rw [zpow_add₀ two_ne_zero, zpow_natCast, Nat.cast_mul, Nat.cast_pow, Nat.cast_two, mul_assoc]

/-! ### The exact quotient decides -/

/-- The exponent of the last place of a datum near `q`. -/
def unit (f : Format) (q : ℚ) : ℤ := max (Int.log 2 q - (f.precision - 1 : ℕ)) f.minExponent

/-- The mantissa of the datum nearest to `q`, in units of the last place. -/
def mantissa (f : Format) (q : ℚ) : ℕ := (roundHalfEven (q / 2 ^ f.unit q)).toNat

/-- Past the largest datum. -/
def Overflows (f : Format) (q : ℚ) : Prop :=
  f.maxExponent < f.unit q ∨ f.unit q = f.maxExponent ∧ f.mantissa q = 2 ^ f.precision

instance (f : Format) (q : ℚ) : Decidable (f.Overflows q) :=
  inferInstanceAs (Decidable (_ ∨ _ ∧ _))

variable {f : Format} {q : ℚ} {num den : Nat}

theorem mantissa_eq (hq : 0 ≤ q) : (f.mantissa q : ℤ) = roundHalfEven (q / 2 ^ f.unit q) := by
  have hnonneg : ((0 : ℤ) : ℚ) ≤ q / 2 ^ f.unit q := by
    rw [Int.cast_zero]
    positivity
  exact Int.toNat_of_nonneg (le_roundHalfEven_of_le hnonneg)

theorem nearest_eq (s : Bool) (hnum : 0 < num) (hden : 0 < den) :
    f.nearest s num den =
      if f.Overflows ((num : ℚ) / den) then .infinite s
      else .ofDyadic s (f.mantissa ((num : ℚ) / den)) (f.unit ((num : ℚ) / den)) := by
  have hunit : max (floorLog num den - (f.precision - 1 : ℕ)) f.minExponent =
      f.unit ((num : ℚ) / den) := by
    rw [unit, floorLog_eq hnum hden]
  have hmantissa : ∀ u : Int,
      roundQuotient .toEven (num * 2 ^ (-u).toNat) (den * 2 ^ u.toNat) =
        (roundHalfEven ((num : ℚ) / den / 2 ^ u)).toNat := by
    intro u
    have hquotient : ((num * 2 ^ (-u).toNat : ℕ) : ℚ) / (den * 2 ^ u.toNat : ℕ) =
        (num : ℚ) / den / 2 ^ u := by
      rw [zpow_eq_div two_ne_zero u]
      push_cast
      field_simp
    rw [← hquotient, ← roundQuotient_toEven _ (by positivity), Int.toNat_natCast]
  rw [nearest, if_neg hnum.ne']
  simp only [hunit, hmantissa, Overflows, mantissa, Bool.or_eq_true, Bool.and_eq_true,
    decide_eq_true_eq, beq_iff_eq, Nat.pow_eq, gt_iff_lt]
  congr

/-- Equal quotients have the same nearest datum. -/
theorem nearest_congr (s : Bool) {num' den' : Nat} (hden : 0 < den) (hden' : 0 < den')
    (hvalue : (num : ℚ) / den = num' / den') : f.nearest s num den = f.nearest s num' den' := by
  have hcast : ∀ {n : Nat}, 0 < n → (0 : ℚ) < n := fun h => by exact_mod_cast h
  rcases Nat.eq_zero_or_pos num with rfl | hnum
  · have hzero : num' = 0 := by
      rw [Nat.cast_zero, zero_div, eq_comm, div_eq_zero_iff] at hvalue
      simpa [hden'.ne'] using hvalue
    simp [nearest, hzero]
  · have hnum' : 0 < num' := by
      have hpos : (0 : ℚ) < num' / den' := hvalue ▸ div_pos (hcast hnum) (hcast hden)
      rw [Nat.pos_iff_ne_zero]
      rintro rfl
      simp at hpos
    rw [nearest_eq s hnum hden, nearest_eq s hnum' hden', hvalue]

theorem nearest_neg (num den : Nat) : f.nearest true num den = (f.nearest false num den).neg := by
  unfold nearest
  split
  · rfl
  · dsimp only
    split
    · rfl
    · simp only [Datum.ofDyadic]
      split <;> rfl

theorem round_finite (s : Bool) (m : Nat) (e : Int) :
    f.round (.finite s m e) = f.nearest s (Datum.numerator m e) (Datum.denominator e) :=
  rfl

theorem nearest_ne_nan (s : Bool) (num den : Nat) : f.nearest s num den ≠ .nan := by
  intro hnan
  unfold nearest at hnan
  dsimp only at hnan
  split at hnan
  · cases hnan
  · split at hnan
    · cases hnan
    · rw [Datum.ofDyadic] at hnan
      split at hnan <;> cases hnan

theorem round_ne_nan {x : Datum} (hx : x ≠ .nan) : f.round x ≠ .nan := by
  cases x with
  | nan => exact absurd rfl hx
  | infinite s => exact hx
  | finite s m e => exact nearest_ne_nan s _ _

/-! ### Data of the format are kept -/

theorem unit_le_of_lt {n : Nat} {u : Int} (hn : 0 < n) (hmantissa : n < 2 ^ f.precision)
    (hmin : f.minExponent ≤ u) : f.unit ((n : ℚ) * 2 ^ u) ≤ u := by
  have hpos : (0 : ℚ) < (n : ℚ) * 2 ^ u := by positivity
  have hbelow : (n : ℚ) * 2 ^ u < ((2 : ℕ) : ℚ) ^ ((f.precision : ℤ) + u) := by
    rw [Nat.cast_two, zpow_add₀ two_ne_zero]
    gcongr
    exact_mod_cast hmantissa
  have hlog := (Int.lt_zpow_iff_log_lt one_lt_two hpos).1 hbelow
  rw [unit, max_le_iff]
  omega

/-- The datum nearest to the value of a datum of the format is this datum. -/
theorem nearest_of_holds (s : Bool) {n : Nat} {u : Int} (hmantissa : n < 2 ^ f.precision)
    (hmin : f.minExponent ≤ u) (hmax : u ≤ f.maxExponent) (hden : 0 < den)
    (hvalue : (num : ℚ) / den = n * 2 ^ u) : f.nearest s num den = .ofDyadic s n u := by
  rcases Nat.eq_zero_or_pos n with rfl | hn
  · have hnum : num = 0 := by
      rw [Nat.cast_zero, zero_mul, div_eq_zero_iff] at hvalue
      simpa [hden.ne'] using hvalue
    simp [nearest, hnum, Datum.ofDyadic]
  · have hnum : 0 < num := by
      have hpos : (0 : ℚ) < num / den := hvalue ▸ by positivity
      rw [Nat.pos_iff_ne_zero]
      rintro rfl
      simp at hpos
    have hunit := unit_le_of_lt hn hmantissa hmin
    have hexact : ((f.mantissa ((n : ℚ) * 2 ^ u) : ℕ) : ℚ) = n * 2 ^ (u - f.unit (n * 2 ^ u)) := by
      obtain ⟨k, hk⟩ : ∃ k : ℕ, u - f.unit ((n : ℚ) * 2 ^ u) = k := ⟨_, (Int.toNat_of_nonneg
        (Int.sub_nonneg.2 hunit)).symm⟩
      have hquotient : (n : ℚ) * 2 ^ u / 2 ^ f.unit (n * 2 ^ u) = ((n * 2 ^ k : ℤ) : ℚ) := by
        rw [mul_div_assoc, ← zpow_sub₀ two_ne_zero, hk]
        push_cast
        rw [zpow_natCast]
      have hrounded := f.mantissa_eq (q := (n : ℚ) * 2 ^ u) (by positivity)
      rw [hquotient, roundHalfEven_intCast] at hrounded
      rw [hk, zpow_natCast]
      exact_mod_cast hrounded
    have hfits : ¬ f.Overflows ((n : ℚ) * 2 ^ u) := by
      rintro (hlarge | ⟨hlast, hcarry⟩)
      · omega
      · have hsame : u - f.unit ((n : ℚ) * 2 ^ u) = 0 := by omega
        rw [hsame, zpow_zero, mul_one, Nat.cast_inj] at hexact
        omega
    rw [nearest_eq s hnum hden, hvalue, if_neg hfits]
    refine Datum.ofDyadic_congr s ?_
    rw [hexact, mul_assoc, ← zpow_add₀ two_ne_zero, sub_add_cancel]

theorem Holds.round_eq {x : Datum} (hx : f.Holds x) : f.round x = x := by
  rcases hx with _ | s | ⟨s, hmantissa, hmin, hmax⟩
  · rfl
  · rfl
  · next n u =>
    cases hdatum : Datum.ofDyadic s n u with
    | nan => simpa [hdatum, Datum.isFinite] using Datum.isFinite_ofDyadic s n u
    | infinite t => simpa [hdatum, Datum.isFinite] using Datum.isFinite_ofDyadic s n u
    | finite t m e =>
      obtain ⟨rfl, hmagnitude⟩ : t = s ∧ (m : ℚ) * 2 ^ e = n * 2 ^ u := by
        rw [Datum.ofDyadic] at hdatum
        by_cases hn : n = 0
        · rw [if_pos hn] at hdatum
          cases hdatum
          simp [hn]
        · rw [if_neg hn] at hdatum
          cases hdatum
          exact ⟨rfl, Datum.halve_value _ _ _⟩
      rw [round_finite, nearest_of_holds t hmantissa hmin hmax (Datum.denominator_pos e)
        ((Datum.numerator_div_denominator m e).trans hmagnitude), hdatum]

/-! ### The nearest datum -/

theorem mantissa_le (hprecision : 0 < f.precision) (hq : 0 < q) :
    f.mantissa q ≤ 2 ^ f.precision := by
  have hbelow : q / 2 ^ f.unit q ≤ ((2 ^ f.precision : ℤ) : ℚ) := by
    have hlog := Int.lt_zpow_succ_log_self (b := 2) one_lt_two q
    have hunit : Int.log 2 q + 1 ≤ f.precision + f.unit q := by
      have hmax := le_max_left (Int.log 2 q - (f.precision - 1 : ℕ)) f.minExponent
      rw [← unit] at hmax
      omega
    rw [div_le_iff₀ (by positivity)]
    calc q ≤ 2 ^ (Int.log 2 q + 1) := by exact_mod_cast hlog.le
      _ ≤ 2 ^ (f.precision + f.unit q : ℤ) := zpow_le_zpow_right₀ one_le_two hunit
      _ = ((2 ^ f.precision : ℤ) : ℚ) * 2 ^ f.unit q := by
        rw [zpow_add₀ two_ne_zero]
        norm_cast
  have hrounded := roundHalfEven_le_of_le hbelow
  rw [← mantissa_eq hq.le] at hrounded
  exact_mod_cast hrounded

theorem holds_nearest (s : Bool) (hprecision : 0 < f.precision) (hrange : f.minExponent ≤ 0)
    (hrange' : 0 ≤ f.maxExponent) (num : Nat) (hden : 0 < den) :
    f.Holds (f.nearest s num den) := by
  rcases Nat.eq_zero_or_pos num with rfl | hnum
  · have hzero : f.nearest s 0 den = .ofDyadic s 0 0 := rfl
    rw [hzero]
    exact .finite s (by positivity) hrange hrange'
  · rw [nearest_eq s hnum hden]
    have hq : (0 : ℚ) < num / den := by positivity
    generalize (num : ℚ) / den = q at hq
    by_cases hlarge : f.Overflows q
    · rw [if_pos hlarge]
      exact .infinite s
    · rw [if_neg hlarge]
      simp only [Overflows, not_or, not_and] at hlarge
      have hmin : f.minExponent ≤ f.unit q := le_max_right _ _
      rcases (f.mantissa_le hprecision hq).lt_or_eq with hshort | hcarry
      · exact .finite s hshort hmin (by omega)
      · -- A carry into a new bit is the next exponent with a mantissa that is a power of two.
        have hcongr : Datum.ofDyadic s (f.mantissa q) (f.unit q) =
            .ofDyadic s (2 ^ (f.precision - 1)) (f.unit q + 1) := by
          refine Datum.ofDyadic_congr s ?_
          obtain ⟨p, hp⟩ := Nat.exists_eq_succ_of_ne_zero hprecision.ne'
          rw [hcarry, hp, Nat.succ_sub_one, zpow_add_one₀ two_ne_zero, pow_succ]
          push_cast
          ring
        rw [hcongr]
        refine .finite s (Nat.pow_lt_pow_right one_lt_two (by omega)) (by omega) ?_
        have hnext := hlarge.2
        omega

/-- So every quotient is a datum of its format. -/
theorem holds_div (hprecision : 0 < f.precision) (hrange : f.minExponent ≤ 0)
    (hrange' : 0 ≤ f.maxExponent) (a b : Datum) : f.Holds (f.div a b) := by
  have hzero (s : Bool) : f.Holds (.ofDyadic s 0 0) := .finite s (by positivity) hrange hrange'
  match a, b with
  | .nan, _ => exact .nan
  | .infinite _, .nan => exact .nan
  | .finite .., .nan => exact .nan
  | .infinite _, .infinite _ => exact .nan
  | .infinite s, .finite t .. => exact .infinite (s != t)
  | .finite s .., .infinite t => exact hzero (s != t)
  | .finite s m e, .finite t n g =>
    simp only [div]
    split
    · split
      · exact .nan
      · exact .infinite (s != t)
    · next hn =>
      exact holds_nearest _ hprecision hrange hrange' _
        (Nat.mul_pos (Nat.pos_of_ne_zero hn) (Datum.denominator_pos _))

/-- The data of a format are those that rounding leaves alone. -/
theorem round_eq_self_iff (hprecision : 0 < f.precision) (hrange : f.minExponent ≤ 0)
    (hrange' : 0 ≤ f.maxExponent) {x : Datum} : f.round x = x ↔ f.Holds x := by
  refine ⟨fun hround => ?_, Holds.round_eq⟩
  cases x with
  | nan => exact .nan
  | infinite s => exact .infinite s
  | finite s m e =>
    rw [← hround, round_finite]
    exact holds_nearest s hprecision hrange hrange' _ (Datum.denominator_pos e)

instance : DecidablePred binary32.Holds := fun _ =>
  decidable_of_iff _ (round_eq_self_iff (by decide) (by decide) (by decide))

instance : DecidablePred binary64.Holds := fun _ =>
  decidable_of_iff _ (round_eq_self_iff (by decide) (by decide) (by decide))

/-- What the datum nearest to a number within range stands for. -/
theorem toRat_nearest (hnum : 0 < num) (hden : 0 < den) (hfits : ¬ f.Overflows ((num : ℚ) / den)) :
    (f.nearest false num den).toRat =
      f.mantissa ((num : ℚ) / den) * 2 ^ f.unit ((num : ℚ) / den) := by
  rw [nearest_eq false hnum hden, if_neg hfits, Datum.toRat_ofDyadic]
  simp

/-- The distance to a number on the grid of the last place. -/
theorem abs_grid_sub (f : Format) (q : ℚ) (z : ℤ) :
    |(z : ℚ) * 2 ^ f.unit q - q| = |q / 2 ^ f.unit q - z| * 2 ^ f.unit q := by
  have hpos : (0 : ℚ) < 2 ^ f.unit q := by positivity
  rw [abs_sub_comm]
  nth_rewrite 3 [← abs_of_pos hpos]
  rw [← abs_mul, sub_mul, div_mul_cancel₀ _ hpos.ne']

theorem abs_mantissa_sub (hq : 0 < q) :
    |(f.mantissa q : ℚ) * 2 ^ f.unit q - q| =
      |q / 2 ^ f.unit q - roundHalfEven (q / 2 ^ f.unit q)| * 2 ^ f.unit q := by
  rw [← abs_grid_sub, ← mantissa_eq hq.le, Int.cast_natCast]

/-- On the grid of the last place no number is nearer. -/
theorem mantissa_nearest (hq : 0 < q) (j : ℤ) :
    |(f.mantissa q : ℚ) * 2 ^ f.unit q - q| ≤ |(j : ℚ) * 2 ^ f.unit q - q| := by
  rw [abs_mantissa_sub hq, abs_grid_sub]
  exact mul_le_mul_of_nonneg_right (roundHalfEven_le _ j) (by positivity)

theorem abs_mantissa_sub_le (hq : 0 < q) :
    |(f.mantissa q : ℚ) * 2 ^ f.unit q - q| ≤ 2 ^ (f.unit q - 1) := by
  calc |(f.mantissa q : ℚ) * 2 ^ f.unit q - q|
      = |q / 2 ^ f.unit q - roundHalfEven (q / 2 ^ f.unit q)| * 2 ^ f.unit q := abs_mantissa_sub hq
    _ ≤ 1 / 2 * 2 ^ f.unit q := by
        gcongr
        exact abs_sub_roundHalfEven_le _
    _ = 2 ^ (f.unit q - 1) := by
        rw [zpow_sub_one₀ two_ne_zero]
        ring

/-- Where a finer grid exists, a number has a mantissa of full length. -/
theorem power_le_of_lt_unit {u : Int} (hq : 0 < q) (hmin : f.minExponent ≤ u) (hu : u < f.unit q) :
    ((2 ^ (f.precision - 1) : ℤ) : ℚ) * 2 ^ f.unit q ≤ q := by
  have hlog : f.unit q = Int.log 2 q - (f.precision - 1 : ℕ) := by
    rcases max_choice (Int.log 2 q - (f.precision - 1 : ℕ)) f.minExponent with h | h
    · rw [unit, h]
    · rw [unit, h] at hu
      omega
  have hexponent : (2 : ℚ) ^ Int.log 2 q = 2 ^ (f.precision - 1) * 2 ^ f.unit q := by
    rw [← zpow_natCast, ← zpow_add₀ two_ne_zero, hlog]
    congr 1
    omega
  have hself := Int.zpow_log_le_self (b := 2) one_lt_two hq
  rw [Nat.cast_two, hexponent] at hself
  exact_mod_cast hself

/-- A magnitude on a finer grid is at most the least one with a mantissa of full length. -/
theorem magnitude_le_power {n : Nat} {u unit : Int} (hprecision : 0 < f.precision)
    (hmantissa : n < 2 ^ f.precision) (hu : u < unit) :
    (n : ℚ) * 2 ^ u ≤ ((2 ^ (f.precision - 1) : ℤ) : ℚ) * 2 ^ unit := by
  calc (n : ℚ) * 2 ^ u ≤ 2 ^ f.precision * 2 ^ u := by
        gcongr
        exact_mod_cast hmantissa.le
    _ = 2 ^ (f.precision + u : ℤ) := by rw [zpow_add₀ two_ne_zero, zpow_natCast]
    _ ≤ 2 ^ ((f.precision - 1 : ℕ) + unit : ℤ) := zpow_le_zpow_right₀ one_le_two (by omega)
    _ = ((2 ^ (f.precision - 1) : ℤ) : ℚ) * 2 ^ unit := by
        rw [zpow_add₀ two_ne_zero, zpow_natCast]
        norm_cast

/-- What is computed as the nearest datum is nearest. -/
theorem isNearest_nearest (hprecision : 0 < f.precision) (hrange : f.minExponent ≤ 0)
    (hrange' : 0 ≤ f.maxExponent) (hnum : 0 < num) (hden : 0 < den)
    (hfits : ¬ f.Overflows ((num : ℚ) / den)) :
    f.IsNearest ((num : ℚ) / den) (f.nearest false num den) := by
  refine ⟨holds_nearest false hprecision hrange hrange' num hden, ?_, ?_⟩
  · rw [nearest_eq false hnum hden, if_neg hfits]
    exact Datum.isFinite_ofDyadic ..
  · intro y hy hfinite
    rw [toRat_nearest hnum hden hfits]
    have hq : (0 : ℚ) < num / den := by positivity
    generalize (num : ℚ) / den = q at hq
    rcases hy with _ | s | ⟨s, hmantissa, hmin, hmax⟩
    · cases hfinite
    · cases hfinite
    · next n u =>
      rw [Datum.toRat_ofDyadic]
      rcases le_or_gt (f.unit q) u with hcoarse | hfine
      · -- The other datum lies on the grid of the last place.
        obtain ⟨k, hk⟩ : ∃ k : ℕ, u = k + f.unit q := ⟨(u - f.unit q).toNat, by omega⟩
        have hgrid : (if s then -1 else 1 : ℚ) * (n * 2 ^ u) =
            ((if s then -(n * 2 ^ k : ℤ) else n * 2 ^ k : ℤ) : ℚ) * 2 ^ f.unit q := by
          rw [hk, zpow_add₀ two_ne_zero, zpow_natCast]
          cases s <;> simp [mul_assoc]
        rw [hgrid]
        exact mantissa_nearest hq _
      · -- The other datum is smaller than a power of two that the number reaches.
        have hpower := power_le_of_lt_unit hq hmin hfine
        have hbelow : (if s then -1 else 1 : ℚ) * (n * 2 ^ u) ≤
            ((2 ^ (f.precision - 1) : ℤ) : ℚ) * 2 ^ f.unit q := by
          have hmagnitude := magnitude_le_power hprecision hmantissa hfine
          have hnonneg : (0 : ℚ) ≤ (n : ℚ) * 2 ^ u := by positivity
          cases s
          · simpa using hmagnitude
          · simp only [if_true]
            linarith
        refine (mantissa_nearest hq (2 ^ (f.precision - 1))).trans ?_
        rw [abs_of_nonpos (by linarith), abs_of_nonpos (by linarith)]
        linarith

/-- Rounding does not pass a datum of the format. -/
theorem IsNearest.toRat_le {x y : Datum} (hx : f.IsNearest q x) (hy : f.Holds y)
    (hfinite : y.isFinite) (hle : q ≤ y.toRat) : x.toRat ≤ y.toRat := by
  have hnear := hx.le y hy hfinite
  by_contra hgt
  rw [abs_of_nonneg (by linarith), abs_of_nonneg (by linarith)] at hnear
  linarith

theorem IsNearest.le_toRat {x y : Datum} (hx : f.IsNearest q x) (hy : f.Holds y)
    (hfinite : y.isFinite) (hle : y.toRat ≤ q) : y.toRat ≤ x.toRat := by
  have hnear := hx.le y hy hfinite
  by_contra hlt
  rw [abs_of_nonpos (by linarith), abs_of_nonpos (by linarith)] at hnear
  linarith

/-- Rounding keeps the order of two numbers. -/
theorem IsNearest.toRat_mono {r : ℚ} {x y : Datum} (hx : f.IsNearest q x) (hy : f.IsNearest r y)
    (hlt : q < r) : x.toRat ≤ y.toRat := by
  have hleft := sq_le_sq.2 (hx.le y hy.holds hy.isFinite)
  have hright := sq_le_sq.2 (hy.le x hx.holds hx.isFinite)
  by_contra hgt
  have hgap : 0 < x.toRat - y.toRat := by linarith
  -- The middle of the two data would be at most the one number and at least the other.
  have hbelow : (x.toRat - y.toRat) * (x.toRat + y.toRat - 2 * q) ≤ 0 := by linarith
  have habove : 0 ≤ (x.toRat - y.toRat) * (x.toRat + y.toRat - 2 * r) := by linarith
  have hmiddle := nonpos_of_mul_nonpos_right hbelow hgap
  have hmiddle' := nonneg_of_mul_nonneg_right habove hgap
  linarith

/-- A number below the power of two of the largest datum does not overflow. -/
theorem not_overflows (hexponents : f.minExponent < f.maxExponent) (hq : 0 < q)
    (hsmall : q < 2 ^ (f.maxExponent + (f.precision - 1 : ℕ))) : ¬ f.Overflows q := by
  have hlog : Int.log 2 q < f.maxExponent + (f.precision - 1 : ℕ) :=
    (Int.lt_zpow_iff_log_lt one_lt_two hq).1 (by rwa [Nat.cast_ofNat])
  have hunit : f.unit q < f.maxExponent := by
    rw [unit, max_lt_iff]
    exact ⟨by omega, hexponents⟩
  rintro (hlarge | ⟨hlast, -⟩)
  · omega
  · omega

/-- What is computed for a quotient below this power of two is nearest to it. -/
theorem isNearest_of_lt (num : Nat) (hden : 0 < den) (hprecision : 0 < f.precision)
    (hrange : f.minExponent ≤ 0) (hrange' : 0 ≤ f.maxExponent)
    (hexponents : f.minExponent < f.maxExponent)
    (hsmall : (num : ℚ) / den < 2 ^ (f.maxExponent + (f.precision - 1 : ℕ))) :
    f.IsNearest ((num : ℚ) / den) (f.nearest false num den) := by
  rcases Nat.eq_zero_or_pos num with rfl | hnum
  · refine ⟨holds_nearest false hprecision hrange hrange' 0 hden, rfl, fun y _ _ => ?_⟩
    have hzero : (f.nearest false 0 den).toRat = 0 := by
      simp [nearest, Datum.zeroOf, Datum.toRat]
    rw [hzero, Nat.cast_zero, zero_div, sub_zero, abs_zero]
    exact abs_nonneg _
  · exact isNearest_nearest hprecision hrange hrange' hnum hden
      (not_overflows hexponents (by positivity) hsmall)

/-- What is computed as nearest has no sign. -/
theorem exists_eq_of_isFinite (num : Nat) (hden : 0 < den)
    (hfinite : (f.nearest false num den).isFinite) :
    ∃ m e, f.nearest false num den = .finite false m e := by
  rcases Nat.eq_zero_or_pos num with rfl | hnum
  · exact ⟨0, 0, rfl⟩
  · rw [nearest_eq false hnum hden] at hfinite ⊢
    split at hfinite
    · cases hfinite
    · next hfits =>
      rw [if_neg hfits, Datum.ofDyadic]
      split
      · exact ⟨0, 0, rfl⟩
      · exact ⟨_, _, rfl⟩

/-- Below `2 ^ k` the nearest datum is off by at most half a unit of the last place there. -/
theorem abs_nearest_sub_le_zpow {k : Int} (num : Nat) (hden : 0 < den)
    (hexponents : f.minExponent < f.maxExponent) (hmin : f.minExponent + f.precision ≤ k)
    (hmax : k ≤ f.maxExponent + (f.precision - 1 : ℕ)) (hsmall : (num : ℚ) / den < 2 ^ k) :
    |(f.nearest false num den).toRat - (num : ℚ) / den| ≤ 2 ^ (k - f.precision - 1) := by
  rcases Nat.eq_zero_or_pos num with rfl | hnum
  · have hpos : (0 : ℚ) < 2 ^ (k - f.precision - 1) := by positivity
    simpa [nearest, Datum.zeroOf, Datum.toRat] using hpos.le
  · have hq : (0 : ℚ) < num / den := by positivity
    have hfits : ¬ f.Overflows ((num : ℚ) / den) :=
      not_overflows hexponents hq (hsmall.trans_le (zpow_le_zpow_right₀ one_le_two hmax))
    have hlog : Int.log 2 ((num : ℚ) / den) < k :=
      (Int.lt_zpow_iff_log_lt one_lt_two hq).1 (by rwa [Nat.cast_ofNat])
    have hunit : f.unit ((num : ℚ) / den) ≤ k - f.precision := by
      rw [unit, max_le_iff]
      omega
    rw [toRat_nearest hnum hden hfits]
    exact (abs_mantissa_sub_le hq).trans (zpow_le_zpow_right₀ one_le_two (by omega))

/-! ### Doubles -/

/-- The double that is computed for a quotient within range is a nearest one. -/
theorem isNearest_binary64 (num : Nat) (hden : 0 < den)
    (hsmall : (num : ℚ) / den < 2 ^ (1023 : ℤ)) :
    binary64.IsNearest ((num : ℚ) / den) (binary64.nearest false num den) :=
  isNearest_of_lt num hden (by decide) (by decide) (by decide) (by decide) hsmall

/-- So do the doubles that are computed for two quotients. -/
theorem toRat_nearest_mono {num' den' : Nat} (hden : 0 < den) (hden' : 0 < den')
    (hle : (num : ℚ) / den ≤ num' / den') (hsmall : (num' : ℚ) / den' < 2 ^ (1023 : ℤ)) :
    (binary64.nearest false num den).toRat ≤ (binary64.nearest false num' den').toRat := by
  rcases hle.eq_or_lt with heq | hlt
  · rw [nearest_congr false hden hden' heq]
  · exact (isNearest_binary64 num hden (hlt.trans hsmall)).toRat_mono
      (isNearest_binary64 num' hden' hsmall) hlt

/-- The double that is computed for a quotient is a nearest one, unless it is infinite. -/
theorem isNearest_or_infinite (num : Nat) (hden : 0 < den) :
    binary64.IsNearest ((num : ℚ) / den) (binary64.nearest false num den) ∨
      binary64.nearest false num den = .infinite false := by
  rcases Nat.eq_zero_or_pos num with rfl | hnum
  · exact .inl (isNearest_binary64 0 hden (by simp))
  · by_cases hlarge : binary64.Overflows ((num : ℚ) / den)
    · exact .inr (by rw [nearest_eq false hnum hden, if_pos hlarge])
    · exact .inl (isNearest_nearest (by decide) (by decide) (by decide) hnum hden hlarge)

/-- A quotient that does not lie between two doubles is rounded to the side on which it lies. -/
theorem nearest_le_iff {low high : Datum} (hden : 0 < den) (hlow : binary64.Holds low)
    (hlowFinite : low.isFinite) (hhigh : binary64.Holds high) (hhighFinite : high.isFinite)
    (hgap : low.toRat < high.toRat) (hrange : low.toRat < 2 ^ (1023 : ℤ))
    (hside : (num : ℚ) / den ≤ low.toRat ∨ high.toRat ≤ num / den) :
    (binary64.nearest false num den).le low ↔ (num : ℚ) / den ≤ low.toRat := by
  rcases isNearest_or_infinite num hden with hnear | hlarge
  · rw [Datum.le_iff hnear.isFinite hlowFinite]
    refine ⟨fun hle => ?_, hnear.toRat_le hlow hlowFinite⟩
    rcases hside with hbelow | habove
    · exact hbelow
    · have hge := hnear.le_toRat hhigh hhighFinite habove
      linarith
  · have hbeyond : ¬ (num : ℚ) / den ≤ low.toRat := by
      intro hbelow
      have hnear := isNearest_binary64 num hden (hbelow.trans_lt hrange)
      rw [hlarge] at hnear
      cases hnear.isFinite
    rw [hlarge]
    refine ⟨fun hle => ?_, fun hbelow => absurd hbelow hbeyond⟩
    cases low with
    | nan => cases hlowFinite
    | infinite s => cases hlowFinite
    | finite s m e => cases hle

/-! ### Quotients of the unit interval -/

theorem quotient_le_one (hle : num ≤ den) : (num : ℚ) / den ≤ 1 :=
  div_le_one_of_le₀ (by exact_mod_cast hle) (by positivity)

theorem isNearest_of_le (hden : 0 < den) (hle : num ≤ den) :
    binary64.IsNearest ((num : ℚ) / den) (binary64.nearest false num den) :=
  isNearest_binary64 num hden
    ((quotient_le_one hle).trans_lt (one_lt_zpow₀ one_lt_two (by decide)))

theorem toRat_nearest_nonneg (hden : 0 < den) (hle : num ≤ den) :
    0 ≤ (binary64.nearest false num den).toRat := by
  rw [← Datum.toRat_zero]
  refine (isNearest_of_le hden hle).le_toRat (by decide) rfl ?_
  rw [Datum.toRat_zero]
  positivity

theorem toRat_nearest_le_one (hden : 0 < den) (hle : num ≤ den) :
    (binary64.nearest false num den).toRat ≤ 1 := by
  rw [← Datum.toRat_one]
  refine (isNearest_of_le hden hle).toRat_le (by decide) rfl ?_
  rw [Datum.toRat_one]
  exact quotient_le_one hle

/-- The nearest double is off by at most half a unit of the last place of one. -/
theorem abs_nearest_sub_le (hden : 0 < den) (hle : num ≤ den) :
    |(binary64.nearest false num den).toRat - (num : ℚ) / den| ≤ 2 ^ (-53 : ℤ) :=
  abs_nearest_sub_le_zpow (f := binary64) (k := 1) num hden (by decide) (by decide) (by decide)
    ((quotient_le_one hle).trans_lt (by norm_num))

end Format

end DenseSketch

/-!
## Sums, products and integer parts

A sum or a product of finite data without a sign is the datum nearest to the exact one, and cutting
off the fraction of such a datum is taking its floor.
-/

namespace DenseSketch

namespace Format

/-- A product is what is computed for the exact product. -/
theorem exists_mul_eq (f : Format) (m : Nat) (e : Int) (n : Nat) (g : Int) :
    ∃ num den : ℕ, 0 < den ∧ (num : ℚ) / den = m * 2 ^ e * (n * 2 ^ g) ∧
      f.mul (.finite false m e) (.finite false n g) = f.nearest false num den := by
  refine ⟨Datum.numerator (m * n) (e + g), _, Datum.denominator_pos (e + g), ?_, rfl⟩
  rw [Datum.numerator_div_denominator, zpow_add₀ two_ne_zero]
  push_cast
  ring

/-- A sum is what is computed for the exact sum. -/
theorem exists_add_eq (f : Format) (m : Nat) (e : Int) (n : Nat) (g : Int) :
    ∃ num den : ℕ, 0 < den ∧ (num : ℚ) / den = m * 2 ^ e + n * 2 ^ g ∧
      f.add (.finite false m e) (.finite false n g) = f.nearest false num den := by
  have hleft := Datum.scaled_eq false m (Int.min_le_left e g)
  have hright := Datum.scaled_eq false n (Int.min_le_right e g)
  have hnonneg : ∀ (k : Nat) (unit exponent : Int), 0 ≤ Datum.scaled false k exponent unit := by
    intro k unit exponent
    simp only [Datum.scaled, Bool.false_eq_true, if_false]
    omega
  let sum := Datum.scaled false m e (min e g) + Datum.scaled false n g (min e g)
  have hsum : (sum : ℚ) * 2 ^ min e g = m * 2 ^ e + n * 2 ^ g := by
    simp only [sum, Int.cast_add, add_mul, hleft, hright]
    simp [Datum.toRat]
  have hsumNonneg : 0 ≤ sum := Int.add_nonneg (hnonneg ..) (hnonneg ..)
  have habs : ((sum.natAbs : ℕ) : ℚ) = sum := by
    rw [← Int.cast_natCast, Int.natAbs_of_nonneg hsumNonneg]
  refine ⟨Datum.numerator sum.natAbs (min e g), _, Datum.denominator_pos (min e g), ?_, ?_⟩
  · rw [Datum.numerator_div_denominator, habs, hsum]
  · change (if sum = 0 then Datum.zeroOf (false && false)
      else f.ofDyadic (sum < 0) sum.natAbs (min e g)) = _
    split
    · next hzero =>
      rw [hzero]
      simp [nearest, Datum.numerator]
    · rw [decide_eq_false (not_lt.2 hsumNonneg)]
      rfl

end Format

namespace Datum

theorem truncate?_eq_floor (m : Nat) (e : Int) :
    (Datum.finite false m e).truncate? = some ⌊(m : ℚ) * 2 ^ e⌋ := by
  rw [← numerator_div_denominator, Rat.floor_natCast_div_natCast]
  rfl

end Datum

end DenseSketch
