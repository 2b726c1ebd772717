import DenseSketch.Message.Frame
import DenseSketch.Proofs.List.Monadic
import DenseSketch.Proofs.Message.Fields
import DenseSketch.Proofs.Text.Lines

/-!
# Regression messages are read back

Every value is moved into the unit interval and written with three places, and the message is read
as the doubles nearest to these.  The grammar is `R,<v1>,...,<vN>` of SPEC_FULL, section 4.3.
-/

namespace DenseSketch

namespace Datum

/-- The number of the unit interval that a datum is moved to; what is not a number counts as zero. -/
def unitValue : Datum → ℚ
  | .nan => 0
  | .infinite s => if s then 0 else 1
  | .finite s m e => max 0 (min 1 (toRat (.finite s m e)))

theorem unitValue_nonneg (v : Datum) : 0 ≤ v.unitValue := by
  cases v with
  | nan => exact le_refl 0
  | infinite s =>
    cases s
    · exact zero_le_one
    · exact le_refl 0
  | finite s m e => exact le_max_left ..

theorem unitValue_le_one (v : Datum) : v.unitValue ≤ 1 := by
  cases v with
  | nan => exact zero_le_one
  | infinite s =>
    cases s
    · exact le_refl 1
    · exact zero_le_one
  | finite s m e => exact max_le zero_le_one (min_le_left ..)

theorem unitValue_of_isFinite {v : Datum} (hfinite : v.isFinite) :
    v.unitValue = max 0 (min 1 v.toRat) := by
  cases v with
  | nan => cases hfinite
  | infinite s => cases hfinite
  | finite s m e => rfl

/-- A finite datum of the unit interval is not moved. -/
theorem unitValue_eq_toRat {v : Datum} (hfinite : v.isFinite) (hlow : 0 ≤ v.toRat)
    (hhigh : v.toRat ≤ 1) : v.unitValue = v.toRat := by
  rw [unitValue_of_isFinite hfinite, min_eq_right hhigh, max_eq_right hlow]

/-- What lies strictly within the unit interval has not been moved. -/
theorem toRat_eq_unitValue {v : Datum} (hlow : 0 < v.unitValue) (hhigh : v.unitValue < 1) :
    v.toRat = v.unitValue := by
  cases v with
  | nan => exact absurd hlow (lt_irrefl 0)
  | infinite s =>
    cases s with
    | false => exact absurd hhigh (lt_irrefl 1)
    | true => exact absurd hlow (lt_irrefl 0)
  | finite s m e =>
    rw [unitValue] at hlow hhigh ⊢
    have hpos := (lt_max_iff.1 hlow).resolve_left (lt_irrefl 0)
    rw [max_eq_right hpos.le] at hhigh ⊢
    rw [min_eq_right ((min_lt_iff.1 hhigh).resolve_left (lt_irrefl 1)).le]

/-- The datum that is written has no sign and this value. -/
theorem exists_clampUnit_eq (v : Datum) :
    ∃ m e, v.clampUnit = .finite false m e ∧ (m : ℚ) * 2 ^ e = v.unitValue := by
  cases v with
  | nan => exact ⟨0, 0, rfl, by simp [unitValue]⟩
  | infinite s =>
    cases s with
    | false => exact ⟨1, 0, rfl, by simp [unitValue]⟩
    | true => exact ⟨0, 0, rfl, by simp [unitValue]⟩
  | finite s m e =>
    have hzero : (zero.lt (.finite s m e) : Prop) ↔ 0 < toRat (.finite s m e) := by
      rw [lt_iff rfl rfl, toRat_zero]
    have hone : ((Datum.finite s m e).lt one : Prop) ↔ toRat (.finite s m e) < 1 := by
      rw [lt_iff rfl rfl, toRat_one]
    rw [clampUnit, unitValue]
    by_cases hpos : 0 < toRat (.finite s m e)
    · obtain rfl := sign_eq_false hpos
      rw [if_pos (hzero.2 hpos)]
      by_cases hbelow : toRat (.finite false m e) < 1
      · refine ⟨m, e, if_pos (hone.2 hbelow), ?_⟩
        rw [min_eq_right hbelow.le, max_eq_right hpos.le]
        simp [toRat]
      · refine ⟨1, 0, if_neg (mt hone.1 hbelow), ?_⟩
        rw [min_eq_left (not_lt.1 hbelow), max_eq_right zero_le_one]
        simp
    · refine ⟨0, 0, ?_, ?_⟩
      · rw [if_neg (mt hzero.1 hpos)]
        rfl
      · have hmin : min 1 (toRat (.finite s m e)) ≤ 0 := (min_le_right ..).trans (not_lt.1 hpos)
        rw [max_eq_left hmin]
        simp

end Datum

namespace Message

/-- The thousandths of the unit interval that a value is written as. -/
def thousandths (v : Datum) : ℕ := (roundHalfEven (1000 * v.unitValue)).toNat

theorem thousandths_eq (v : Datum) : (thousandths v : ℤ) = roundHalfEven (1000 * v.unitValue) := by
  have hnonneg : ((0 : ℤ) : ℚ) ≤ 1000 * v.unitValue := by
    have hvalue := v.unitValue_nonneg
    push_cast
    positivity
  exact Int.toNat_of_nonneg (le_roundHalfEven_of_le hnonneg)

theorem thousandths_le (v : Datum) : thousandths v ≤ 1000 := by
  have hbound : roundHalfEven (1000 * v.unitValue) ≤ 1000 := by
    refine roundHalfEven_le_of_le ?_
    have hvalue := v.unitValue_le_one
    push_cast
    linarith
  have hunits := thousandths_eq v
  omega

theorem toList_valueField (v : Datum) : (valueField v).toList = placedText 3 (thousandths v) := by
  obtain ⟨m, e, hclamp, hvalue⟩ := v.exists_clampUnit_eq
  have hunits : (valueStyle.units m e : ℤ) = thousandths v := by
    rw [valueStyle, FixedStyle.units_toEven, thousandths_eq, hvalue]
    norm_num
  have htext : valueStyle.text (.finite false m e) = placedText 3 (valueStyle.units m e) := rfl
  rw [valueField, hclamp, String.toList_ofList, htext, Int.ofNat.inj hunits]

/-! ### Messages -/

/-- The line of a message without its end. -/
def regressionBody (values : List Datum) : String :=
  ",".intercalate (regressionTag :: values.map valueField)

theorem toList_regressionBody (values : List Datum) :
    (regressionBody values).toList =
      'R' :: values.flatMap fun v => ',' :: (valueField v).toList := by
  rw [regressionBody, Text.toList_intercalate_cons, List.flatMap_map]
  rfl

theorem frameRegression_eq_ok {values : List Datum} (hvalues : values ≠ []) :
    frameRegression values = .ok (regressionBody values ++ "\n") := by
  rw [frameRegression, List.isEmpty_eq_false_iff.2 hvalues]
  rfl

theorem fields_regressionBody (values : List Datum) :
    fields (regressionBody values).toList =
      regressionTag.toList :: values.map fun v => placedText 3 (thousandths v) := by
  have hitems : (regressionTag :: values.map valueField).map String.toList =
      regressionTag.toList :: values.map fun v => placedText 3 (thousandths v) := by
    rw [List.map_cons, List.map_map]
    congr 1
    exact List.map_congr_left fun v _ => toList_valueField v
  rw [fields, regressionBody, String.toList_intercalate, hitems]
  refine List.splitOn_intercalate separator ?_ (List.cons_ne_nil _ _)
  intro item hitem
  rcases List.mem_cons.1 hitem with rfl | hitem
  · decide
  · obtain ⟨v, _, rfl⟩ := List.mem_map.1 hitem
    exact separator_not_mem_placedText 3 (thousandths v)

theorem regressionBody_ends (values : List Datum) :
    (regressionBody values).toList.getLast? ≠ some '\r' := by
  intro hlast
  rcases Text.mem_or_of_mem_intercalate (List.mem_of_getLast? hlast) with hmem | ⟨item, hitem, hmem⟩
  · revert hmem
    decide
  · rcases List.mem_cons.1 hitem with rfl | hitem
    · revert hmem
      decide
    · obtain ⟨v, _, rfl⟩ := List.mem_map.1 hitem
      rw [toList_valueField] at hmem
      exact (isDigit_or_point_of_mem_placedText hmem).elim (by decide) (by decide)

theorem payload_regressionBody (values : List Datum) :
    payload (regressionBody values ++ "\n") = (regressionBody values).toList := by
  have hchars : (regressionBody values ++ "\n").toList = (regressionBody values).toList ++ ['\n'] :=
    String.toList_append
  rw [payload, hchars, dropLineFeed_concat, dropReturns_eq_self (regressionBody_ends values)]

/-! ### Reading -/

/-- What is read for a value: the double nearest to `k / 1000`, where `k` is the integer nearest to
    one thousand times the value in the unit interval. -/
def IsReported (v x : Datum) : Prop :=
  ∃ k : ℕ, (k : ℤ) = roundHalfEven (1000 * v.unitValue) ∧ k ≤ 1000 ∧
    x = Format.binary64.nearest false k 1000 ∧ Format.binary64.IsNearest ((k : ℚ) / 1000) x ∧
    |x.toRat - v.unitValue| ≤ 1 / 2000 + 2 ^ (-53 : ℤ)

/-- The double that is read for a value. -/
def reported (v : Datum) : Datum := Format.binary64.nearest false (thousandths v) 1000

theorem isNearest_reported (v : Datum) :
    Format.binary64.IsNearest ((thousandths v : ℚ) / 1000) (reported v) := by
  exact_mod_cast Format.isNearest_of_le (by decide : 0 < 1000) (thousandths_le v)

theorem isReported_reported (v : Datum) : IsReported v (reported v) := by
  refine ⟨thousandths v, thousandths_eq v, thousandths_le v, rfl, isNearest_reported v, ?_⟩
  have hround := Format.abs_nearest_sub_le (by decide : 0 < 1000) (thousandths_le v)
  have hunits := abs_sub_roundHalfEven_le (1000 * v.unitValue)
  rw [← thousandths_eq, Int.cast_natCast] at hunits
  have hplaces : |(thousandths v : ℚ) / (1000 : ℕ) - v.unitValue| ≤ 1 / 2000 := by
    have hscale : (thousandths v : ℚ) / (1000 : ℕ) - v.unitValue =
        -(1000 * v.unitValue - thousandths v) / 1000 := by
      push_cast
      ring
    rw [hscale, abs_div, abs_neg, abs_of_pos (by norm_num : (0 : ℚ) < 1000),
      div_le_iff₀ (by norm_num)]
    linarith
  calc |(reported v).toRat - v.unitValue|
      ≤ |(reported v).toRat - (thousandths v : ℚ) / (1000 : ℕ)| +
          |(thousandths v : ℚ) / (1000 : ℕ) - v.unitValue| := abs_sub_le ..
    _ ≤ 2 ^ (-53 : ℤ) + 1 / 2000 := add_le_add hround hplaces
    _ = 1 / 2000 + 2 ^ (-53 : ℤ) := add_comm ..

/-- No value that is read is too large. -/
theorem not_one_lt_reported (v : Datum) : Datum.one.lt (reported v) = false := by
  rw [Bool.eq_false_iff, ne_eq, Datum.lt_iff rfl (isNearest_reported v).isFinite, not_lt,
    Datum.toRat_one]
  exact Format.toRat_nearest_le_one (by decide) (thousandths_le v)

theorem fieldValue_thousandths (v : Datum) :
    fieldValue (placedText 3 (thousandths v)) = .ok (reported v) := by
  have hthousand : 10 ^ 3 = 1000 := by decide
  rw [reported, ← hthousand]
  exact fieldValue_placedText 3 (thousandths v)

theorem parseRegression_regressionBody (line : String) (values : List Datum) :
    parseRegression line (regressionBody values).toList =
      .ok (.regression (values.map reported)) := by
  have hraw : (fields (regressionBody values).toList).drop 1 =
      values.map fun v => placedText 3 (thousandths v) := by
    rw [fields_regressionBody]
    rfl
  have hform : (values.map fun v => placedText 3 (thousandths v)).all isValue = true := by
    rw [List.all_map, List.all_eq_true]
    intro v _
    rw [Function.comp_apply]
    exact isValue_placedText (thousandths_le v)
  have hread : (values.map fun v => placedText 3 (thousandths v)).mapM fieldValue =
      .ok (values.map reported) := by
    have hsteps : ∀ v ∈ values, (fieldValue ∘ fun v => placedText 3 (thousandths v)) v =
        pure (reported v) := by
      intro v _
      rw [Function.comp_apply, fieldValue_thousandths]
      rfl
    rw [List.mapM_map, mapM_eq_pure_map hsteps]
    rfl
  have hrange : (values.map reported).any (Datum.lt .one) = false := by
    rw [List.any_map, List.any_eq_false]
    intro v _
    rw [Function.comp_apply, not_one_lt_reported]
    exact Bool.false_ne_true
  simp only [parseRegression, hraw, hform, hread, hrange, Bool.not_true, Bool.false_eq_true,
    if_false, bind, Except.bind, pure, Except.pure]

/-- **A regression message is read back.**  For all values, whatever they are, the message is
    accepted, and as many values are read as were written, each one as it was reported. -/
theorem parse_frameRegression {values : List Datum} (hvalues : values ≠ []) :
    ∃ message decoded, frameRegression values = .ok message ∧
      parse message = .ok (.regression decoded) ∧ List.Forall₂ IsReported values decoded := by
  have hframe := frameRegression_eq_ok hvalues
  obtain ⟨v, rest, rfl⟩ := List.exists_cons_of_ne_nil hvalues
  have hbody : (regressionBody (v :: rest)).toList =
      'R' :: ',' :: (",".intercalate ((v :: rest).map valueField)).toList := by
    rw [regressionBody, List.map_cons, String.intercalate_cons_cons, String.toList_append,
      String.toList_append]
    rfl
  refine ⟨_, (v :: rest).map reported, hframe, ?_, ?_⟩
  · have htag : (regressionTag.toList ++ [separator]).isPrefixOf
        (regressionBody (v :: rest)).toList = true := by
      rw [hbody]
      rfl
    have hempty : (regressionBody (v :: rest)).toList.isEmpty = false := by
      rw [hbody]
      rfl
    rw [parse, payload_regressionBody]
    simp only [hempty, htag, parseRegression_regressionBody, Bool.false_eq_true, if_false, if_true]
  · rw [List.forall₂_map_right_iff, List.forall₂_same]
    exact fun v _ => isReported_reported v

theorem parse_frameRegression_sample :
    ∃ message decoded,
      frameRegression [.nan, .infinite false, .zeroOf true, .finite true 3 2, .finite false 1 (-1)] =
          .ok message ∧
        parse message = .ok (.regression decoded) ∧
        List.Forall₂ IsReported
          [.nan, .infinite false, .zeroOf true, .finite true 3 2, .finite false 1 (-1)] decoded :=
  parse_frameRegression (by decide)

end Message

end DenseSketch
