import DenseSketch.Proofs.Message.Accepted
import DenseSketch.Proofs.Message.Winner

/-!
# Which reports of a class are legal

The reader of classes asks less than the check of labels and the framing of confidences grant: it
takes every text in front of the last separator for a label, and every decimal behind it for a
percentage.  Legal are exactly the reports that a board could have sent.
-/

namespace DenseSketch.Message

/-- The report names an accepted label, and its confidence is a percentage. -/
def IsLegal (label : String) (confidence : Datum) : Prop :=
  checkLabels .classification [label] = .ok () ∧ Datum.zero.le confidence ∧ confidence.le hundred

instance (label : String) (confidence : Datum) : Decidable (IsLegal label confidence) :=
  inferInstanceAs (Decidable (_ ∧ _ ∧ _))

variable {line label : String} {field : List Char}

/-- A single label is accepted if it is not the tag, is not blank and has no character that would
    end its field or its literal. -/
theorem checkLabels_singleton :
    checkLabels .classification [label] = .ok () ↔
      label ≠ regressionTag ∧ Text.strip label ≠ "" ∧
        ∀ c ∈ ['\n', '\r', '\\', '"', separator], c ∉ label.toList := by
  rw [checkLabels_eq_ok, List.forall_mem_singleton, checkLabel_eq_ok]
  simp only [List.forall_mem_cons, true_implies]
  constructor
  · rintro ⟨-, hblank, ⟨hfeed, hreturn⟩, ⟨hbackslash, hquote⟩, hseparator, htag⟩
    exact ⟨htag, hblank, hfeed, hreturn, hbackslash, hquote, hseparator, List.forall_mem_nil _⟩
  · rintro ⟨htag, hblank, hfeed, hreturn, hbackslash, hquote, hseparator, -⟩
    exact ⟨List.cons_ne_nil _ _, hblank, ⟨hfeed, hreturn⟩, ⟨hbackslash, hquote⟩, hseparator, htag⟩

theorem confidenceIn_le_iff (field : List Char) :
    (confidenceIn field).le hundred ↔ unitsIn field ≤ 10000 :=
  nearest_le_hundred_iff (unitsIn field)

/-! ### What can have been sent -/

theorem isProbability_nearest {num den : Nat} (hden : 0 < den) (hle : num ≤ den) :
    IsProbability (Format.binary64.nearest false num den) := by
  have hfinite := (Format.isNearest_of_le hden hle).isFinite
  refine ⟨?_, ?_⟩
  · obtain ⟨m, e, heq⟩ := Format.exists_eq_of_isFinite num hden hfinite
    rw [heq]
    rfl
  · rw [Datum.le_iff hfinite rfl, Datum.toRat_one]
    exact Format.toRat_nearest_le_one hden hle

/-- Each number of hundredths up to one hundred is written for some probability. -/
theorem exists_probability {units : Nat} (hunits : units ≤ 10000) :
    ∃ p, IsProbability p ∧
      roundHalfEven (100 * (Format.binary64.mul p hundred).toRat) = units := by
  let p := Format.binary64.nearest false units 10000
  have hp : IsProbability p := isProbability_nearest (by decide) hunits
  let read : ℚ := p.toRat - ((units : ℕ) : ℚ) / (10000 : ℕ)
  let scaled : ℚ := (Format.binary64.mul p hundred).toRat - 100 * p.toRat
  have hread : |read| ≤ 2 ^ (-53 : ℤ) := Format.abs_nearest_sub_le (by decide) hunits
  have hscaled : |scaled| ≤ 2 ^ (-47 : ℤ) :=
    abs_percentage_sub_le Format.takesPercentages_binary64 hp.1 hp.2
  refine ⟨p, hp, roundHalfEven_eq_of_abs_lt ?_⟩
  -- Two roundings move the hundredths by far less than a half.
  have hsplit : 100 * (Format.binary64.mul p hundred).toRat - ((units : ℤ) : ℚ) =
      100 * scaled + 10000 * read := by
    simp only [scaled, read]
    push_cast
    ring
  rw [hsplit]
  calc |100 * scaled + 10000 * read| ≤ 100 * |scaled| + 10000 * |read| := by
        refine (abs_add_le _ _).trans_eq ?_
        rw [abs_mul, abs_mul, abs_of_pos (by norm_num : (0 : ℚ) < 100),
          abs_of_pos (by norm_num : (0 : ℚ) < 10000)]
    _ ≤ 100 * 2 ^ (-47 : ℤ) + 10000 * 2 ^ (-53 : ℤ) := by gcongr
    _ < 1 / 2 := by norm_num

/-- For an accepted label the messages are read with all percentages of two places, and with no
    other confidence. -/
theorem exists_frame_iff {confidence : Datum} (hlabel : checkLabel .classification label = .ok ()) :
    (∃ p, IsProbability p ∧
        parse (frameClassification label p) = .ok (.classification label confidence)) ↔
      ∃ units ≤ 10000, confidence = Format.binary64.nearest false units 100 := by
  constructor
  · rintro ⟨p, hp, hparse⟩
    obtain ⟨units, hunits, -, hread⟩ := exists_parse_frame hlabel hp
    rw [hread] at hparse
    cases hparse
    exact ⟨units, hunits, rfl⟩
  · rintro ⟨units, hunits, rfl⟩
    obtain ⟨p, hp, hrounded⟩ := exists_probability hunits
    obtain ⟨k, -, hk, hread⟩ := exists_parse_frame hlabel hp
    obtain rfl : k = units := by
      rw [hrounded] at hk
      exact_mod_cast hk
    exact ⟨p, hp, hread⟩

/-! ### What is read -/

variable {confidence : Datum}

theorem isLegal_confidenceIn_iff :
    IsLegal label (confidenceIn field) ↔
      checkLabels .classification [label] = .ok () ∧ unitsIn field ≤ 10000 := by
  have hlow : Datum.zero.le (confidenceIn field) := zero_le_nearest (unitsIn field) (by decide)
  rw [IsLegal, confidenceIn_le_iff, and_iff_right hlow]

/-- **A report that was read is legal exactly if it could have been sent.**  Of the reports that are
    read as a class those are legal whose label is not blank and has none of five characters, and
    whose field has at most ten thousand hundredths.  They are the ones that the message of an
    accepted label for some probability is read as. -/
theorem isLegal_iff_of_parse (hparse : parse line = .ok (.classification label confidence)) :
    (IsLegal label confidence ↔
      (Text.strip label ≠ "" ∧ ∀ c ∈ ['\n', '\r', '\\', '"', separator], c ∉ label.toList) ∧
        ∃ field, payload line = label.toList ++ separator :: field ∧ unitsIn field ≤ 10000) ∧
      (IsLegal label confidence ↔
        checkLabels .classification [label] = .ok () ∧
          ∃ p, IsProbability p ∧
            parse (frameClassification label p) = .ok (.classification label confidence)) := by
  obtain ⟨field, hreport, rfl⟩ := reportsClass_of_parse hparse
  rw [isLegal_confidenceIn_iff]
  constructor
  · have hfield : (∃ other, payload line = label.toList ++ separator :: other ∧
        unitsIn other ≤ 10000) ↔ unitsIn field ≤ 10000 := by
      rw [hreport.payload_eq]
      simp
    rw [checkLabels_singleton, hfield, and_iff_right hreport.label_ne_tag]
  · refine and_congr_right fun hlabels => ?_
    have hlabel := (checkLabels_eq_ok.1 hlabels).2 label (by simp)
    rw [exists_frame_iff hlabel]
    constructor
    · intro hunits
      exact ⟨unitsIn field, hunits, rfl⟩
    · rintro ⟨units, hunits, hsame⟩
      rw [← confidenceIn_le_iff, hsame, nearest_le_hundred_iff]
      exact hunits

theorem isLegal_of_parse_mixed :
    parse "wave,९2.5०\r\n" = .ok (.classification "wave" (.finite false 185 (-1))) ∧
      IsLegal "wave" (.finite false 185 (-1)) := by
  have hparse : parse "wave,९2.5०\r\n" = .ok (.classification "wave" (.finite false 185 (-1))) := by
    decide
  have hlabel : checkLabels .classification ["wave"] = .ok () := by decide
  refine ⟨hparse, (isLegal_iff_of_parse hparse).1.2 ⟨(checkLabels_singleton.1 hlabel).2, ?_⟩⟩
  exact ⟨"९2.5०".toList, by decide, by decide⟩

/-- Nothing bounds the confidence that is read, and a label is read with a separator in it. -/
theorem parse_accepts_illegal :
    parse "wave,999.00" = .ok (.classification "wave" (.finite false 999 0)) ∧
      ¬ IsLegal "wave" (.finite false 999 0) ∧
      parse "a,b,50.00" = .ok (.classification "a,b" (.finite false 25 1)) ∧
      ¬ IsLegal "a,b" (.finite false 25 1) := by
  refine ⟨?_, ?_, ?_, ?_⟩
  all_goals decide

end DenseSketch.Message
