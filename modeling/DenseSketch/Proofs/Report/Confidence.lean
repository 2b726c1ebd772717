import DenseSketch.Proofs.Report.Classifier
import DenseSketch.Sketch.Basic

/-!
# Confidences of board and host

A board rounds the percentage to single precision before it writes hundredths; the percentage of the
host is exact.  The texts differ exactly where the first rounding takes the percentage past half a
hundredth.  The confidence is `probability × 100` with two decimals of SPEC_FULL, section 4.3.
-/

namespace DenseSketch.ClassReport

open Message

theorem function_suffix_classifier (p : Project) (d : Draft) (s : Project.Surroundings)
    (reading : Project.FrameReading) : function <:+ Sketch.classifier p d s reading :=
  function_suffix_classReport.trans (List.suffix_append _ _)

/-- A label with a number of hundredths. -/
def messageOf (label : String) (hundredths : Nat) : String :=
  label ++ "," ++ String.ofList (placedText 2 hundredths) ++ "\n"

variable {label : String} {p : Datum}

theorem messageOf_inj {j k : Nat} : messageOf label j = messageOf label k ↔ j = k := by
  refine ⟨fun hsame => ?_, congrArg (messageOf label)⟩
  rw [messageOf, messageOf, ← String.toList_inj] at hsame
  simp only [String.toList_append, String.toList_ofList, List.append_cancel_left_eq,
    List.append_cancel_right_eq] at hsame
  exact placedText_injective 2 hsame

/-- Board and host round different numbers of hundredths, the host the exact one. -/
theorem exists_messageOf (label : String) (hsingle : Format.binary32.Holds p)
    (hsign : p.isNegative = false) (hhigh : p.le .one) :
    ∃ j k : ℕ, j ≤ 10000 ∧ k ≤ 10000 ∧ boardMessage label p = messageOf label j ∧
      frameClassification label p = messageOf label k ∧
      (j : ℤ) = roundHalfEven (100 * (Format.binary32.mul p hundred).toRat) ∧
      (k : ℤ) = roundHalfEven (10000 * p.toRat) := by
  obtain ⟨j, hj, hboard, hjround⟩ := exists_confidence Format.takesPercentages_binary32 hsign hhigh
  obtain ⟨k, hk, hhost, hkround⟩ := exists_confidence Format.takesPercentages_binary64 hsign hhigh
  refine ⟨j, k, hj, hk, ?_, ?_, hjround, ?_⟩
  · rw [boardMessage, hboard, messageOf]
  · rw [frameClassification, hhost, messageOf]
  · rw [hkround, toRat_percentage hsingle hsign hhigh]
    congr 1
    ring

/-- Both write a zero with a sign alike. -/
theorem boardMessage_of_isNegative (label : String) (hsign : p.isNegative)
    (hlow : Datum.zero.le p) : boardMessage label p = frameClassification label p := by
  rw [boardMessage, frameClassification, confidence_of_isNegative _ hsign hlow,
    confidence_of_isNegative _ hsign hlow]

theorem boardMessage_eq_iff (label : String) (hsingle : Format.binary32.Holds p)
    (hlow : Datum.zero.le p) (hhigh : p.le .one) :
    boardMessage label p = frameClassification label p ↔
      ∀ k, IsBelowHalf k (100 * (Format.binary32.mul p hundred).toRat) ↔
        IsBelowHalf k (10000 * p.toRat) := by
  by_cases hsign : p.isNegative
  · refine iff_of_true (boardMessage_of_isNegative label hsign hlow) fun k => ?_
    obtain ⟨e, he⟩ := exists_eq_of_isNegative hsign hlow
    rw [mul_hundred_of_isNegative _ hsign hlow, he]
    simp [Datum.zeroOf, Datum.toRat]
  · obtain ⟨j, k, -, -, hboard, hhost, hj, hk⟩ :=
      exists_messageOf label hsingle (Bool.eq_false_iff.2 hsign) hhigh
    rw [hboard, hhost, messageOf_inj, ← roundHalfEven_eq_iff, ← hj, ← hk, Nat.cast_inj]

/-- Messages that differ do so by one hundredth, next to a half. -/
theorem exists_half_of_ne (hsingle : Format.binary32.Holds p) (hlow : Datum.zero.le p)
    (hhigh : p.le .one) (hne : boardMessage label p ≠ frameClassification label p) :
    ∃ k : ℕ, k < 10000 ∧ |10000 * p.toRat - (k + 1 / 2)| ≤ 100 * 2 ^ (-18 : ℤ) ∧
      (boardMessage label p = messageOf label k ∧
          frameClassification label p = messageOf label (k + 1) ∨
        boardMessage label p = messageOf label (k + 1) ∧
          frameClassification label p = messageOf label k) := by
  have hsign : p.isNegative = false := by
    rw [Bool.eq_false_iff]
    exact fun hsign => hne (boardMessage_of_isNegative label hsign hlow)
  obtain ⟨j, k, hj, hk, hboard, hhost, hjround, hkround⟩ :=
    exists_messageOf label hsingle hsign hhigh
  have herror := abs_percentage_sub_le Format.takesPercentages_binary32 hsign hhigh
  have hclose : |100 * (Format.binary32.mul p hundred).toRat - 10000 * p.toRat| ≤
      100 * 2 ^ (-18 : ℤ) := by
    have hscale : 100 * (Format.binary32.mul p hundred).toRat - 10000 * p.toRat =
        100 * ((Format.binary32.mul p hundred).toRat - 100 * p.toRat) := by ring
    rw [hscale, abs_mul, abs_of_pos (by norm_num : (0 : ℚ) < 100)]
    exact mul_le_mul_of_nonneg_left herror (by norm_num)
  have hneighbours := abs_roundHalfEven_sub_le (hclose.trans_lt (by norm_num))
  rw [hboard, hhost, ne_eq, messageOf_inj] at hne
  rw [← hjround, ← hkround, abs_le] at hneighbours
  rcases lt_or_gt_of_ne hne with hbelow | habove
  · obtain rfl : k = j + 1 := by omega
    have hhalf := abs_sub_half_le hjround.symm hkround.symm hclose
    exact ⟨j, by omega, hhalf.2, .inl ⟨hboard, hhost⟩⟩
  · obtain rfl : j = k + 1 := by omega
    rw [abs_sub_comm] at hclose
    have hhalf := abs_sub_half_le hkround.symm hjround.symm hclose
    exact ⟨k, by omega, hhalf.1, .inr ⟨hboard, hhost⟩⟩

/-- **When a board writes what the host writes.**  The report in each sketch of a classifier has a
    winner, and sends the label and the percentage of the first largest probability, rounded to
    single precision.  For a probability of single precision this is the message of the host exactly
    if the rounding takes the percentage past no half of a hundredth; otherwise the two differ by one
    hundredth, and the probability lies next to the half between them. -/
theorem boardMessage_eq_frame_iff (label : String) (hsingle : Format.binary32.Holds p)
    (hlow : Datum.zero.le p) (hhigh : p.le .one) :
    (∀ project d s reading, function <:+ Sketch.classifier project d s reading) ∧
      (∀ call : Call, call.IsProper → (∃ winner q, call.Reports winner q) ∧
        (call.Reports label p → ∃ final, call.run = some final ∧
          final.sent = List.replicate 2 (cells (boardMessage label p)))) ∧
      (boardMessage label p = frameClassification label p ↔
        ∀ k, IsBelowHalf k (100 * (Format.binary32.mul p hundred).toRat) ↔
          IsBelowHalf k (10000 * p.toRat)) ∧
      (boardMessage label p ≠ frameClassification label p →
        ∃ k : ℕ, k < 10000 ∧ |10000 * p.toRat - (k + 1 / 2)| ≤ 100 * 2 ^ (-18 : ℤ) ∧
          (boardMessage label p = messageOf label k ∧
              frameClassification label p = messageOf label (k + 1) ∨
            boardMessage label p = messageOf label (k + 1) ∧
              frameClassification label p = messageOf label k)) :=
  ⟨function_suffix_classifier, fun _ hcall => ⟨exists_reports hcall, exists_run_eq hcall⟩,
    boardMessage_eq_iff label hsingle hlow hhigh, exists_half_of_ne hsingle hlow hhigh⟩

/-- A call for two outputs, of which the second wins with nine tenths. -/
def sampleCall : Call where
  capacity := 64
  outputs := 2
  labels := ["left", "Rä 😀"]
  probs := [Format.binary32.nearest false 1 10, Format.binary32.nearest false 9 10]
  memory := List.replicate 65 ' '
  memory_length := rfl
  signedNaN := false

theorem sampleCall_isProper : sampleCall.IsProper := by
  constructor
  all_goals decide

theorem boardMessage_eq_frame_iff_sample :
    boardMessage "Rä 😀" (Format.binary32.nearest false 9 10) =
        frameClassification "Rä 😀" (Format.binary32.nearest false 9 10) ∧
      ∃ final, sampleCall.run = some final ∧
        final.sent = List.replicate 2 (cells "Rä 😀,90.00\n") := by
  have hboard : boardMessage "Rä 😀" (Format.binary32.nearest false 9 10) = "Rä 😀,90.00\n" := by
    decide
  have hhost : frameClassification "Rä 😀" (Format.binary32.nearest false 9 10) =
      "Rä 😀,90.00\n" := by
    decide
  have hreports : sampleCall.Reports "Rä 😀" (Format.binary32.nearest false 9 10) :=
    ⟨1, by decide, rfl, rfl⟩
  obtain ⟨-, hruns, -, -⟩ := boardMessage_eq_frame_iff "Rä 😀"
    (by decide : Format.binary32.Holds (Format.binary32.nearest false 9 10))
    (by decide) (by decide)
  exact ⟨hboard.trans hhost.symm, hboard ▸ (hruns sampleCall sampleCall_isProper).2 hreports⟩

/-- A probability that the two write as `a,100.00` and as `a,99.99`. -/
theorem boardMessage_ne_frame :
    Format.binary32.Holds (.finite false 16776377 (-24)) ∧
      Datum.zero.le (.finite false 16776377 (-24)) ∧
      Datum.le (.finite false 16776377 (-24)) .one ∧
      checkLabels .classification ["a"] = .ok () ∧
      boardMessage "a" (.finite false 16776377 (-24)) = "a,100.00\n" ∧
      frameClassification "a" (.finite false 16776377 (-24)) = "a,99.99\n" := by
  refine ⟨?_, ?_, ?_, ?_, ?_, ?_⟩
  all_goals decide

end DenseSketch.ClassReport
