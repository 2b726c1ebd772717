import DenseSketch.Proofs.Fault.Results
import DenseSketch.Proofs.Message.Fields
import DenseSketch.Proofs.Message.Percentage

/-!
# Classification messages are read back

What is known of labels once they have been checked, and why they are refused.  A message for an
accepted label is read as this label, whatever ends the line, and its confidence is the double
nearest to the two places that were written.  The grammar is `<label>,<confidence>` of SPEC_FULL,
section 4.3.
-/

namespace DenseSketch

namespace Message

/-! ### Checked labels -/

theorem checkLabel_eq_ok {variant : Variant} {label : String} :
    checkLabel variant label = .ok () ↔
      Text.strip label ≠ "" ∧ ('\n' ∉ label.toList ∧ '\r' ∉ label.toList) ∧
        ('\\' ∉ label.toList ∧ '"' ∉ label.toList) ∧ separator ∉ label.toList ∧
        (variant = .classification → label ≠ regressionTag) := by
  simp [checkLabel]

theorem checkLabels_eq_ok {variant : Variant} {labels : List String} :
    checkLabels variant labels = .ok () ↔
      labels ≠ [] ∧ ∀ label ∈ labels, checkLabel variant label = .ok () := by
  simp [checkLabels, forM_eq_ok]

theorem refusesValues_checkLabel (variant : Variant) (label : String) :
    RefusesValues (checkLabel variant label) := by
  refine .refuse (fun _ => rfl) <| .refuse (fun _ => rfl) <| .refuse (fun _ => rfl) <|
    .refuse (fun _ => rfl) ?_
  split
  · exact .error rfl
  · exact .ok ()

theorem refusesValues_checkLabels (variant : Variant) (labels : List String) :
    RefusesValues (checkLabels variant labels) :=
  .refuse (fun _ => rfl) (.forM fun label _ => refusesValues_checkLabel variant label)

/-! ### Fields -/

theorem splitAtLast_append {label confidence : List Char} (hconfidence : separator ∉ confidence) :
    splitAtLast (label ++ separator :: confidence) = some (label, confidence) := by
  have hreversed : (label ++ separator :: confidence).reverse =
      confidence.reverse ++ separator :: label.reverse := by
    simp
  have hother : ∀ c ∈ confidence.reverse, (c != separator) = true := by
    intro c hc
    rw [bne_iff_ne]
    rintro rfl
    exact hconfidence (List.mem_reverse.1 hc)
  simp only [splitAtLast, hreversed, List.dropWhile_append_of_pos hother,
    List.takeWhile_append_of_pos hother]
  simp

theorem toList_ne_nil {variant : Variant} {label : String}
    (hlabel : checkLabel variant label = .ok ()) : label.toList ≠ [] := by
  obtain ⟨hblank, -⟩ := checkLabel_eq_ok.1 hlabel
  intro hnil
  refine hblank ?_
  rw [Text.strip, hnil]
  rfl

/-- No accepted label makes the start of a regression message. -/
theorem not_tag_prefix {label : String} (hlabel : checkLabel .classification label = .ok ())
    (rest : List Char) :
    (regressionTag.toList ++ [separator]).isPrefixOf (label.toList ++ separator :: rest) = false := by
  obtain ⟨-, -, -, hseparator, htag⟩ := checkLabel_eq_ok.1 hlabel
  have hnonempty := toList_ne_nil hlabel
  have htag : label.toList ≠ ['R'] := fun heq => htag rfl (String.toList_inj.1 heq)
  rw [Bool.eq_false_iff, ne_eq, List.isPrefixOf_iff_prefix]
  generalize label.toList = cs at hnonempty htag hseparator
  rintro ⟨tail, heq⟩
  -- A label that starts so is the tag itself or holds a separator; neither is accepted.
  match cs with
  | [] => exact hnonempty rfl
  | [c] => exact htag (congrArg (· :: []) (List.cons.inj heq).1.symm)
  | c :: d :: cs =>
    have hd : separator = d := (List.cons.inj (List.cons.inj heq).2).1
    exact hseparator (by simp [hd])

/-- A label with a number of two places behind it is read as such. -/
theorem parse_of_payload {line label : String} {units : Nat}
    (hlabel : checkLabel .classification label = .ok ())
    (hpayload : payload line = label.toList ++ separator :: placedText 2 units) :
    parse line = .ok (.classification label (Format.binary64.nearest false units 100)) := by
  have hempty : label.toList.isEmpty = false := List.isEmpty_eq_false_iff.2 (toList_ne_nil hlabel)
  have hconfidence := isConfidence_placedText units
  have hfield := fieldValue_placedText 2 units
  have hsplit : splitAtLast (label.toList ++ separator :: placedText 2 units) =
      some (label.toList, placedText 2 units) :=
    splitAtLast_append (separator_not_mem_placedText 2 units)
  have hline : (label.toList ++ separator :: placedText 2 units).isEmpty = false :=
    List.isEmpty_eq_false_iff.2 (List.append_ne_nil_of_left_ne_nil (toList_ne_nil hlabel) _)
  rw [parse, hpayload]
  simp only [hline, hempty, not_tag_prefix hlabel, parseClassification, hsplit,
    hconfidence, hfield, String.ofList_toList, bind, Except.bind, Bool.not_true,
    Bool.or_self, Bool.false_eq_true, if_false]
  rfl

/-- **A classification message is read back.**  For every accepted label and every probability the
    message, the message without its line feed and the message with a carriage return in front of it
    are read as the label with the double nearest to `k / 100`, where `k` is the integer nearest to
    one hundred times the percentage. -/
theorem parse_frameClassification {labels : List String} {label : String} {p : Datum}
    (hlabels : checkLabels .classification labels = .ok ()) (hlabel : label ∈ labels)
    (hsign : p.isNegative = false) (hp : p.le .one) :
    ∃ (body : String) (k : ℕ) (confidence : Datum),
      frameClassification label p = body ++ "\n" ∧
        (k : ℤ) = roundHalfEven (100 * (Format.binary64.mul p hundred).toRat) ∧
        confidence = Format.binary64.nearest false k 100 ∧
        Format.binary64.IsNearest ((k : ℚ) / 100) confidence ∧
        ∀ line ∈ [body ++ "\n", body, body ++ "\r\n"],
          parse line = .ok (.classification label confidence) := by
  obtain ⟨k, hbound, htext, hk⟩ := exists_confidence Format.takesPercentages_binary64 hsign hp
  have hchecked := (checkLabels_eq_ok.1 hlabels).2 label hlabel
  have hbody : (label ++ "," ++ String.ofList (placedText 2 k)).toList =
      label.toList ++ separator :: placedText 2 k := by
    simp [separator]
  have hlast : (label ++ "," ++ String.ofList (placedText 2 k)).toList.getLast? =
      some (Nat.digitChar (k % 10)) := by
    rw [String.toList_append, String.toList_ofList, List.getLast?_append, getLast?_placedText]
    rfl
  have hsmall : ((k : ℕ) : ℚ) / (100 : ℕ) < 2 ^ (1023 : ℤ) := by
    have hle : (k : ℚ) ≤ 10000 := by exact_mod_cast hbound
    calc (k : ℚ) / (100 : ℕ) ≤ 100 := by
          rw [div_le_iff₀ (by norm_num)]
          norm_num
          linarith
      _ < 2 ^ (7 : ℤ) := by norm_num
      _ ≤ 2 ^ (1023 : ℤ) := zpow_le_zpow_right₀ one_le_two (by decide)
  refine ⟨label ++ "," ++ String.ofList (placedText 2 k), k, _, ?_, hk, rfl, ?_, ?_⟩
  · rw [frameClassification, htext]
  · exact_mod_cast Format.isNearest_binary64 k (by decide) hsmall
  · intro line hline
    refine parse_of_payload hchecked ?_
    rw [payload_of_mem ?_ ?_ hline, hbody]
    · rw [hlast]
      simp
    · rw [hlast]
      simp

theorem parse_frameClassification_sample :
    ∃ (body : String) (k : ℕ) (confidence : Datum),
      frameClassification "Rä 😀" (Format.binary64.nearest false 9 10) = body ++ "\n" ∧
        (k : ℤ) = roundHalfEven
          (100 * (Format.binary64.mul (Format.binary64.nearest false 9 10) hundred).toRat) ∧
        confidence = Format.binary64.nearest false k 100 ∧
        Format.binary64.IsNearest ((k : ℚ) / 100) confidence ∧
        ∀ line ∈ [body ++ "\n", body, body ++ "\r\n"],
          parse line = .ok (.classification "Rä 😀" confidence) := by
  have hlabels : checkLabels .classification ["left", "Rä 😀"] = .ok () := by decide
  exact parse_frameClassification hlabels (by decide) (by decide) (by decide)

end Message

end DenseSketch
