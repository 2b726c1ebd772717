import DenseSketch.Proofs.List.Monadic
import DenseSketch.Proofs.Message.Classification

/-!
# What is read

Every line is refused with the fault of a message or read as one of the two reports.  The numbers of
accepted fields can always be read, whatever the script of their digits, and what is known of a
report is said once here: its fields, the units of their last place, and the data that are read.
-/

namespace DenseSketch

/-! ### Bounds -/

/-- Where a double lies closely above a whole number, units are told apart there by the doubles that
    they are read as. -/
theorem Format.nearest_le_whole_iff (bound : Nat) {den units : Nat} {low : Datum} (high : Datum)
    (hden : 0 < den) (hlow : binary64.Holds low) (hlowFinite : low.isFinite)
    (hvalue : low.toRat = bound) (hhigh : binary64.Holds high) (hhighFinite : high.isFinite)
    (hgap : (bound : ℚ) < high.toRat) (hclose : high.toRat ≤ bound + 1 / den)
    (hrange : (bound : ℚ) < 2 ^ (1023 : ℤ)) :
    (binary64.nearest false units den).le low ↔ units ≤ bound * den := by
  have hpos : (0 : ℚ) < den := by exact_mod_cast hden
  have hunits : (units : ℚ) / den ≤ bound ↔ units ≤ bound * den := by
    rw [div_le_iff₀ hpos]
    exact_mod_cast Iff.rfl
  rw [nearest_le_iff hden hlow hlowFinite hhigh hhighFinite (hvalue ▸ hgap) (hvalue ▸ hrange),
    hvalue, hunits]
  rw [hvalue, hunits]
  by_cases hle : units ≤ bound * den
  · exact .inl hle
  · right
    have hnext : ((bound * den + 1 : ℕ) : ℚ) ≤ units := by exact_mod_cast not_le.1 hle
    calc high.toRat ≤ bound + 1 / den := hclose
      _ = ((bound * den + 1 : ℕ) : ℚ) / den := by
        push_cast
        field_simp
      _ ≤ units / den := by gcongr

namespace Message

open Text

theorem nearest_le_hundred_iff (units : Nat) :
    (Format.binary64.nearest false units 100).le hundred ↔ units ≤ 10000 := by
  refine Format.nearest_le_whole_iff 100 (.finite false 12801 (-7)) (by decide)
    (by decide) (by decide) ?_ (by decide) rfl ?_ ?_ ?_
  · norm_num [hundred_eq, Datum.toRat]
  · norm_num [Datum.toRat]
  · norm_num [Datum.toRat]
  · exact lt_of_lt_of_le (by norm_num : ((100 : ℕ) : ℚ) < 2 ^ (7 : ℤ))
      (zpow_le_zpow_right₀ one_le_two (by decide))

theorem nearest_le_one_iff (units : Nat) :
    (Format.binary64.nearest false units 1000).le .one ↔ units ≤ 1000 := by
  refine Format.nearest_le_whole_iff 1 (.finite false 1025 (-10)) (by decide)
    (by decide) rfl ?_ (by decide) rfl ?_ ?_ ?_
  · simp
  · norm_num [Datum.toRat]
  · norm_num [Datum.toRat]
  · rw [Nat.cast_one]
    exact one_lt_zpow₀ one_lt_two (by decide)

theorem one_lt_nearest_iff (units : Nat) :
    Datum.one.lt (Format.binary64.nearest false units 1000) ↔ 1000 < units := by
  rw [← not_le (a := units), ← nearest_le_one_iff]
  rcases Format.isNearest_or_infinite units (by decide : 0 < 1000) with hnear | hlarge
  · rw [Datum.lt_iff rfl hnear.isFinite, Datum.le_iff hnear.isFinite rfl, not_le]
  · rw [hlarge]
    decide

/-- What is read as nearest to a quotient has no sign. -/
theorem zero_le_nearest (units : Nat) {den : Nat} (hden : 0 < den) :
    Datum.zero.le (Format.binary64.nearest false units den) := by
  rcases Format.isNearest_or_infinite units hden with hnear | hlarge
  · rw [Datum.le_iff rfl hnear.isFinite]
    refine hnear.le_toRat (by decide) rfl ?_
    rw [Datum.toRat_zero]
    positivity
  · rw [hlarge]
    decide

/-! ### Fields -/

variable {line : String} {field : List Char}

/-- The double that is read for a field of a classification message. -/
def confidenceIn (field : List Char) : Datum := Format.binary64.nearest false (unitsIn field) 100

/-- The double that is read for a field of a regression message. -/
def valueIn (field : List Char) : Datum := Format.binary64.nearest false (unitsIn field) 1000

theorem exists_writes_of_isConfidence (hform : isConfidence field) :
    ∃ whole fraction, Writes field whole fraction ∧ fraction.length = 2 := by
  have htest : ∀ cs : List Char, (!cs.isEmpty && cs.all Text.isDigit) = true →
      cs ≠ [] ∧ ∀ c ∈ cs, Text.isDigit c := by
    intro cs hcs
    rwa [Bool.and_eq_true, Bool.not_eq_true', List.isEmpty_eq_false_iff, List.all_eq_true] at hcs
  obtain ⟨whole, fraction, hwrites, -, hlength⟩ := exists_writes htest hform
  exact ⟨whole, fraction, hwrites, hlength⟩

/-- In front of the point of a value stands a zero or a one of ASCII. -/
theorem exists_writes_of_isValue (hform : isValue field) :
    ∃ whole fraction, Writes field whole fraction ∧ whole ∈ [['0'], ['1']] ∧
      fraction.length = 3 := by
  have hmem : ∀ cs : List Char, (cs == ['0'] || cs == ['1']) = true → cs ∈ [['0'], ['1']] := by
    intro cs hcs
    simpa using hcs
  have hdigits : ∀ cs ∈ [['0'], ['1']], cs ≠ [] ∧ cs.all Text.isDigit := by decide
  have htest : ∀ cs : List Char, (cs == ['0'] || cs == ['1']) = true →
      cs ≠ [] ∧ ∀ c ∈ cs, Text.isDigit c := by
    intro cs hcs
    have hcase := hdigits cs (hmem cs hcs)
    rwa [List.all_eq_true] at hcase
  obtain ⟨whole, fraction, hwrites, hwhole, hlength⟩ := exists_writes htest hform
  exact ⟨whole, fraction, hwrites, hmem whole hwhole, hlength⟩

theorem fieldValue_of_isConfidence (hform : isConfidence field) :
    fieldValue field = .ok (confidenceIn field) := by
  obtain ⟨whole, fraction, hwrites, hlength⟩ := exists_writes_of_isConfidence hform
  rw [hwrites.fieldValue_eq, hlength]
  rfl

theorem fieldValue_of_isValue (hform : isValue field) : fieldValue field = .ok (valueIn field) := by
  obtain ⟨whole, fraction, hwrites, -, hlength⟩ := exists_writes_of_isValue hform
  rw [hwrites.fieldValue_eq, hlength]
  rfl

/-- Behind each separator stands a field. -/
theorem flatMap_fields (cs : List Char) :
    (fields cs).flatMap (separator :: ·) = separator :: cs := by
  rw [fields]
  induction cs with
  | nil => rfl
  | cons c cs ih =>
    rw [List.splitOn_cons_eq_if_modifyHead]
    split
    · next hc =>
      rw [List.flatMap_cons, ih, beq_iff_eq.1 hc]
      rfl
    · cases hfields : cs.splitOn separator with
      | nil => exact absurd hfields (List.splitOn_ne_nil _ _)
      | cons field rest =>
        rw [hfields, List.flatMap_cons, List.cons_append, List.cons.injEq] at ih
        rw [List.modifyHead_cons, List.flatMap_cons, List.cons_append, List.cons_append, ih.2]

/-! ### Reports -/

/-- The line reports values: the tag, and behind each separator a field of at most one thousand
    thousandths. -/
structure ReportsValues (line : String) (raw : List (List Char)) : Prop where
  payload_eq : payload line = 'R' :: raw.flatMap (separator :: ·)
  ne_nil : raw ≠ []
  isValue : ∀ field ∈ raw, isValue field
  units_le : ∀ field ∈ raw, unitsIn field ≤ 1000

/-- The line reports a class: a label that is no tag, and behind the last separator a number. -/
structure ReportsClass (line label : String) (field : List Char) : Prop where
  payload_eq : payload line = label.toList ++ separator :: field
  label_ne : label ≠ ""
  label_ne_tag : label ≠ regressionTag
  isConfidence : isConfidence field

/-- The faults with which a line is refused. -/
def refusals (line : String) : List MessageFault :=
  [.empty, .regression line, .range line, .classification line]

theorem parseRegression_cases {rest : List Char} (hline : payload line = 'R' :: separator :: rest) :
    (∃ cause ∈ refusals line, parseRegression line (payload line) = .error (.message cause)) ∨
      ∃ raw, ReportsValues line raw ∧
        parseRegression line (payload line) = .ok (.regression (raw.map valueIn)) := by
  have hraw : (fields (payload line)).drop 1 = fields rest := by
    have htag : separator ∉ ['R'] := by decide
    rw [hline, ← List.singleton_append, fields,
      List.splitOn_append_cons_self_of_not_mem htag, List.drop_one, List.tail_cons, fields]
  rw [parseRegression, hraw]
  by_cases hform : (fields rest).all isValue
  · have hvalues : ∀ field ∈ fields rest, isValue field := List.all_eq_true.1 hform
    have hread : (fields rest).mapM fieldValue = .ok ((fields rest).map valueIn) :=
      mapM_eq_pure_map fun field hfield => fieldValue_of_isValue (hvalues field hfield)
    have hrange : ((fields rest).map valueIn).any (Datum.lt .one) = true ↔
        ∃ field ∈ fields rest, 1000 < unitsIn field := by
      rw [List.any_map, List.any_eq_true]
      simp only [Function.comp_apply, valueIn, one_lt_nearest_iff]
    by_cases hlarge : ∃ field ∈ fields rest, 1000 < unitsIn field
    · left
      refine ⟨.range line, by simp [refusals], ?_⟩
      simp [hform, hread, hrange.2 hlarge, bind, Except.bind]
      rfl
    · right
      refine ⟨fields rest, ⟨?_, List.splitOn_ne_nil _ _, hvalues, ?_⟩, ?_⟩
      · rw [hline, flatMap_fields]
      · intro field hfield
        by_contra hunits
        exact hlarge ⟨field, hfield, not_le.1 hunits⟩
      · have hbelow := Bool.eq_false_iff.2 (mt hrange.1 hlarge)
        simp [hform, hread, hbelow, bind, Except.bind, pure, Except.pure]
  · left
    refine ⟨.regression line, by simp [refusals], ?_⟩
    simp [hform]
    rfl

/-- A text with a separator is split at its last one. -/
theorem eq_append_of_splitAtLast {cs label field : List Char}
    (hsplit : splitAtLast cs = some (label, field)) : cs = label ++ separator :: field := by
  have hparts : cs.reverse.takeWhile (· != separator) ++ cs.reverse.dropWhile (· != separator) =
      cs.reverse := List.takeWhile_append_dropWhile
  rw [splitAtLast] at hsplit
  split at hsplit
  · cases hsplit
  · next c rest hrest =>
    have hpoint : c = separator := by
      have hhead := List.head?_dropWhile_not (fun c : Char => c != separator) cs.reverse
      rw [hrest] at hhead
      simpa using hhead
    cases hsplit
    rw [hrest, hpoint] at hparts
    have hreverse := congrArg List.reverse hparts
    simpa using hreverse.symm

theorem parseClassification_cases (htag : ¬ ['R', separator] <+: payload line) :
    (∃ cause ∈ refusals line, parseClassification line (payload line) = .error (.message cause)) ∨
      ∃ label field, ReportsClass line label field ∧
        parseClassification line (payload line) =
          .ok (.classification label (confidenceIn field)) := by
  have hrefusal : MessageFault.classification line ∈ refusals line := by simp [refusals]
  rw [parseClassification]
  split
  · exact .inl ⟨_, hrefusal, rfl⟩
  · next label field hsplit =>
    have hpayload := eq_append_of_splitAtLast hsplit
    by_cases haccepted : label ≠ [] ∧ isConfidence field
    · obtain ⟨hlabel, hform⟩ := haccepted
      right
      refine ⟨String.ofList label, field, ⟨?_, ?_, ?_, hform⟩, ?_⟩
      · rw [hpayload, String.toList_ofList]
      · simpa using hlabel
      · intro heq
        have hchars : label = ['R'] := by
          have hlist := congrArg String.toList heq
          rwa [String.toList_ofList] at hlist
        refine htag ⟨field, ?_⟩
        rw [hpayload, hchars]
        rfl
      · have hempty : label.isEmpty = false := List.isEmpty_eq_false_iff.2 hlabel
        simp [hempty, hform, fieldValue_of_isConfidence hform, bind, Except.bind, pure, Except.pure]
    · left
      refine ⟨_, hrefusal, if_pos ?_⟩
      rcases not_and_or.1 haccepted with hlabel | hform
      · rw [not_not.1 hlabel]
        rfl
      · rw [Bool.eq_false_iff.2 hform, Bool.not_false, Bool.or_true]

/-- Every line is refused, or it is a report and is read as such. -/
theorem parse_cases (line : String) :
    (∃ cause ∈ refusals line, parse line = .error (.message cause)) ∨
      (∃ raw, ReportsValues line raw ∧ parse line = .ok (.regression (raw.map valueIn))) ∨
      ∃ label field, ReportsClass line label field ∧
        parse line = .ok (.classification label (confidenceIn field)) := by
  rw [parse]
  split
  · exact .inl ⟨.empty, by simp [refusals], rfl⟩
  · split
    · next htag =>
      obtain ⟨rest, hrest⟩ := List.isPrefixOf_iff_prefix.1 htag
      have hline : payload line = 'R' :: separator :: rest := hrest.symm
      rcases parseRegression_cases hline with hrefused | hread
      · exact .inl hrefused
      · exact .inr (.inl hread)
    · next htag =>
      have hnone : ¬ ['R', separator] <+: payload line := fun h =>
        htag (List.isPrefixOf_iff_prefix.2 h)
      rcases parseClassification_cases hnone with hrefused | hread
      · exact .inl hrefused
      · exact .inr (.inr hread)

theorem reportsValues_of_parse {values : List Datum}
    (hparse : parse line = .ok (.regression values)) :
    ∃ raw, ReportsValues line raw ∧ values = raw.map valueIn := by
  rcases parse_cases line with ⟨_, -, hrefused⟩ | ⟨raw, hreport, hread⟩ | ⟨_, _, -, hread⟩
  · rw [hrefused] at hparse
    cases hparse
  · rw [hread] at hparse
    cases hparse
    exact ⟨raw, hreport, rfl⟩
  · rw [hread] at hparse
    cases hparse

theorem reportsClass_of_parse {label : String} {confidence : Datum}
    (hparse : parse line = .ok (.classification label confidence)) :
    ∃ field, ReportsClass line label field ∧ confidence = confidenceIn field := by
  rcases parse_cases line with ⟨_, -, hrefused⟩ | ⟨_, -, hread⟩ | ⟨_, field, hreport, hread⟩
  · rw [hrefused] at hparse
    cases hparse
  · rw [hread] at hparse
    cases hparse
  · rw [hread] at hparse
    cases hparse
    exact ⟨field, hreport, rfl⟩

/-- **Reading is total up to its own faults.**  Every line is refused as no message, with the fault
    that names it, or it is read: as values, at least one and each between zero and one, or as a
    label that is not empty with a confidence that is not negative. -/
theorem parse_refuses_or_reports (line : String) :
    (∃ cause ∈ refusals line, parse line = .error (.message cause)) ∨
      (∃ values, parse line = .ok (.regression values) ∧ values ≠ [] ∧
        ∀ v ∈ values, Datum.zero.le v ∧ v.le .one) ∨
      ∃ label confidence, parse line = .ok (.classification label confidence) ∧ label ≠ "" ∧
        Datum.zero.le confidence := by
  rcases parse_cases line with hrefused | ⟨raw, hreport, hread⟩ | ⟨label, field, hreport, hread⟩
  · exact .inl hrefused
  · right
    left
    refine ⟨_, hread, by simpa using hreport.ne_nil, ?_⟩
    intro v hv
    obtain ⟨field, hfield, rfl⟩ := List.mem_map.1 hv
    have hunits := hreport.units_le field hfield
    exact ⟨zero_le_nearest _ (by decide), (nearest_le_one_iff _).2 hunits⟩
  · right
    right
    exact ⟨label, _, hread, hreport.label_ne, zero_le_nearest _ (by decide)⟩

end Message

end DenseSketch
