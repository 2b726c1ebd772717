import DenseSketch.Proofs.Message.Classification
import DenseSketch.Proofs.Message.Regression
import DenseSketch.Proofs.Text.Characters

/-!
# How long a message is

The bound that is worked out from the metadata alone holds for every message, in bytes, and there
are messages that reach it.
-/

namespace DenseSketch

open Text

/-! ### Numbers with places -/

theorem length_placedText (places units : Nat) :
    (placedText places units).length =
      (Nat.toDigits 10 (units / 10 ^ places)).length + (places + 1) := by
  rw [placedText, List.length_append, List.length_cons, length_lastDigits, Nat.pow_eq]

theorem length_placedText_le {places digits units : Nat} (hdigits : 0 < digits)
    (hunits : units < 10 ^ (digits + places)) :
    (placedText places units).length ≤ digits + (places + 1) := by
  have hwhole : units / 10 ^ places < 10 ^ digits := by
    rw [Nat.div_lt_iff_lt_mul (by positivity), ← Nat.pow_add]
    exact hunits
  rw [length_placedText]
  exact Nat.add_le_add_right ((Nat.length_toDigits_le_iff (by decide) hdigits).2 hwhole) _

/-- A number below ten has one digit in front of its point. -/
theorem length_placedText_of_lt {places units : Nat} (hunits : units < 10 ^ (1 + places)) :
    (placedText places units).length = 1 + (places + 1) := by
  have hpos : 0 < (Nat.toDigits 10 (units / 10 ^ places)).length := Nat.length_toDigits_pos
  have hle := length_placedText_le Nat.one_pos hunits
  rw [length_placedText] at hle ⊢
  omega

theorem isAscii_placedText (places units : Nat) : IsAscii (placedText places units) := by
  rw [placedText, isAscii_append, isAscii_cons]
  exact ⟨isAscii_of_digits fun _ => isDigit_of_mem_toDigits, by decide,
    isAscii_of_digits fun _ => isDigit_of_mem_lastDigits⟩

theorem FixedStyle.isAscii_text (style : FixedStyle) (v : Datum) : IsAscii (style.text v) := by
  cases v with
  | nan => exact (by decide : IsAscii "nan".toList)
  | infinite s =>
    cases s
    · exact (by decide : IsAscii "inf".toList)
    · exact (by decide : IsAscii "-inf".toList)
  | finite s m e =>
    rw [FixedStyle.text]
    split
    · exact isAscii_cons.2 ⟨by decide, isAscii_placedText _ _⟩
    · exact isAscii_placedText _ _

/-! ### Classification messages -/

namespace Message

theorem isAscii_confidence (v : Datum) :
    IsAscii (String.ofList (confidenceStyle.text v)).toList := by
  rw [String.toList_ofList]
  exact confidenceStyle.isAscii_text v

/-- A label, a confidence and what belongs to them. -/
theorem utf8ByteSize_classLine (label : String) (v : Datum) :
    (label ++ "," ++ String.ofList (confidenceStyle.text v) ++ "\n").utf8ByteSize =
      label.utf8ByteSize + (confidenceStyle.text v).length + 2 := by
  have htext : (String.ofList (confidenceStyle.text v)).utf8ByteSize =
      (confidenceStyle.text v).length := by
    rw [utf8ByteSize_of_isAscii (isAscii_confidence v), String.toList_ofList]
  have hseparator : ",".utf8ByteSize = 1 := by decide
  have hfeed : "\n".utf8ByteSize = 1 := by decide
  rw [String.utf8ByteSize_append, String.utf8ByteSize_append, String.utf8ByteSize_append, htext,
    hseparator, hfeed]
  omega

theorem length_confidence_le {f : Format} (hf : f.TakesPercentages) {p : Datum}
    (hlow : Datum.zero.le p) (hhigh : p.le .one) :
    (confidenceStyle.text (f.mul p hundred)).length ≤ 6 := by
  by_cases hsign : p.isNegative
  · rw [confidence_of_isNegative f hsign hlow]
    decide
  · obtain ⟨k, hk, htext, -⟩ := exists_confidence hf (Bool.eq_false_iff.2 hsign) hhigh
    rw [htext]
    exact length_placedText_le (by decide : 0 < 3) (by omega)

theorem length_confidence_one :
    (confidenceStyle.text (Format.binary64.mul .one hundred)).length = 6 := by
  decide

/-! ### Regression messages -/

theorem utf8ByteSize_valueField (v : Datum) : (valueField v).utf8ByteSize = 5 := by
  have hunits : thousandths v < 10 ^ (1 + 3) := by
    have hle := thousandths_le v
    omega
  rw [utf8ByteSize_of_isAscii, toList_valueField, length_placedText_of_lt hunits]
  rw [toList_valueField]
  exact isAscii_placedText _ _

/-- Texts of one length, with separators between them. -/
theorem utf8ByteSize_intercalate {size : Nat} (first : String) {rest : List String}
    (hrest : ∀ item ∈ rest, item.utf8ByteSize = size) :
    (",".intercalate (first :: rest)).utf8ByteSize =
      first.utf8ByteSize + rest.length * (size + 1) := by
  have hseparator : ",".utf8ByteSize = 1 := by decide
  induction rest generalizing first with
  | nil => simp
  | cons next rest ih =>
    have hnext : next.utf8ByteSize = size := hrest next (by simp)
    have htail := ih next fun item hitem => hrest item (by simp [hitem])
    rw [String.intercalate_cons_cons, String.utf8ByteSize_append, String.utf8ByteSize_append, htail,
      hseparator, hnext, List.length_cons, Nat.succ_mul]
    omega

theorem utf8ByteSize_regressionBody (values : List Datum) :
    (regressionBody values).utf8ByteSize = values.length * 6 + 1 := by
  have hfields : ∀ item ∈ values.map valueField, item.utf8ByteSize = 5 := by
    intro item hitem
    obtain ⟨v, _, rfl⟩ := List.mem_map.1 hitem
    exact utf8ByteSize_valueField v
  have htag : regressionTag.utf8ByteSize = 1 := by decide
  rw [regressionBody, utf8ByteSize_intercalate regressionTag hfields, List.length_map, htag,
    Nat.add_comm]

/-! ### The bound -/

/-- A bound for all messages of a network that is reached. -/
structure IsLongest (m : Metadata) (longest : Nat) : Prop where
  /-- No message for a label is longer, whatever its probability. -/
  class_le : m.variant = .classification → ∀ label ∈ m.labels, ∀ p,
    Datum.zero.le p → p.le .one → (frameClassification label p).utf8ByteSize ≤ longest
  /-- A longest label with a probability of one reaches the bound. -/
  class_eq : m.variant = .classification → ∀ label ∈ m.labels,
    (∀ other ∈ m.labels, other.utf8ByteSize ≤ label.utf8ByteSize) →
      (frameClassification label .one).utf8ByteSize = longest
  /-- All messages with a value for each output are as long as the bound. -/
  value_eq : m.variant = .regression → ∀ values : List Datum, values.length = m.outputCount →
    ∃ message, frameRegression values = .ok message ∧ message.utf8ByteSize = longest

/-- The bound of a classifier has room for its longest label. -/
theorem exists_longest_label {m : Metadata} {longest : Nat} (hvariant : m.variant = .classification)
    (hlength : maxLength m = .ok longest) :
    (∃ label ∈ m.labels, longest = label.utf8ByteSize + 8) ∧
      ∀ label ∈ m.labels, label.utf8ByteSize + 8 ≤ longest := by
  simp only [maxLength, hvariant] at hlength
  split at hlength
  · cases hlength
  · split at hlength
    · next size hsize =>
      cases hlength
      obtain ⟨hmem, hle⟩ := List.max?_eq_some_iff.1 hsize
      obtain ⟨label, hlabel, rfl⟩ := List.mem_map.1 hmem
      exact ⟨⟨label, hlabel, rfl⟩, fun other hother =>
        Nat.add_le_add_right (hle _ (List.mem_map_of_mem hother)) 8⟩
    · cases hlength

theorem isLongest_of_maxLength {m : Metadata} {longest : Nat} (hlabels : m.labels ≠ [])
    (hlength : maxLength m = .ok longest) : IsLongest m longest := by
  constructor
  case class_le =>
    intro hvariant label hlabel p hlow hhigh
    have hroom := (exists_longest_label hvariant hlength).2 label hlabel
    have hconfidence := length_confidence_le Format.takesPercentages_binary64 hlow hhigh
    rw [frameClassification, utf8ByteSize_classLine]
    omega
  case class_eq =>
    intro hvariant label hlabel hlongest
    obtain ⟨⟨other, hother, heq⟩, hroom⟩ := exists_longest_label hvariant hlength
    have hle := hlongest other hother
    have hge := hroom label hlabel
    rw [frameClassification, utf8ByteSize_classLine, length_confidence_one]
    omega
  case value_eq =>
    intro hvariant values hcount
    have hvalues : values ≠ [] := by
      rintro rfl
      exact hlabels (List.length_eq_zero_iff.1 hcount.symm)
    have hfeed : "\n".utf8ByteSize = 1 := by decide
    simp only [maxLength, hvariant, Except.ok.injEq] at hlength
    refine ⟨_, frameRegression_eq_ok hvalues, ?_⟩
    rw [String.utf8ByteSize_append, utf8ByteSize_regressionBody, hcount, hfeed]
    exact hlength

end Message

end DenseSketch
