import DenseSketch.Proofs.Message.Accepted
import DenseSketch.Proofs.Message.Lengths
import Mathlib.Data.List.Induction

/-!
# Values are framed as they were read

The reader of values takes digits of every script, and a line feed behind each field.  What it reads
is framed as the line without these liberties: with ASCII digits, and without line feeds.
-/

namespace DenseSketch

open Text

/-! ### Digits -/

/-- The last digits of a number are those that it is spelled with. -/
theorem lastDigits_digitsValue (whole : List Nat) {fraction : List Nat}
    (hfraction : ∀ d ∈ fraction, d < 10) :
    lastDigits fraction.length (Numeral.digitsValue (whole ++ fraction)) =
        fraction.map Nat.digitChar ∧
      Numeral.digitsValue (whole ++ fraction) / 10 ^ fraction.length =
        Numeral.digitsValue whole := by
  -- The last digit is split off, as in the definition of the last digits.
  induction fraction using List.reverseRecOn with
  | nil => simp [lastDigits]
  | append_singleton fraction d ih =>
    have hd : d < 10 := hfraction d (by simp)
    obtain ⟨hlast, hwhole⟩ := ih fun other hother => hfraction other (by simp [hother])
    have hvalue : Numeral.digitsValue (whole ++ (fraction ++ [d])) =
        Numeral.digitsValue (whole ++ fraction) * 10 + d := by
      simp [Numeral.digitsValue]
    have hdiv : Numeral.digitsValue (whole ++ (fraction ++ [d])) / 10 =
        Numeral.digitsValue (whole ++ fraction) := by omega
    have hmod : Numeral.digitsValue (whole ++ (fraction ++ [d])) % 10 = d := by omega
    rw [List.length_append, List.length_singleton]
    constructor
    · rw [lastDigits, hdiv, hmod, hlast, List.map_append, List.map_singleton]
    · rw [pow_succ', ← Nat.div_div_eq_div_mul, hdiv, hwhole]

namespace Message

/-- A text without its line feeds, and with an ASCII digit for each digit. -/
def plain (cs : List Char) : List Char := (cs.filter (· != '\n')).map plainDigit

theorem plain_append (cs ds : List Char) : plain (cs ++ ds) = plain cs ++ plain ds := by
  simp [plain]

theorem plain_cons_of_eq {c : Char} (hc : plain [c] = [c]) (cs : List Char) :
    plain (c :: cs) = c :: plain cs := by
  rw [← List.singleton_append, plain_append, hc]
  rfl

theorem plain_eq_self {cs : List Char} (hascii : IsAscii cs) (hfeed : '\n' ∉ cs) :
    plain cs = cs := by
  have hkept : cs.filter (· != '\n') = cs := by
    rw [List.filter_eq_self]
    intro c hc
    rw [bne_iff_ne]
    rintro rfl
    exact hfeed hc
  rw [plain, hkept]
  exact (List.map_congr_left fun c hc => plainDigit_of_ascii (hascii c hc)).trans (List.map_id cs)

theorem plain_digits {cs : List Char} (hcs : ∀ c ∈ cs, Text.isDigit c) :
    plain cs = (cs.map digitOf).map Nat.digitChar := by
  have hkept : cs.filter (· != '\n') = cs := by
    rw [List.filter_eq_self]
    exact fun c hc => bne_iff_ne.2 (ne_of_isDigit (hcs c hc) (by decide))
  rw [plain, hkept, List.map_map]
  exact List.map_congr_left fun c hc => plainDigit_of_isDigit (hcs c hc)

/-- A field of a value is the canonical text of its number, but for its digits and its end. -/
theorem plain_of_isValue {field : List Char} (hform : isValue field) :
    plain field = placedText 3 (unitsIn field) := by
  obtain ⟨whole, fraction, hwrites, hwhole, hlength⟩ := exists_writes_of_isValue hform
  have hdigits : ∀ d ∈ fraction.map digitOf, d < 10 := by
    intro d hd
    obtain ⟨c, hc, rfl⟩ := List.mem_map.1 hd
    exact digitOf_lt (hwrites.fraction_digits c hc)
  obtain ⟨hlast, hvalue⟩ := lastDigits_digitsValue (whole.map digitOf) hdigits
  rw [List.length_map, hlength, ← List.map_append, ← hwrites.unitsIn_eq] at hlast hvalue
  have hfront : plain whole = Nat.toDigits 10 (Numeral.digitsValue (whole.map digitOf)) := by
    have hboth : ∀ cs ∈ [['0'], ['1']],
        plain cs = Nat.toDigits 10 (Numeral.digitsValue (cs.map digitOf)) := by decide
    exact hboth whole hwhole
  have hends : ∀ ending ∈ [[], ['\n']], plain ending = [] := by decide
  obtain ⟨ending, hending, hfield⟩ := hwrites.eq_append
  have hpoint : plain ['.'] = ['.'] := by decide
  have hparts : field = whole ++ (['.'] ++ (fraction ++ ending)) := by simp [hfield]
  rw [placedText, Nat.pow_eq, hvalue, hlast, ← hfront, ← plain_digits hwrites.fraction_digits,
    hparts, plain_append, plain_append, plain_append, hpoint, hends ending hending, List.append_nil]
  rfl

/-! ### Values -/

theorem thousandths_valueIn {field : List Char} (hunits : unitsIn field ≤ 1000) :
    thousandths (valueIn field) = unitsIn field := by
  have hthousand : 0 < 1000 := by decide
  have hvalue : (valueIn field).unitValue = (valueIn field).toRat :=
    Datum.unitValue_eq_toRat (Format.isNearest_of_le hthousand hunits).isFinite
      (Format.toRat_nearest_nonneg hthousand hunits) (Format.toRat_nearest_le_one hthousand hunits)
  have herror : |(valueIn field).toRat - ((unitsIn field : ℕ) : ℚ) / (1000 : ℕ)| ≤ 2 ^ (-53 : ℤ) :=
    Format.abs_nearest_sub_le hthousand hunits
  have hrounded : roundHalfEven (1000 * (valueIn field).unitValue) = unitsIn field := by
    refine roundHalfEven_eq_of_abs_lt ?_
    have hscale : 1000 * (valueIn field).unitValue - ((unitsIn field : ℤ) : ℚ) =
        1000 * ((valueIn field).toRat - ((unitsIn field : ℕ) : ℚ) / (1000 : ℕ)) := by
      rw [hvalue]
      push_cast
      ring
    rw [hscale, abs_mul, abs_of_pos (by norm_num : (0 : ℚ) < 1000)]
    calc 1000 * |(valueIn field).toRat - ((unitsIn field : ℕ) : ℚ) / (1000 : ℕ)|
        ≤ 1000 * 2 ^ (-53 : ℤ) := by gcongr
      _ < 1 / 2 := by norm_num
  have hnat := thousandths_eq (valueIn field)
  rw [hrounded] at hnat
  exact Int.ofNat.inj hnat

/-- What is framed again is the line that was read, without its liberties. -/
theorem ReportsValues.toList_body_eq {line : String} {raw : List (List Char)}
    (h : ReportsValues line raw) :
    (regressionBody (raw.map valueIn)).toList = plain (payload line) := by
  have htag : plain ['R'] = ['R'] := by decide
  have hseparator : plain [separator] = [separator] := by decide
  have hfields : ∀ parts : List (List Char), (∀ field ∈ parts, field ∈ raw) →
      (parts.flatMap fun field => ',' :: (valueField (valueIn field)).toList) =
        plain (parts.flatMap (separator :: ·)) := by
    intro parts hparts
    induction parts with
    | nil => rfl
    | cons field parts ih =>
      have hfield := hparts field List.mem_cons_self
      rw [List.flatMap_cons, List.flatMap_cons, plain_append, plain_cons_of_eq hseparator,
        plain_of_isValue (h.isValue field hfield), toList_valueField,
        thousandths_valueIn (h.units_le field hfield),
        ih fun other hother => hparts other (List.mem_cons_of_mem field hother)]
      rfl
  rw [toList_regressionBody, List.flatMap_map, hfields raw fun _ => id, h.payload_eq,
    plain_cons_of_eq htag]

theorem ReportsValues.frame_eq {line : String} {raw : List (List Char)}
    (h : ReportsValues line raw) :
    frameRegression (raw.map valueIn) = .ok (String.ofList (plain (payload line)) ++ "\n") := by
  have hnonempty : raw.map valueIn ≠ [] := by simpa using h.ne_nil
  rw [frameRegression_eq_ok hnonempty, ← h.toList_body_eq, String.ofList_toList]

/-- Of two lines with the same end the one is the other if their texts are the same. -/
theorem ofList_append_inj {cs ds : List Char} :
    String.ofList cs ++ "\n" = String.ofList ds ++ "\n" ↔ cs = ds := by
  rw [← String.toList_inj, String.toList_append, String.toList_append, List.append_cancel_right_eq,
    String.toList_ofList, String.toList_ofList]

theorem isAscii_regressionBody (values : List Datum) : IsAscii (regressionBody values).toList := by
  rw [toList_regressionBody, isAscii_cons]
  refine ⟨by decide, ?_⟩
  intro c hc
  obtain ⟨v, -, hmem⟩ := List.mem_flatMap.1 hc
  rw [toList_valueField, List.mem_cons] at hmem
  rcases hmem with rfl | hmem
  · decide
  · exact isAscii_placedText _ _ c hmem

theorem ReportsValues.plain_eq_iff {line : String} {raw : List (List Char)}
    (h : ReportsValues line raw) :
    plain (payload line) = payload line ↔ IsAscii (payload line) ∧ '\n' ∉ payload line := by
  constructor
  · intro heq
    refine ⟨?_, fun hfeed => ?_⟩
    · rw [← heq, ← h.toList_body_eq]
      exact isAscii_regressionBody _
    · have hkept : ∀ c, plainDigit c = '\n' → c = '\n' := by
        intro c hc
        rw [plainDigit] at hc
        split at hc
        · next hdigit =>
          have hall : ∀ d < 10, Nat.digitChar d ≠ '\n' := by decide
          exact absurd hc (hall _ (digitOf_lt hdigit))
        · exact hc
      rw [← heq, plain, List.mem_map] at hfeed
      obtain ⟨c, hc, hdigit⟩ := hfeed
      have hline := (List.mem_filter.1 hc).2
      rw [hkept c hdigit] at hline
      cases hline
  · rintro ⟨hascii, hfeed⟩
    exact plain_eq_self hascii hfeed

/-- **What is read as values is framed as the line, but for its digits and line feeds.**  Whatever
    line is read as values, framing them gives the line with ASCII digits and without line feeds,
    and so the line itself, up to its end, exactly if it has no others. -/
theorem frameRegression_of_parse {line : String} {values : List Datum}
    (hparse : parse line = .ok (.regression values)) :
    frameRegression values = .ok (String.ofList (plain (payload line)) ++ "\n") ∧
      (frameRegression values = .ok (String.ofList (payload line) ++ "\n") ↔
        IsAscii (payload line) ∧ '\n' ∉ payload line) := by
  obtain ⟨raw, hreport, rfl⟩ := reportsValues_of_parse hparse
  refine ⟨hreport.frame_eq, ?_⟩
  rw [hreport.frame_eq, Except.ok.injEq, ofList_append_inj, hreport.plain_eq_iff]

theorem frameRegression_of_parse_mixed :
    parse "R,0.५00,1.000\n\r\r\n" = .ok (.regression [.finite false 1 (-1), .one]) ∧
      frameRegression [.finite false 1 (-1), .one] = .ok "R,0.500,1.000\n" := by
  have hparse : parse "R,0.५00,1.000\n\r\r\n" = .ok (.regression [.finite false 1 (-1), .one]) := by
    decide
  have hplain : String.ofList (plain (payload "R,0.५00,1.000\n\r\r\n")) ++ "\n" =
      "R,0.500,1.000\n" := by decide
  refine ⟨hparse, ?_⟩
  rw [(frameRegression_of_parse hparse).1, hplain]

/-- A digit of another script is read, and so is a line feed behind a field; neither is framed. -/
theorem parse_accepts_unframed :
    (parse "R,0.५00" = .ok (.regression [.finite false 1 (-1)]) ∧
      frameRegression [.finite false 1 (-1)] ≠
        .ok (String.ofList (payload "R,0.५00") ++ "\n")) ∧
      parse "R,0.500\n\n" = .ok (.regression [.finite false 1 (-1)]) ∧
      frameRegression [.finite false 1 (-1)] ≠
        .ok (String.ofList (payload "R,0.500\n\n") ++ "\n") := by
  refine ⟨⟨?_, ?_⟩, ?_, ?_⟩
  all_goals decide

end Message

end DenseSketch
