import DenseSketch.Message.Parse
import DenseSketch.Proofs.Number.Decimal
import DenseSketch.Proofs.Number.Shortest
import DenseSketch.Proofs.Text.Characters

/-!
# Fields and line ends

A field with a point among digits, of whatever script, is read as the double that is nearest to it,
and the reader of messages recognizes its form.  Numbers are written with ASCII digits.  What ends a
line does not count.
-/

namespace DenseSketch

open Text

namespace Numeral

/-! ### Digits -/

theorem digitsAfter_append {cs rest : List Char} (hcs : ∀ c ∈ cs, Text.isDigit c)
    (hrest : ∀ c ∈ rest.head?, c = '.') : digitsAfter (cs ++ rest) = (cs.map digitOf, rest) := by
  induction cs with
  | nil =>
    cases rest with
    | nil => rfl
    | cons c rest =>
      rw [hrest c rfl]
      rfl
  | cons c cs ih =>
    have hc : Text.isDigit c := hcs c (by simp)
    have htail := ih fun d hd => hcs d (by simp [hd])
    have hline : c ≠ '_' := ne_of_isDigit hc (by decide)
    rw [List.cons_append, digitsAfter, digitValue?_eq_some hc, htail]
    · rfl
    · simp [hline]

theorem digitRun_append {cs rest : List Char} (hcs : ∀ c ∈ cs, Text.isDigit c)
    (hrest : ∀ c ∈ rest.head?, c = '.') : digitRun (cs ++ rest) = (cs.map digitOf, rest) := by
  cases cs with
  | nil =>
    cases rest with
    | nil => rfl
    | cons c rest =>
      rw [hrest c rfl]
      rfl
  | cons c cs =>
    have hc : Text.isDigit c := hcs c (by simp)
    rw [List.cons_append, digitRun, digitValue?_eq_some hc,
      digitsAfter_append (fun d hd => hcs d (by simp [hd])) hrest]
    rfl

theorem digitsValue_map {cs : List Char} (hcs : ∀ c ∈ cs, c.isDigit) :
    digitsValue (cs.map digitOf) = Nat.ofDigitChars 10 cs 0 := by
  have hvalues : cs.map digitOf = cs.map fun c => c.toNat - 48 :=
    List.map_congr_left fun c hc => digitOf_of_isDigit (hcs c hc)
  rw [hvalues]
  simp only [digitsValue, Nat.ofDigitChars_eq_foldl, List.foldl_map, Nat.mul_comm]
  rfl

end Numeral

/-! ### Blanks -/

theorem dropWhile_eq_self {drop : Char → Bool} {cs : List Char}
    (hfirst : ∀ c ∈ cs.head?, drop c = false) : cs.dropWhile drop = cs := by
  cases cs with
  | nil => rfl
  | cons c cs => rw [List.dropWhile_cons_of_neg (by simp [hfirst c rfl])]

/-- What is dropped at both ends leaves what stands between. -/
theorem trim_append {drop : Char → Bool} {cs ending : List Char} (hcs : cs ≠ [])
    (hfirst : ∀ c ∈ cs.head?, drop c = false) (hlast : ∀ c ∈ cs.getLast?, drop c = false)
    (hending : ∀ c ∈ ending, drop c) : trim drop (cs ++ ending) = cs := by
  have hstart : (cs ++ ending).dropWhile drop = cs ++ ending := by
    refine dropWhile_eq_self fun c hc => hfirst c ?_
    rwa [List.head?_append_of_ne_nil cs hcs] at hc
  have hreverse : cs.reverse.dropWhile drop = cs.reverse := by
    refine dropWhile_eq_self fun c hc => hlast c ?_
    rwa [List.head?_reverse] at hc
  have hdropped : ∀ c ∈ ending.reverse, drop c = true := fun c hc =>
    hending c (List.mem_reverse.1 hc)
  rw [trim, hstart, List.reverse_append, List.dropWhile_append_of_pos hdropped, hreverse,
    List.reverse_reverse]

/-! ### Digits around a point -/

namespace Message

/-- The number that the digits of a field spell, wherever its point stands. -/
def unitsIn (field : List Char) : Nat :=
  Numeral.digitsValue ((field.filter Text.isDigit).map digitOf)

/-- The field consists of digits around a point, and perhaps a line feed. -/
structure Writes (field whole fraction : List Char) : Prop where
  ne_nil : whole ≠ []
  whole_digits : ∀ c ∈ whole, Text.isDigit c
  fraction_digits : ∀ c ∈ fraction, Text.isDigit c
  eq_append : ∃ ending ∈ [[], ['\n']], field = whole ++ '.' :: fraction ++ ending

variable {field whole fraction : List Char}

theorem Writes.head_isDigit (h : Writes field whole fraction) :
    ∃ c tail, whole = c :: tail ∧ Text.isDigit c := by
  obtain ⟨c, tail, rfl⟩ := List.exists_cons_of_ne_nil h.ne_nil
  exact ⟨c, tail, rfl, h.whole_digits c List.mem_cons_self⟩

/-- The last character is a digit or the point. -/
theorem Writes.last (h : Writes field whole fraction) {c : Char}
    (hc : c ∈ (whole ++ '.' :: fraction).getLast?) : Text.isDigit c ∨ c = '.' := by
  rw [List.getLast?_append_of_ne_nil _ (List.cons_ne_nil _ _)] at hc
  rcases List.mem_cons.1 (List.mem_of_getLast? hc) with rfl | hc
  · exact .inr rfl
  · exact .inl (h.fraction_digits c hc)

theorem dropLineFeed_of_getLast?_ne {cs : List Char} (hlast : cs.getLast? ≠ some '\n') :
    dropLineFeed cs = cs :=
  if_neg hlast

theorem dropLineFeed_concat (cs : List Char) : dropLineFeed (cs ++ ['\n']) = cs := by
  rw [dropLineFeed, List.getLast?_concat, if_pos rfl, List.dropLast_concat]

theorem Writes.dropLineFeed_eq (h : Writes field whole fraction) :
    dropLineFeed field = whole ++ '.' :: fraction := by
  obtain ⟨ending, hending, rfl⟩ := h.eq_append
  simp only [List.mem_cons, List.not_mem_nil, or_false] at hending
  rcases hending with rfl | rfl
  · rw [List.append_nil]
    refine dropLineFeed_of_getLast?_ne fun hlast => ?_
    rcases h.last hlast with hdigit | hpoint
    · exact ne_of_isDigit hdigit (by decide) rfl
    · revert hpoint
      decide
  · exact dropLineFeed_concat _

theorem Writes.unitsIn_eq (h : Writes field whole fraction) :
    unitsIn field = Numeral.digitsValue ((whole ++ fraction).map digitOf) := by
  obtain ⟨ending, hending, rfl⟩ := h.eq_append
  have hpoint : Text.isDigit '.' = false := by decide
  have hnone : ending.filter Text.isDigit = [] := by
    simp only [List.mem_cons, List.not_mem_nil, or_false] at hending
    rcases hending with rfl | rfl
    all_goals decide
  rw [unitsIn, List.filter_append, List.filter_append, List.filter_cons_of_neg (by simp [hpoint]),
    List.filter_eq_self.2 h.whole_digits, List.filter_eq_self.2 h.fraction_digits, hnone,
    List.append_nil]

/-- The form of a field depends on what stands in front of the point. -/
theorem Writes.isDecimal_eq (h : Writes field whole fraction) (test : List Char → Bool) :
    isDecimal test fraction.length field = test whole := by
  have hwhole : ∀ c ∈ whole, (c != '.') = true := fun c hc =>
    bne_iff_ne.2 (ne_of_isDigit (h.whole_digits c hc) (by decide))
  have hfraction : fraction.all Text.isDigit = true := List.all_eq_true.2 h.fraction_digits
  rw [isDecimal, h.dropLineFeed_eq, List.takeWhile_append_of_pos hwhole,
    List.dropWhile_append_of_pos hwhole]
  simp [hfraction]

/-- A field with the form of a number consists of digits around a point. -/
theorem exists_writes {test : List Char → Bool} {places : Nat}
    (htest : ∀ cs, test cs → cs ≠ [] ∧ ∀ c ∈ cs, Text.isDigit c)
    (hform : isDecimal test (places + 1) field) :
    ∃ whole fraction, Writes field whole fraction ∧ test whole ∧ fraction.length = places + 1 := by
  have hending : ∃ ending ∈ [[], ['\n']], field = dropLineFeed field ++ ending := by
    rw [dropLineFeed]
    split
    · next hlast =>
      obtain ⟨cs, rfl⟩ := List.getLast?_eq_some_iff.1 hlast
      exact ⟨['\n'], by simp, by simp⟩
    · exact ⟨[], by simp, by simp⟩
  simp only [isDecimal, Bool.and_eq_true, beq_iff_eq, List.all_eq_true] at hform
  obtain ⟨⟨hwhole, hlength⟩, hdigits⟩ := hform
  generalize dropLineFeed field = body at hending hwhole hlength hdigits
  have hbody : body.takeWhile (· != '.') ++ body.dropWhile (· != '.') = body :=
    List.takeWhile_append_dropWhile
  cases hrest : body.dropWhile (· != '.') with
  | nil =>
    rw [hrest] at hlength
    simp at hlength
  | cons c fraction =>
    have hpoint : c = '.' := by
      have hhead := List.head?_dropWhile_not (fun c : Char => c != '.') body
      rw [hrest] at hhead
      simpa using hhead
    rw [hrest, List.drop_one, List.tail_cons] at hlength hdigits
    rw [hrest, hpoint] at hbody
    obtain ⟨hne, hall⟩ := htest _ hwhole
    refine ⟨_, fraction, ⟨hne, hall, hdigits, ?_⟩, hwhole, hlength⟩
    rwa [hbody]

end Message

namespace Numeral

open Message

variable {field whole fraction : List Char}

theorem readDecimal?_digits (hne : whole ≠ []) (hwhole : ∀ c ∈ whole, Text.isDigit c)
    (hfraction : ∀ c ∈ fraction, Text.isDigit c) :
    readDecimal? .binary64 false (whole ++ '.' :: fraction) =
      some (Format.binary64.nearest false
        (digitsValue ((whole ++ fraction).map digitOf)) (10 ^ fraction.length)) := by
  have hrun : digitRun (whole ++ '.' :: fraction) = (whole.map digitOf, '.' :: fraction) :=
    digitRun_append hwhole (by simp)
  have hrest : digitRun (fraction ++ []) = (fraction.map digitOf, []) :=
    digitRun_append hfraction (by simp)
  have hempty : (whole.map digitOf).isEmpty = false := by
    rwa [List.isEmpty_eq_false_iff, ne_eq, List.map_eq_nil_iff]
  rw [List.append_nil] at hrest
  simp only [readDecimal?, hrun, hrest, hempty, readExponent?, List.map_append,
    Bool.false_and, Bool.false_eq_true, if_false, Option.map_some, List.length_map,
    Format.ofDecimal_eq, zero_sub]
  simp

/-- Digits around a point are read as the nearest double. -/
theorem readReal?_of_writes (h : Writes field whole fraction) :
    readReal? (String.ofList field) =
      some (Format.binary64.nearest false (unitsIn field) (10 ^ fraction.length)) := by
  obtain ⟨c, tail, hcons, hc⟩ := h.head_isDigit
  have hread := readDecimal?_digits h.ne_nil h.whole_digits h.fraction_digits
  rw [← h.unitsIn_eq] at hread
  have htrim : trim isNumeralBlank field = whole ++ '.' :: fraction := by
    obtain ⟨ending, hending, rfl⟩ := h.eq_append
    refine trim_append (by simp) (fun first hfirst => ?_) (fun last hlast => ?_) ?_
    · rw [hcons] at hfirst
      obtain rfl : c = first := Option.some.inj hfirst
      exact isNumeralBlank_of_isDigit hc
    · rcases h.last hlast with hdigit | rfl
      · exact isNumeralBlank_of_isDigit hdigit
      · decide
    · simp only [List.mem_cons, List.not_mem_nil, or_false] at hending
      rcases hending with rfl | rfl
      · exact List.forall_mem_nil _
      · exact List.forall_mem_singleton.2 rfl
  have hsigned : takeSign (whole ++ '.' :: fraction) = (false, whole ++ '.' :: fraction) := by
    rw [hcons, List.cons_append, takeSign]
    · rintro rest heq
      exact ne_of_isDigit hc (by decide) (List.cons.inj heq).1
    · rintro rest heq
      exact ne_of_isDigit hc (by decide) (List.cons.inj heq).1
  -- A digit starts none of the names that a real may have.
  have hnames : ∀ name : List Char, name.head?.map Text.isDigit = some false →
      ((whole ++ '.' :: fraction).map Char.toLower == name) = false := by
    intro name hname
    rw [beq_eq_false_iff_ne, hcons]
    rintro rfl
    simp [toLower_of_isDigit hc, hc] at hname
  unfold readReal?
  rw [String.toList_ofList, htrim]
  simp only [hsigned, hnames "inf".toList (by decide), hnames "infinity".toList (by decide),
    hnames "nan".toList (by decide), hread]
  simp

end Numeral

/-! ### Numbers with places -/

theorem getLast?_placedText (places units : Nat) :
    (placedText (places + 1) units).getLast? = some (Nat.digitChar (units % 10)) := by
  rw [placedText, lastDigits, ← List.cons_append, ← List.append_assoc, List.getLast?_concat]

namespace Message

theorem writes_placedText (places units : Nat) :
    Writes (placedText places units) (Nat.toDigits 10 (units / 10 ^ places))
      (lastDigits places units) := by
  constructor
  case ne_nil => exact Nat.toDigits_ne_nil
  case whole_digits => exact fun c hc => isDigit_of_isDigit (isDigit_of_mem_toDigits hc)
  case fraction_digits => exact fun c hc => isDigit_of_isDigit (isDigit_of_mem_lastDigits hc)
  case eq_append => exact ⟨[], by simp, by rw [placedText, Nat.pow_eq, List.append_nil]⟩

theorem unitsIn_placedText (places units : Nat) : unitsIn (placedText places units) = units := by
  rw [(writes_placedText places units).unitsIn_eq, Numeral.digitsValue_map, ofDigitChars_placedText]
  intro c hc
  rcases List.mem_append.1 hc with hc | hc
  · exact isDigit_of_mem_toDigits hc
  · exact isDigit_of_mem_lastDigits hc

theorem placedText_injective (places : Nat) : Function.Injective (placedText places) := by
  intro units other hsame
  rw [← unitsIn_placedText places units, hsame, unitsIn_placedText]

/-- A number with places has the form of one, if its whole part is allowed. -/
theorem isDecimal_placedText (test : List Char → Bool) (places units : Nat) :
    isDecimal test places (placedText places units) =
      test (Nat.toDigits 10 (units / 10 ^ places)) := by
  have hform := (writes_placedText places units).isDecimal_eq test
  rwa [length_lastDigits] at hform

theorem isConfidence_placedText (units : Nat) : isConfidence (placedText 2 units) := by
  rw [isConfidence, isDecimal_placedText, Bool.and_eq_true, Bool.not_eq_true',
    List.isEmpty_eq_false_iff, List.all_eq_true]
  exact ⟨Nat.toDigits_ne_nil, fun c hc => isDigit_of_isDigit (isDigit_of_mem_toDigits hc)⟩

theorem isValue_placedText {units : Nat} (hunits : units ≤ 1000) :
    isValue (placedText 3 units) := by
  have hdigits : ∀ n ≤ 1, Nat.toDigits 10 n = ['0'] ∨ Nat.toDigits 10 n = ['1'] := by decide
  rw [isValue, isDecimal_placedText, Bool.or_eq_true, beq_iff_eq, beq_iff_eq]
  exact hdigits _ (by omega)

/-- The number of a field is the double nearest to it. -/
theorem Writes.fieldValue_eq {field whole fraction : List Char} (h : Writes field whole fraction) :
    fieldValue field =
      .ok (Format.binary64.nearest false (unitsIn field) (10 ^ fraction.length)) := by
  rw [fieldValue, Numeral.readReal?_of_writes h]

theorem fieldValue_placedText (places units : Nat) :
    fieldValue (placedText places units) =
      .ok (Format.binary64.nearest false units (10 ^ places)) := by
  rw [(writes_placedText places units).fieldValue_eq, unitsIn_placedText, length_lastDigits]

theorem separator_not_mem_placedText (places units : Nat) : separator ∉ placedText places units :=
  fun h => (isDigit_or_point_of_mem_placedText h).elim (by decide) (by decide)

/-! ### Line ends -/

theorem dropReturns_eq_self {cs : List Char} (hlast : cs.getLast? ≠ some '\r') :
    dropReturns cs = cs := by
  rw [dropReturns, dropWhile_eq_self, List.reverse_reverse]
  intro c hc
  rw [List.head?_reverse] at hc
  rw [beq_eq_false_iff_ne]
  rintro rfl
  exact hlast hc

theorem dropReturns_concat (cs : List Char) : dropReturns (cs ++ ['\r']) = dropReturns cs := by
  rw [dropReturns, List.reverse_append]
  rfl

/-- However the line ends, the same text is read. -/
theorem payload_of_mem {body line : String} (hfeed : body.toList.getLast? ≠ some '\n')
    (hreturn : body.toList.getLast? ≠ some '\r')
    (hline : line ∈ [body ++ "\n", body, body ++ "\r\n"]) : payload line = body.toList := by
  simp only [List.mem_cons, List.not_mem_nil, or_false] at hline
  rcases hline with rfl | rfl | rfl
  · have hchars : (body ++ "\n").toList = body.toList ++ ['\n'] := String.toList_append
    rw [payload, hchars, dropLineFeed_concat, dropReturns_eq_self hreturn]
  · rw [payload, dropLineFeed_of_getLast?_ne hfeed, dropReturns_eq_self hreturn]
  · have hchars : (body ++ "\r\n").toList = (body.toList ++ ['\r']) ++ ['\n'] := by
      rw [String.toList_append, List.append_assoc]
      rfl
    rw [payload, hchars, dropLineFeed_concat, dropReturns_concat, dropReturns_eq_self hreturn]

end Message

end DenseSketch
