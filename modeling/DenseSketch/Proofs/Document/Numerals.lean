import DenseSketch.Document.Reader
import DenseSketch.Proofs.Number.Decimal
import DenseSketch.Proofs.Number.Shortest

/-!
# Numerals are read back

A whole number is read as itself, and the text of a decimal as the datum that the decimal stands
for.  What stands behind a numeral in a document ends it.
-/

namespace DenseSketch.Document

open Reader

/-- What may stand behind a value of a document: nothing, a comma or a line break. -/
def EndsValue (rest : List Char) : Prop := ∀ c ∈ rest.head?, c = ',' ∨ c = '\n'

/-- Digits of which the first one is no needless zero. -/
structure IsWhole (cs : List Char) : Prop where
  nonempty : cs ≠ []
  digits : ∀ c ∈ cs, c.isDigit
  leading : cs.head? = some '0' → cs = ['0']

/-! ### Runs of digits -/

theorem isAsciiDigit_eq : isAsciiDigit = Char.isDigit := rfl

theorem digitsValue_eq (cs : List Char) : digitsValue cs = Nat.ofDigitChars 10 cs 0 := by
  simp only [digitsValue, Nat.ofDigitChars_eq_foldl, Nat.mul_comm]
  rfl

theorem takeWhile_digits {cs rest : List Char} (hcs : ∀ c ∈ cs, c.isDigit)
    (hrest : ∀ c ∈ rest.head?, c.isDigit = false) :
    (cs ++ rest).takeWhile isAsciiDigit = cs := by
  rw [isAsciiDigit_eq, List.takeWhile_append_of_pos hcs]
  cases rest with
  | nil => simp
  | cons c rest =>
    rw [List.takeWhile_cons, hrest c rfl]
    simp

theorem dropWhile_digits {cs rest : List Char} (hcs : ∀ c ∈ cs, c.isDigit)
    (hrest : ∀ c ∈ rest.head?, c.isDigit = false) :
    (cs ++ rest).dropWhile isAsciiDigit = rest := by
  rw [isAsciiDigit_eq, List.dropWhile_append_of_pos hcs]
  cases rest with
  | nil => rfl
  | cons c rest =>
    rw [List.dropWhile_cons, hrest c rfl]
    simp

theorem toDigits_head_ne_zero {n : Nat} (hn : 0 < n) : (Nat.toDigits 10 n).head? ≠ some '0' := by
  induction n using Nat.strongRecOn with
  | ind n ih =>
    rcases Nat.lt_or_ge n 10 with hsmall | hlarge
    · have hdigit : ∀ d < 10, 0 < d → [Nat.digitChar d].head? ≠ some '0' := by decide
      rw [Nat.toDigits_of_lt_base hsmall]
      exact hdigit n hsmall hn
    · rw [Nat.toDigits_of_base_le (by decide) hlarge,
        List.head?_append_of_ne_nil _ Nat.toDigits_ne_nil]
      exact ih (n / 10) (Nat.div_lt_self hn (by decide)) (Nat.div_pos hlarge (by decide))

theorem isWhole_of_head_ne {cs : List Char} (hnonempty : cs ≠ []) (hdigits : ∀ c ∈ cs, c.isDigit)
    (hhead : cs.head? ≠ some '0') : IsWhole cs :=
  ⟨hnonempty, hdigits, fun hzero => absurd hzero hhead⟩

theorem isWhole_toDigits (n : Nat) : IsWhole (Nat.toDigits 10 n) where
  nonempty := Nat.toDigits_ne_nil
  digits _ := isDigit_of_mem_toDigits
  leading hzero := by
    rcases Nat.eq_zero_or_pos n with rfl | hpos
    · rfl
    · exact absurd hzero (toDigits_head_ne_zero hpos)

theorem EndsValue.not_digit {rest : List Char} (hrest : EndsValue rest) :
    ∀ c ∈ rest.head?, c.isDigit = false := by
  intro c hc
  rcases hrest c hc with rfl | rfl
  · decide
  · decide

/-! ### Numerals with a fraction or an exponent -/

/-- The text of a real numeral, with the decimal that it stands for. -/
inductive RealText : List Char → Decimal → Prop where
  | positional {whole places : List Char} (hwhole : IsWhole whole) (hnonempty : places ≠ [])
      (hplaces : ∀ c ∈ places, c.isDigit) :
      RealText (whole ++ '.' :: places) ⟨digitsValue (whole ++ places), -places.length⟩
  | scientific {whole places power : List Char} (negative : Bool) (hwhole : IsWhole whole)
      (hplaces : ∀ c ∈ places, c.isDigit) (hnonempty : power ≠ [])
      (hpower : ∀ c ∈ power, c.isDigit) :
      RealText
        (whole ++ (if places = [] then [] else '.' :: places) ++
          'e' :: (if negative then '-' else '+') :: power)
        ⟨digitsValue (whole ++ places),
          (if negative then -(digitsValue power : Int) else digitsValue power) - places.length⟩

theorem takeFraction_places {places rest : List Char} (hnonempty : places ≠ [])
    (hplaces : ∀ c ∈ places, c.isDigit) (hrest : ∀ c ∈ rest.head?, c.isDigit = false) :
    takeFraction ('.' :: (places ++ rest)) = (some places, rest) := by
  obtain ⟨c, places, rfl⟩ := List.exists_cons_of_ne_nil hnonempty
  have hc : isAsciiDigit c := hplaces c (by simp)
  have htail : ∀ d ∈ places, d.isDigit := fun d hd => hplaces d (by simp [hd])
  rw [List.cons_append, takeFraction, if_pos hc, takeWhile_digits htail hrest,
    dropWhile_digits htail hrest]

theorem takeFraction_none {rest : List Char} (hrest : ∀ c ∈ rest.head?, c ≠ '.') :
    takeFraction rest = (none, rest) := by
  unfold takeFraction
  split
  · next c rest => exact absurd rfl (hrest '.' rfl)
  · rfl

theorem takeExponent_none {rest : List Char} (hrest : ∀ c ∈ rest.head?, c ≠ 'e' ∧ c ≠ 'E') :
    takeExponent rest = (none, rest) := by
  unfold takeExponent
  split
  · next mark rest =>
    obtain ⟨hlower, hupper⟩ := hrest mark rfl
    rw [if_neg]
    simp [hlower, hupper]
  · rfl

theorem takeExponent_power {power rest : List Char} (negative : Bool) (hnonempty : power ≠ [])
    (hpower : ∀ c ∈ power, c.isDigit) (hrest : ∀ c ∈ rest.head?, c.isDigit = false) :
    takeExponent ('e' :: (if negative then '-' else '+') :: (power ++ rest)) =
      (some (if negative then -(digitsValue power : Int) else digitsValue power), rest) := by
  have hempty : power.isEmpty = false := List.isEmpty_eq_false_iff.2 hnonempty
  cases negative with
  | true =>
    simp only [takeExponent, if_true, takeWhile_digits hpower hrest,
      dropWhile_digits hpower hrest, hempty]
    rfl
  | false =>
    simp only [takeExponent, Bool.false_eq_true, if_false,
      takeWhile_digits hpower hrest, dropWhile_digits hpower hrest, hempty]
    rfl

theorem takeWhole_append {whole cs : List Char} (hwhole : IsWhole whole)
    (hcs : ∀ c ∈ cs.head?, c.isDigit = false) : takeWhole (whole ++ cs) = whole := by
  unfold takeWhole
  split
  · next rest heq =>
    obtain ⟨c, tail, rfl⟩ := List.exists_cons_of_ne_nil hwhole.nonempty
    rw [List.cons_append, List.cons.injEq] at heq
    rw [hwhole.leading (by rw [heq.1]; rfl)]
  · exact takeWhile_digits hwhole.digits hcs

theorem readNumber_whole {whole rest : List Char} (negative : Bool) (hwhole : IsWhole whole)
    (hlength : whole.length ≤ Numeral.maxIntegerDigits) (hrest : EndsValue rest) :
    readNumber negative (whole ++ rest) =
      .ok (.integer (if negative then -(digitsValue whole : Int) else digitsValue whole), rest) := by
  have hempty : whole.isEmpty = false := List.isEmpty_eq_false_iff.2 hwhole.nonempty
  have hfraction : takeFraction rest = (none, rest) := by
    refine takeFraction_none fun c hc => ?_
    rcases hrest c hc with rfl | rfl
    · decide
    · decide
  have hexponent : takeExponent rest = (none, rest) := by
    refine takeExponent_none fun c hc => ?_
    rcases hrest c hc with rfl | rfl
    · decide
    · decide
  simp only [readNumber, takeWhole_append hwhole hrest.not_digit, hempty, Bool.false_eq_true,
    if_false, List.drop_left, hfraction, hexponent, Nat.not_lt.2 hlength]

/-- A real numeral is read part by part. -/
theorem readNumber_append {whole cs rest₁ rest₂ : List Char} {fraction : Option (List Char)}
    {exponent : Option Int} (negative : Bool) (hwhole : IsWhole whole)
    (hcs : ∀ c ∈ cs.head?, c.isDigit = false) (hfraction : takeFraction cs = (fraction, rest₁))
    (hexponent : takeExponent rest₁ = (exponent, rest₂))
    (hreal : fraction = none → exponent ≠ none) :
    readNumber negative (whole ++ cs) =
      .ok (.real (Format.binary64.ofDecimal negative (digitsValue (whole ++ fraction.getD []))
        (exponent.getD 0 - (fraction.getD []).length)), rest₂) := by
  have hempty : whole.isEmpty = false := List.isEmpty_eq_false_iff.2 hwhole.nonempty
  simp only [readNumber, takeWhole_append hwhole hcs, hempty, Bool.false_eq_true, if_false,
    List.drop_left, hfraction, hexponent]

theorem readNumber_realText {cs rest : List Char} {d : Decimal} (negative : Bool)
    (hcs : RealText cs d) (hrest : EndsValue rest) :
    readNumber negative (cs ++ rest) = .ok (.real (d.toDatum .binary64 negative), rest) := by
  cases hcs with
  | @positional whole places hwhole hnonempty hplaces =>
    have hexponent : takeExponent rest = (none, rest) := by
      refine takeExponent_none fun c hc => ?_
      rcases hrest c hc with rfl | rfl
      · decide
      · decide
    rw [List.append_assoc, List.cons_append, readNumber_append negative hwhole
      (by simp) (takeFraction_places hnonempty hplaces hrest.not_digit) hexponent (by simp)]
    simp [Decimal.toDatum]
  | @scientific whole places power minus hwhole hplaces hnonempty hpower =>
    have hexponent := takeExponent_power minus hnonempty hpower hrest.not_digit
    by_cases hfraction : places = []
    · have hnone : takeFraction ('e' :: (if minus then '-' else '+') :: (power ++ rest)) =
          (none, _) := takeFraction_none (by simp)
      rw [if_pos hfraction, List.append_nil, List.append_assoc, List.cons_append, List.cons_append,
        readNumber_append negative hwhole (by simp) hnone hexponent (by simp)]
      simp [Decimal.toDatum, hfraction]
    · have hsome : takeFraction ('.' :: (places ++
          'e' :: (if minus then '-' else '+') :: (power ++ rest))) = (some places, _) :=
        takeFraction_places hfraction hplaces (by simp)
      rw [if_neg hfraction, List.append_assoc, List.append_assoc, List.cons_append, List.cons_append,
        List.cons_append, readNumber_append negative hwhole (by simp) hsome hexponent (by simp)]
      simp [Decimal.toDatum]

/-! ### The text of a decimal -/

theorem isDigit_of_mem_zeros {k : Nat} {c : Char} (hc : c ∈ List.replicate k '0') : c.isDigit := by
  rw [List.eq_of_mem_replicate hc]
  decide

theorem digitsValue_zeros_append (k : Nat) (cs : List Char) :
    digitsValue (List.replicate k '0' ++ cs) = digitsValue cs := by
  rw [digitsValue_eq, digitsValue_eq, Nat.ofDigitChars_append, Nat.ofDigitChars_replicate_zero]
  simp

theorem digitsValue_append_zeros (cs : List Char) (k : Nat) :
    digitsValue (cs ++ List.replicate k '0') = digitsValue cs * 10 ^ k := by
  rw [digitsValue_eq, digitsValue_eq, Nat.ofDigitChars_append, Nat.ofDigitChars_replicate_zero,
    Nat.mul_comm]

theorem digitsValue_toDigits (n : Nat) : digitsValue (Nat.toDigits 10 n) = n := by
  rw [digitsValue_eq, Nat.ofDigitChars_ten_toDigits]

theorem digitsValue_zero_cons (cs : List Char) :
    digitsValue ('0' :: cs) = digitsValue cs :=
  digitsValue_zeros_append 1 cs

section Layouts

variable {digits : List Char} (hnonempty : digits ≠ []) (hdigits : ∀ c ∈ digits, c.isDigit)
  (hhead : digits.head? ≠ some '0')
include hnonempty hdigits

/-- All digits stand behind the point. -/
theorem realText_below (k : Nat) :
    RealText ('0' :: '.' :: (List.replicate k '0' ++ digits))
      ⟨digitsValue digits, -((k + digits.length : Nat) : Int)⟩ := by
  have hplaces : ∀ c ∈ List.replicate k '0' ++ digits, c.isDigit := by
    intro c hc
    rcases List.mem_append.1 hc with hc | hc
    · exact isDigit_of_mem_zeros hc
    · exact hdigits c hc
  have hread := RealText.positional (isWhole_toDigits 0) (List.append_ne_nil_of_right_ne_nil _ hnonempty)
    hplaces
  rw [Nat.toDigits_zero, List.singleton_append, List.singleton_append, digitsValue_zero_cons,
    digitsValue_zeros_append, List.length_append, List.length_replicate] at hread
  exact hread

include hhead

theorem isWhole_take {k : Nat} (hk : 0 < k) : IsWhole (digits.take k) := by
  refine isWhole_of_head_ne ?_ (fun c hc => hdigits c (List.mem_of_mem_take hc)) ?_
  · rw [ne_eq, List.take_eq_nil_iff]
    rintro (hzero | hnil)
    · exact hk.ne' hzero
    · exact hnonempty hnil
  · rw [List.head?_take, if_neg hk.ne']
    exact hhead

/-- The point stands among the digits. -/
theorem realText_among {k : Nat} (hk : 0 < k) (hlength : k < digits.length) :
    RealText (digits.take k ++ '.' :: digits.drop k)
      ⟨digitsValue digits, -((digits.length - k : Nat) : Int)⟩ := by
  have hdrop : digits.drop k ≠ [] := by
    rw [ne_eq, List.drop_eq_nil_iff]
    omega
  have hread := RealText.positional (isWhole_take hnonempty hdigits hhead hk) hdrop
    fun c hc => hdigits c (List.mem_of_mem_drop hc)
  rwa [List.take_append_drop, List.length_drop] at hread

/-- The point stands behind all digits and some zeros. -/
theorem realText_above (k : Nat) :
    RealText (digits ++ List.replicate k '0' ++ ['.', '0'])
      ⟨digitsValue digits * 10 ^ (k + 1), -1⟩ := by
  have hwhole : IsWhole (digits ++ List.replicate k '0') := by
    refine isWhole_of_head_ne (List.append_ne_nil_of_left_ne_nil hnonempty _) ?_ ?_
    · intro c hc
      rcases List.mem_append.1 hc with hc | hc
      · exact hdigits c hc
      · exact isDigit_of_mem_zeros hc
    · rwa [List.head?_append_of_ne_nil _ hnonempty]
  have hread := RealText.positional hwhole (List.cons_ne_nil '0' [])
    (List.forall_mem_singleton.2 (by decide))
  have hzeros : digits ++ List.replicate k '0' ++ ['0'] = digits ++ List.replicate (k + 1) '0' := by
    rw [List.append_assoc, ← List.replicate_succ']
  rw [hzeros, digitsValue_append_zeros] at hread
  exact hread

/-- The point stands behind the first digit, and a power of ten follows. -/
theorem realText_scaled (power : Int) :
    RealText
      (digits.take 1 ++ (if digits.drop 1 = [] then [] else '.' :: digits.drop 1) ++
        'e' :: (if power < 0 then '-' else '+') ::
          (List.replicate (2 - (Nat.toDigits 10 power.natAbs).length) '0' ++
            Nat.toDigits 10 power.natAbs))
      ⟨digitsValue digits, power - (digits.length - 1 : Nat)⟩ := by
  have hpower : ∀ c ∈ List.replicate (2 - (Nat.toDigits 10 power.natAbs).length) '0' ++
      Nat.toDigits 10 power.natAbs, c.isDigit := by
    intro c hc
    rcases List.mem_append.1 hc with hc | hc
    · exact isDigit_of_mem_zeros hc
    · exact isDigit_of_mem_toDigits hc
  have hsign : (if power < 0 then -(power.natAbs : Int) else power.natAbs) = power := by
    split
    · omega
    · omega
  have hread := RealText.scientific (decide (power < 0))
    (isWhole_take hnonempty hdigits hhead Nat.one_pos)
    (fun c hc => hdigits c (List.mem_of_mem_drop (i := 1) hc))
    (List.append_ne_nil_of_right_ne_nil _ Nat.toDigits_ne_nil) hpower
  simp only [digitsValue_zeros_append, digitsValue_toDigits, decide_eq_true_iff, hsign,
    List.take_append_drop, List.length_drop] at hread
  exact hread

end Layouts

/-- A nought behind the point changes nothing. -/
theorem value_tenfold (n : Nat) {e : Int} (he : 0 ≤ e) :
    (⟨n * 10 ^ (e.toNat + 1), -1⟩ : Decimal).value = (⟨n, e⟩ : Decimal).value := by
  lift e to ℕ using he
  simp only [Decimal.value, Int.toNat_natCast, zpow_neg_one, zpow_natCast]
  push_cast
  rw [pow_succ]
  field_simp

/-- The text of a decimal is a numeral of its value. -/
theorem exists_realText_text {d : Decimal} (hd : 0 < d.significand) :
    ∃ e, RealText d.text e ∧ e.value = d.value := by
  have hdigits : ∀ c ∈ Nat.toDigits 10 d.significand, c.isDigit := fun c => isDigit_of_mem_toDigits
  have hhead := toDigits_head_ne_zero hd
  have hnonempty : Nat.toDigits 10 d.significand ≠ [] := Nat.toDigits_ne_nil
  have hlength := List.length_pos_of_ne_nil hnonempty
  have hvalue := digitsValue_toDigits d.significand
  obtain ⟨n, e⟩ := d
  unfold Decimal.text
  generalize Nat.toDigits 10 n = digits at *
  dsimp only at hvalue ⊢
  split
  · split
    · next hbelow =>
      refine ⟨_, realText_below hnonempty hdigits _, congrArg Decimal.value ?_⟩
      rw [hvalue, Decimal.mk.injEq]
      refine ⟨rfl, ?_⟩
      omega
    · next habove =>
      by_cases hamong : ((digits.length : Int) + e).toNat < digits.length
      · have hdrop : (digits.drop ((digits.length : Int) + e).toNat).isEmpty = false := by
          rw [List.isEmpty_eq_false_iff, ne_eq, List.drop_eq_nil_iff]
          omega
        have hread := realText_among hnonempty hdigits hhead (by omega) hamong
        rw [hdrop, Nat.sub_eq_zero_of_le hamong.le, List.replicate_zero, List.append_nil]
        refine ⟨_, hread, congrArg Decimal.value ?_⟩
        rw [hvalue, Decimal.mk.injEq]
        refine ⟨rfl, ?_⟩
        omega
      · have hbehind : digits.length ≤ ((digits.length : Int) + e).toNat := by omega
        have hread := realText_above hnonempty hdigits hhead e.toNat
        have hzeros : ((digits.length : Int) + e).toNat - digits.length = e.toNat := by omega
        rw [List.drop_eq_nil_of_le hbehind, List.take_of_length_le hbehind, hzeros]
        refine ⟨_, hread, ?_⟩
        rw [hvalue]
        exact value_tenfold n (by omega)
  · have hread := realText_scaled hnonempty hdigits hhead (digits.length + e - 1)
    refine ⟨⟨digitsValue digits, digits.length + e - 1 - (digits.length - 1 : Nat)⟩, ?_,
      congrArg Decimal.value ?_⟩
    · cases hdrop : digits.drop 1 with
      | nil => simpa only [hdrop, if_true] using hread
      | cons c cs => simpa only [hdrop, if_neg (List.cons_ne_nil c cs)] using hread
    · rw [hvalue, Decimal.mk.injEq]
      refine ⟨rfl, ?_⟩
      omega

end DenseSketch.Document
