import DenseSketch.Proofs.Number.Nearest
import DenseSketch.Proofs.Table.Decoding

/-!
# The form of float literals

A literal is taken apart into a sign, the digits in front of its point and the six behind it.  Every
finite value has such a literal, which stands for the exact value rounded to six places, and no
other value has one.  This is `format_float_literal` of SPEC_FULL, section 4.4.
-/

namespace DenseSketch.Table

/-! ### Literals taken apart -/

/-- The parts of a literal: is there a sign, the digits in front of the point, and those behind it.
    No digit in front of the point is superfluous. -/
structure LiteralForm where
  negative : Bool
  whole : List Char
  places : List Char
  whole_ne_nil : whole ≠ []
  isDigit_whole : ∀ c ∈ whole, c.isDigit
  /-- A zero in front stands alone. -/
  whole_of_head : whole.head? = some '0' → whole = ['0']
  isDigit_places : ∀ c ∈ places, c.isDigit
  length_places : places.length = 6

namespace LiteralForm

variable (form : LiteralForm)

/-- The literal itself. -/
def text : String :=
  String.ofList
    ((if form.negative then ['-'] else []) ++ form.whole ++ '.' :: form.places ++ ['f'])

/-- The number that all digits make up, in units of the last place. -/
def units : Nat := Nat.ofDigitChars 10 (form.whole ++ form.places) 0

/-- What the literal stands for. -/
def value : ℚ := (if form.negative then -1 else 1) * (form.units / 10 ^ 6)

/-- A reader of literals finds the value. -/
theorem readLiteral_text : readLiteral form.text.toList = some form.value := by
  have hnotMem : ∀ c : Char, c.isDigit = false → c ≠ '.' →
      c ∉ form.whole ++ '.' :: form.places := by
    intro c hdigit hpoint hmem
    rw [List.mem_append, List.mem_cons] at hmem
    rcases hmem with hmem | rfl | hmem
    · exact Bool.false_ne_true (hdigit.symm.trans (form.isDigit_whole c hmem))
    · exact hpoint rfl
    · exact Bool.false_ne_true (hdigit.symm.trans (form.isDigit_places c hmem))
  have hsuffix := hnotMem 'f' (by decide) (by decide)
  have hsign := hnotMem '-' (by decide) (by decide)
  have hplaces : form.places ≠ [] := by
    rw [← List.length_pos_iff, form.length_places]
    decide
  have hread := readDecimal_digits form.whole_ne_nil hplaces form.isDigit_whole form.isDigit_places
  rw [form.length_places] at hread
  rw [text, String.toList_ofList, value, units]
  cases form.negative with
  | false =>
    simp only [Bool.false_eq_true, if_false, List.nil_append, one_mul]
    rw [readLiteral_unsigned hsuffix hsign, hread]
  | true =>
    simp only [if_true, List.cons_append, List.nil_append, neg_mul, one_mul]
    rw [← List.cons_append, readLiteral_signed hsuffix, hread, Option.map_some]

theorem value_eq_of_text_eq {form other : LiteralForm} (hsame : form.text = other.text) :
    form.value = other.value := by
  have hread := form.readLiteral_text
  rw [hsame, other.readLiteral_text] at hread
  exact (Option.some.inj hread).symm

/-- The literal of a number of units, perhaps with a sign. -/
def ofUnits (negative : Bool) (units : Nat) : LiteralForm where
  negative := negative
  whole := Nat.toDigits 10 (units / 10 ^ 6)
  places := lastDigits 6 units
  whole_ne_nil := Nat.toDigits_ne_nil
  isDigit_whole _ := isDigit_of_mem_toDigits
  whole_of_head hhead := by
    by_cases hzero : units / 10 ^ 6 = 0
    · rw [hzero]
      rfl
    · exact absurd hhead (head?_toDigits_ne_zero hzero)
  isDigit_places _ := isDigit_of_mem_lastDigits
  length_places := length_lastDigits 6 units

@[simp]
theorem units_ofUnits (negative : Bool) (units : Nat) : (ofUnits negative units).units = units :=
  ofDigitChars_placedText 6 units

theorem text_ofUnits (negative : Bool) (units : Nat) :
    (ofUnits negative units).text =
      String.ofList
        ((if negative then '-' :: placedText 6 units else placedText 6 units) ++ ['f']) := by
  have hplaced : placedText 6 units =
      (ofUnits negative units).whole ++ '.' :: (ofUnits negative units).places := by
    simp only [ofUnits, placedText, Nat.pow_eq]
  have hnegative : (ofUnits negative units).negative = negative := rfl
  rw [text, hplaced, hnegative]
  cases negative <;> simp

/-- The literal is the value, half a unit of the last place going away from zero. -/
structure Rounds (form : LiteralForm) (x : Datum) : Prop where
  units : (form.units : ℤ) = ⌊|x.toRat| * 10 ^ 6 + 1 / 2⌋
  negative : form.negative ↔ x.toRat < 0 ∧ 0 < form.units
  value : form.value = (if x.toRat < 0 then -1 else 1) * (form.units / 10 ^ 6)
  close : |form.value - x.toRat| ≤ 5 / 10 ^ 7

end LiteralForm

/-! ### Literals of finite values -/

open LiteralForm

/-- The parts of the literal of a finite value: zero has no sign. -/
def literalForm (s : Bool) (m : Nat) (e : Int) : LiteralForm :=
  ofUnits (s && literalStyle.units m e != 0) (literalStyle.units m e)

theorem literal_finite (s : Bool) (m : Nat) (e : Int) :
    literal (.finite s m e) = .ok (literalForm s m e).text := by
  rw [literal_eq_ok rfl, literalText, text_finite, literalForm, text_ofUnits]

theorem units_literalStyle (s : Bool) (m : Nat) (e : Int) :
    (literalStyle.units m e : ℤ) = ⌊|Datum.toRat (.finite s m e)| * 10 ^ 6 + 1 / 2⌋ := by
  rw [Datum.abs_toRat, literalStyle, FixedStyle.units_awayFromZero]

theorem value_literalForm (s : Bool) (m : Nat) (e : Int) :
    (literalForm s m e).value = literalValue (.finite s m e) := by
  rw [literalValue, roundHalfAway_finite, value, literalForm, units_ofUnits]
  cases s with
  | false => simp [ofUnits]
  | true =>
    by_cases hzero : literalStyle.units m e = 0
    · simp [hzero]
    · simp [ofUnits, hzero]

/-- Only values below zero have a sign that shows. -/
theorem toRat_neg_of_units {s : Bool} {m : Nat} {e : Int} (hunits : 0 < literalStyle.units m e) :
    s ↔ Datum.toRat (.finite s m e) < 0 := by
  have hnonzero : Datum.toRat (.finite s m e) ≠ 0 := by
    intro hzero
    have hfloor := units_literalStyle s m e
    rw [hzero] at hfloor
    norm_num at hfloor
    omega
  have hmagnitude : (0 : ℚ) ≤ m * 2 ^ e := by positivity
  cases s with
  | false => simpa [Datum.toRat] using hmagnitude
  | true =>
    refine iff_of_true rfl (lt_of_le_of_ne ?_ hnonzero)
    simpa [Datum.toRat] using hmagnitude

theorem rounds_literalForm (s : Bool) (m : Nat) (e : Int) :
    (literalForm s m e).Rounds (.finite s m e) := by
  have hnegative : (literalForm s m e).negative ↔
      Datum.toRat (.finite s m e) < 0 ∧ 0 < (literalForm s m e).units := by
    rw [literalForm, units_ofUnits, ofUnits, Bool.and_eq_true, bne_iff_ne, ← Nat.pos_iff_ne_zero]
    exact and_congr_left toRat_neg_of_units
  constructor
  case units =>
    rw [literalForm, units_ofUnits]
    exact units_literalStyle s m e
  case negative => exact hnegative
  case value =>
    rw [value]
    rcases Nat.eq_zero_or_pos (literalForm s m e).units with hzero | hpos
    · simp [hzero]
    · simp only [hnegative, hpos, and_true]
  case close =>
    rw [value_literalForm]
    exact abs_literalValue_sub_le _

/-! ### The working precision -/

/-- The digits of the decimals that are calculated with. -/
def workingDigits : Nat := 330

/-- A value in units of the last place.  There is no result if it has more digits than decimals are
    calculated with. -/
def quantize? : Datum → Option Nat
  | .finite _ m e =>
    if (Nat.toDigits 10 (literalStyle.units m e)).length ≤ workingDigits then
      some (literalStyle.units m e)
    else none
  | _ => none

theorem units_lt_of_abs_le {s : Bool} {m : Nat} {e : Int} {bound : Nat}
    (hbound : |Datum.toRat (.finite s m e)| ≤ bound) :
    literalStyle.units m e < 10 ^ 6 * bound + 1 := by
  have hfloor : ⌊|Datum.toRat (.finite s m e)| * 10 ^ 6 + 1 / 2⌋ <
      ((10 ^ 6 * bound + 1 : ℕ) : ℤ) := by
    rw [Int.floor_lt]
    push_cast
    linarith
  rw [← units_literalStyle] at hfloor
  exact_mod_cast hfloor

/-- The digits are enough for every double, the largest of which has 309 in front of its point. -/
theorem quantize?_of_holds {s : Bool} {m : Nat} {e : Int}
    (hdouble : Format.binary64.Holds (.finite s m e)) :
    quantize? (.finite s m e) = some (literalForm s m e).units := by
  have hlarge := hdouble.abs_toRat_lt
  have hexponent : (Format.binary64.precision + Format.binary64.maxExponent : ℤ) = (1024 : ℕ) := rfl
  rw [hexponent, zpow_natCast] at hlarge
  have hbound : |Datum.toRat (.finite s m e)| ≤ ((2 ^ 1024 : ℕ) : ℚ) := by
    rw [Nat.cast_pow, Nat.cast_ofNat]
    exact hlarge.le
  have hdigits : 10 ^ 6 * 2 ^ 1024 + 1 < 10 ^ workingDigits := by decide +kernel
  have hshort : (Nat.toDigits 10 (literalStyle.units m e)).length ≤ workingDigits := by
    rw [Nat.length_toDigits_le_iff (by decide) (by decide)]
    exact (units_lt_of_abs_le hbound).trans hdigits
  rw [quantize?, if_pos hshort, literalForm, units_ofUnits]

/-! ### All literals -/

/-- What a literal stands for depends on the literal only. -/
theorem value_of_literal_eq {x : Datum} {form : LiteralForm}
    (hliteral : literal x = .ok form.text) :
    x.isFinite ∧ form.value = literalValue x := by
  cases x with
  | nan => cases hliteral
  | infinite s => cases hliteral
  | finite s m e =>
    rw [literal_finite, Except.ok.injEq] at hliteral
    exact ⟨rfl, (value_eq_of_text_eq hliteral).symm.trans (value_literalForm s m e)⟩

/-- **Literals are rounded exactly.**  Each finite value has a literal, which stands for the value
    rounded to six places with halves away from zero, and every double can be rounded with the
    digits that are calculated with.  Literals keep the order of their values, a change of sign
    changes the sign, and exactly the values that are not finite are refused. -/
theorem literal_rounds :
    (∀ x : Datum, x.isFinite → ∃ form : LiteralForm, literal x = .ok form.text ∧ form.Rounds x ∧
        readLiteral form.text.toList = some form.value ∧
        (Format.binary64.Holds x → quantize? x = some form.units)) ∧
      (∀ (x y : Datum) (form other : LiteralForm), literal x = .ok form.text →
        literal y = .ok other.text → x.le y → form.value ≤ other.value) ∧
      (∀ (x : Datum) (form other : LiteralForm), literal x = .ok form.text →
        literal x.neg = .ok other.text → other.value = -form.value) ∧
      ∀ (x : Datum) (fault : Fault), literal x = .error fault ↔
        (x = .nan ∨ ∃ s, x = .infinite s) ∧ fault = .nonFinite (.value x) := by
  refine ⟨?_, ?_, ?_, ?_⟩
  · intro x hfinite
    cases x with
    | nan => cases hfinite
    | infinite s => cases hfinite
    | finite s m e =>
      exact ⟨literalForm s m e, literal_finite s m e, rounds_literalForm s m e,
        readLiteral_text _, quantize?_of_holds⟩
  · intro x y form other hx hy hle
    obtain ⟨hxFinite, hform⟩ := value_of_literal_eq hx
    obtain ⟨hyFinite, hother⟩ := value_of_literal_eq hy
    rw [hform, hother]
    exact roundHalfAway_mono 6 ((Datum.le_iff hxFinite hyFinite).1 hle)
  · intro x form other hx hneg
    rw [(value_of_literal_eq hx).2, (value_of_literal_eq hneg).2, literalValue, Datum.toRat_neg,
      roundHalfAway_neg, literalValue]
  · intro x fault
    cases x with
    | nan => simp [literal, Datum.isFinite, eq_comm]
    | infinite s => simp [literal, Datum.isFinite, eq_comm]
    | finite s m e => simp [literal_finite]

/-- A value half-way between two literals, with both signs. -/
theorem literal_rounds_half : ∃ form other : LiteralForm,
    literal (.finite true 1 (-7)) = .ok form.text ∧ form.text = "-0.007813f" ∧
      form.Rounds (.finite true 1 (-7)) ∧ quantize? (.finite true 1 (-7)) = some form.units ∧
      literal (.finite false 1 (-7)) = .ok other.text ∧ other.value = -form.value ∧
      form.value ≤ other.value ∧ literal .nan = .error (.nonFinite (.value .nan)) := by
  obtain ⟨hfinite, hmono, hneg, herror⟩ := literal_rounds
  obtain ⟨form, hform, hrounds, -, hdigits⟩ := hfinite (.finite true 1 (-7)) rfl
  obtain ⟨other, hother, -⟩ := hfinite (.finite false 1 (-7)) rfl
  have htext : literal (.finite true 1 (-7)) = .ok "-0.007813f" := by decide
  rw [hform, Except.ok.injEq] at htext
  exact ⟨form, other, hform, htext, hrounds, hdigits (by decide), hother,
    hneg _ _ _ hform hother, hmono _ _ _ _ hform hother (by decide),
    (herror _ _).2 ⟨.inl rfl, rfl⟩⟩

end DenseSketch.Table
