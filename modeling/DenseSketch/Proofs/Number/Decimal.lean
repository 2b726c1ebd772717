import DenseSketch.Number.FixedPlaces
import Mathlib.Data.Nat.Digits.Defs
import Mathlib.Data.Rat.Floor
import Mathlib.Tactic.FieldSimp
import Mathlib.Tactic.Ring

/-!
# Decimal digits

Decimal text is read back as the rational number that it stands for: digits as a whole number, and
digits around a point as a fraction.
-/

namespace DenseSketch

/-- The number that decimal digits stand for; none where there are no digits or anything else. -/
def readDigits (cs : List Char) : Option Nat :=
  if !cs.isEmpty && cs.all Char.isDigit then some (Nat.ofDigitChars 10 cs 0) else none

/-- The number that digits with a point among them stand for. -/
def readDecimal (cs : List Char) : Option ℚ :=
  match cs.splitOn '.' with
  | [whole, places] => do
    return (← readDigits whole) + (← readDigits places) / 10 ^ places.length
  | _ => none

/-! ### Digits -/

@[simp]
theorem toDigits_inj {m n : Nat} : Nat.toDigits 10 m = Nat.toDigits 10 n ↔ m = n := by
  constructor
  · intro h
    have hvalue := congrArg (Nat.ofDigitChars 10 · 0) h
    simpa only [Nat.ofDigitChars_ten_toDigits] using hvalue
  · rintro rfl
    rfl

theorem isDigit_of_mem_toDigits {n : Nat} {c : Char} (hc : c ∈ Nat.toDigits 10 n) : c.isDigit :=
  Nat.isDigit_of_mem_toDigits (by decide) (by decide) hc

/-- A number other than zero does not begin with a zero. -/
theorem head?_toDigits_ne_zero {n : Nat} (hn : n ≠ 0) : (Nat.toDigits 10 n).head? ≠ some '0' := by
  -- The first digit is that of the number without its last place.
  induction n using Nat.strong_induction_on with
  | _ n ih =>
    by_cases hsmall : n < 10
    · rw [Nat.toDigits_of_lt_base hsmall]
      have hdigit : ∀ d < 10, d ≠ 0 → [Nat.digitChar d].head? ≠ some '0' := by decide
      exact hdigit n hsmall hn
    · rw [Nat.toDigits_of_base_le (by decide) (by omega),
        List.head?_append_of_ne_nil _ Nat.toDigits_ne_nil]
      exact ih (n / 10) (by omega) (by omega)

theorem not_mem_toDigits {c : Char} (hdigit : c.isDigit = false) (n : Nat) :
    c ∉ Nat.toDigits 10 n := fun h => by
  simp [isDigit_of_mem_toDigits h] at hdigit

theorem break_not_mem_toDigits (n : Nat) : '\n' ∉ Nat.toDigits 10 n :=
  not_mem_toDigits (by decide) n

theorem isDigit_of_mem_lastDigits {width n : Nat} {c : Char} (hc : c ∈ lastDigits width n) :
    c.isDigit := by
  induction width generalizing n with
  | zero => simp [lastDigits] at hc
  | succ width ih =>
    rw [lastDigits, List.mem_append, List.mem_singleton] at hc
    rcases hc with hc | rfl
    · exact ih hc
    · simp [Nat.isDigit_digitChar, Nat.mod_lt]

theorem ofDigitChars_lastDigits (width n : Nat) :
    Nat.ofDigitChars 10 (lastDigits width n) 0 = n % 10 ^ width := by
  induction width generalizing n with
  | zero => simp [lastDigits, Nat.mod_one]
  | succ width ih =>
    rw [lastDigits, Nat.ofDigitChars_append, ih,
      Nat.ofDigitChars_cons_digitChar_of_lt_ten (Nat.mod_lt _ (by decide)), Nat.ofDigitChars_nil,
      Nat.pow_succ', Nat.mod_mul]
    omega

theorem readDigits_eq_some {cs : List Char} (hnonempty : cs ≠ [])
    (hdigits : ∀ c ∈ cs, c.isDigit) : readDigits cs = some (Nat.ofDigitChars 10 cs 0) := by
  have hempty : cs.isEmpty = false := List.isEmpty_eq_false_iff.2 hnonempty
  have hall : cs.all Char.isDigit = true := List.all_eq_true.2 hdigits
  simp only [readDigits, hempty, hall, Bool.not_false, Bool.and_self, if_true]

theorem readDigits_toDigits (n : Nat) : readDigits (Nat.toDigits 10 n) = some n := by
  rw [readDigits_eq_some Nat.toDigits_ne_nil fun _ => isDigit_of_mem_toDigits,
    Nat.ofDigitChars_ten_toDigits]

/-! ### Whole numbers with a sign -/

/-- The whole number that digits stand for, with a minus sign in front of them if it is negative. -/
def readInteger : List Char → Option Int
  | '-' :: digits => (readDigits digits).map fun (n : Nat) => -(n : Int)
  | digits => (readDigits digits).map fun (n : Nat) => (n : Int)

theorem toList_toString (n : Int) : (toString n).toList =
    if decide (n < 0) then '-' :: Nat.toDigits 10 n.natAbs else Nat.toDigits 10 n.natAbs := by
  cases n with
  | ofNat n => simp [Int.repr]
  | negSucc n => simp [Int.repr]

theorem not_mem_toString {c : Char} (hdigit : c.isDigit = false) (hsign : c ≠ '-') (n : Int) :
    c ∉ (toString n).toList := by
  have hdigits := not_mem_toDigits hdigit n.natAbs
  rw [toList_toString]
  split
  · exact List.not_mem_cons_of_ne_of_not_mem hsign hdigits
  · exact hdigits

theorem readInteger_toString (n : Int) : readInteger (toString n).toList = some n := by
  rw [toList_toString]
  split
  · next hnegative =>
    rw [decide_eq_true_iff] at hnegative
    simp only [readInteger, readDigits_toDigits, Option.map_some, Option.some.injEq]
    omega
  · next hnonneg =>
    rw [decide_eq_true_iff, not_lt] at hnonneg
    have hplain : ∀ digits, Nat.toDigits 10 n.natAbs ≠ '-' :: digits := by
      intro digits hdigits
      have hminus : '-' ∈ Nat.toDigits 10 n.natAbs := by simp [hdigits]
      exact not_mem_toDigits (by decide) _ hminus
    rw [readInteger.eq_2 _ hplain, readDigits_toDigits, Option.map_some,
      Int.natAbs_of_nonneg hnonneg]

/-! ### Digits around a point -/

theorem ne_point_of_isDigit {c : Char} (hc : c.isDigit) : c ≠ '.' := by
  rintro rfl
  revert hc
  decide

theorem isDigit_or_point_of_mem_placedText {places units : Nat} {c : Char}
    (hc : c ∈ placedText places units) : c.isDigit ∨ c = '.' := by
  rw [placedText, List.mem_append, List.mem_cons] at hc
  rcases hc with hc | rfl | hc
  · exact .inl (isDigit_of_mem_toDigits hc)
  · exact .inr rfl
  · exact .inl (isDigit_of_mem_lastDigits hc)

/-- Digits around a point stand for what the digits without the point do, in units of the last
    place. -/
theorem readDecimal_digits {whole places : List Char} (hwhole : whole ≠ []) (hplaces : places ≠ [])
    (hwholeDigits : ∀ c ∈ whole, c.isDigit) (hplacesDigits : ∀ c ∈ places, c.isDigit) :
    readDecimal (whole ++ '.' :: places) =
      some ((Nat.ofDigitChars 10 (whole ++ places) 0 : ℚ) / 10 ^ places.length) := by
  have hsplit : (whole ++ '.' :: places).splitOn '.' = [whole, places] := by
    rw [List.splitOn_append_cons_self_of_not_mem fun h => ne_point_of_isDigit (hwholeDigits _ h) rfl,
      List.splitOn_eq_singleton fun h => ne_point_of_isDigit (hplacesDigits _ h) rfl]
  have hunits : Nat.ofDigitChars 10 (whole ++ places) 0 =
      10 ^ places.length * Nat.ofDigitChars 10 whole 0 + Nat.ofDigitChars 10 places 0 := by
    rw [Nat.ofDigitChars_append, Nat.ofDigitChars_eq_ofDigitChars_zero]
  rw [readDecimal, hsplit]
  simp only [readDigits_eq_some hwhole hwholeDigits, readDigits_eq_some hplaces hplacesDigits,
    Option.bind_eq_bind, Option.bind_some, Option.pure_def, hunits]
  congr 1
  push_cast
  field_simp

theorem ofDigitChars_placedText (places units : Nat) :
    Nat.ofDigitChars 10 (Nat.toDigits 10 (units / 10 ^ places) ++ lastDigits places units) 0 =
      units := by
  rw [Nat.ofDigitChars_append, Nat.ofDigitChars_ten_toDigits,
    Nat.ofDigitChars_eq_ofDigitChars_zero, ofDigitChars_lastDigits, length_lastDigits]
  exact Nat.div_add_mod ..

theorem readDecimal_placedText (places units : Nat) :
    readDecimal (placedText (places + 1) units) = some ((units : ℚ) / 10 ^ (places + 1)) := by
  rw [placedText, Nat.pow_eq, readDecimal_digits Nat.toDigits_ne_nil (by simp [lastDigits])
    (fun _ => isDigit_of_mem_toDigits) (fun _ => isDigit_of_mem_lastDigits),
    ofDigitChars_placedText, length_lastDigits]

end DenseSketch
