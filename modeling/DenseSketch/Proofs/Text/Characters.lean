import DenseSketch.Text.CharacterClass
import DenseSketch.Text.Basic
import Mathlib.Data.List.Basic
import Mathlib.Tactic.Common

/-!
# ASCII characters and digits

What is known of the characters of ASCII, and of the decimal digits of all scripts.
-/

/-!
## ASCII texts

A text of ASCII characters can be encoded, and it has as many bytes as it has characters.
-/

namespace DenseSketch.Text

theorem toNat_ofNat {n : Nat} (hn : n.isValidChar) : (Char.ofNat n).toNat = n := by
  rw [Char.ofNat, dif_pos hn]
  rfl

/-- Characters of seven bits only. -/
def IsAscii (cs : List Char) : Prop := ∀ c ∈ cs, c.toNat < 0x80

instance (cs : List Char) : Decidable (IsAscii cs) :=
  List.decidableBAll (fun c : Char => c.toNat < 0x80) cs

@[simp]
theorem isAscii_nil : IsAscii [] := List.forall_mem_nil _

@[simp]
theorem isAscii_cons {c : Char} {cs : List Char} :
    IsAscii (c :: cs) ↔ c.toNat < 0x80 ∧ IsAscii cs := List.forall_mem_cons

@[simp]
theorem isAscii_append {cs ds : List Char} : IsAscii (cs ++ ds) ↔ IsAscii cs ∧ IsAscii ds :=
  List.forall_mem_append

theorem isAscii_of_digits {cs : List Char} (hcs : ∀ c ∈ cs, c.isDigit) : IsAscii cs := by
  intro c hc
  have hdigit := hcs c hc
  simp only [Char.isDigit, Bool.and_eq_true, decide_eq_true_iff, UInt32.le_iff_toNat_le] at hdigit
  exact Nat.lt_of_le_of_lt hdigit.2 (by decide)

theorem isEncodable_of_isAscii {s : String} (hs : IsAscii s.toList) : isEncodable s := by
  rw [isEncodable, List.all_eq_true]
  intro c hc
  have hbound := hs c hc
  rw [surrogate?, if_neg]
  · rfl
  · rw [Bool.and_eq_true, decide_eq_true_iff, surrogateOffset]
    rintro ⟨hstandIn, -⟩
    omega

theorem utf8ByteSize_of_isAscii {s : String} (hs : IsAscii s.toList) :
    s.utf8ByteSize = s.toList.length := by
  have hsum : ∀ cs : List Char, IsAscii cs → (String.ofList cs).utf8ByteSize = cs.length := by
    intro cs hcs
    induction cs with
    | nil => rfl
    | cons c cs ih =>
      obtain ⟨hc, hcs⟩ := isAscii_cons.1 hcs
      have hsize : c.utf8Size = 1 := by
        rw [Char.utf8Size_eq_one_iff, UInt32.le_iff_toNat_le]
        exact Nat.le_of_lt_succ hc
      rw [String.ofList_cons, String.utf8ByteSize_append, String.utf8ByteSize_singleton, hsize,
        ih hcs, List.length_cons, Nat.add_comm]
  have hlist := hsum s.toList hs
  rwa [String.ofList_toList] at hlist

/-!
## Digits of every script

A decimal digit has a value below ten, whatever its script, and it is nothing else: no blank, no
sign, no mark and no letter.  Each one has an ASCII digit that says the same.
-/

/-- The value of a digit, and zero for any other character. -/
def digitOf (c : Char) : Nat := (digitValue? c).getD 0

variable {c d : Char}

theorem digitValue?_eq_some (hc : isDigit c) : digitValue? c = some (digitOf c) := by
  rw [isDigit, Option.isSome_iff_exists] at hc
  obtain ⟨value, hvalue⟩ := hc
  rw [digitOf, hvalue, Option.getD_some]

/-- A digit stands in a block of ten that starts at the zero of its script. -/
theorem exists_digitZero (hc : isDigit c) :
    ∃ z ∈ digitZeros, z ≤ c.toNat ∧ c.toNat < z + 10 ∧ digitOf c = c.toNat - z := by
  have hvalue := digitValue?_eq_some hc
  rw [digitValue?, Option.map_eq_some_iff] at hvalue
  obtain ⟨z, hfound, hdigit⟩ := hvalue
  have hblock := List.find?_some hfound
  rw [Bool.and_eq_true, decide_eq_true_iff, decide_eq_true_iff] at hblock
  exact ⟨z, List.mem_of_find?_eq_some hfound, hblock.1, hblock.2, hdigit.symm⟩

theorem digitOf_lt (hc : isDigit c) : digitOf c < 10 := by
  obtain ⟨z, -, hlow, hhigh, hvalue⟩ := exists_digitZero hc
  omega

theorem ne_of_isDigit (hc : isDigit c) (hd : isDigit d = false) : c ≠ d := by
  rintro rfl
  rw [hc] at hd
  cases hd

theorem isNumeralBlank_of_isDigit (hc : isDigit c) : isNumeralBlank c = false := by
  have hapart : ∀ z ∈ digitZeros, ∀ range ∈ blankRanges, range.2 < z ∨ z + 10 ≤ range.1 := by
    decide
  obtain ⟨z, hz, hlow, hhigh, -⟩ := exists_digitZero hc
  rw [isNumeralBlank, isBlank, CodeRange.covers, Bool.and_eq_false_iff, List.any_eq_false]
  left
  intro range hrange
  have hside := hapart z hz range hrange
  rw [Bool.and_eq_true, decide_eq_true_iff, decide_eq_true_iff]
  omega

theorem toLower_of_isDigit (hc : isDigit c) : c.toLower = c := by
  have hapart : ∀ z ∈ digitZeros, 90 < z ∨ z + 10 ≤ 65 := by decide
  obtain ⟨z, hz, hlow, hhigh, -⟩ := exists_digitZero hc
  have hside := hapart z hz
  refine dif_neg ?_
  rintro ⟨hfirst, hlast⟩
  rw [ge_iff_le, UInt32.le_iff_toNat_le] at hfirst
  rw [UInt32.le_iff_toNat_le] at hlast
  have hfirst' : 65 ≤ c.toNat := hfirst
  have hlast' : c.toNat ≤ 90 := hlast
  omega

/-! ### ASCII digits -/

theorem isDigit_digitChar : ∀ n < 10, isDigit (Nat.digitChar n) = true ∧
    digitOf (Nat.digitChar n) = n := by
  decide

theorem exists_digitChar_eq {c : Char} (hc : c.isDigit) : ∃ n < 10, c = Nat.digitChar n := by
  simp only [Char.isDigit, Bool.and_eq_true, decide_eq_true_iff, UInt32.le_iff_toNat_le] at hc
  have hlow : 48 ≤ c.toNat := hc.1
  have hhigh : c.toNat ≤ 57 := hc.2
  refine ⟨c.toNat - 48, by omega, Char.toNat_inj.1 ?_⟩
  rw [Nat.toNat_digitChar_of_lt_ten (by omega)]
  omega

theorem isDigit_of_isDigit {c : Char} (hc : c.isDigit) : isDigit c := by
  obtain ⟨n, hn, rfl⟩ := exists_digitChar_eq hc
  exact (isDigit_digitChar n hn).1

theorem digitOf_of_isDigit {c : Char} (hc : c.isDigit) : digitOf c = c.toNat - 48 := by
  obtain ⟨n, hn, rfl⟩ := exists_digitChar_eq hc
  rw [(isDigit_digitChar n hn).2, Nat.toNat_digitChar_of_lt_ten hn]
  omega

/-- The ASCII digit of the same value for a digit, and any other character itself. -/
def plainDigit (c : Char) : Char := if isDigit c then Nat.digitChar (digitOf c) else c

theorem plainDigit_of_isDigit (hc : isDigit c) : plainDigit c = Nat.digitChar (digitOf c) :=
  if_pos hc

/-- ASCII has no other digits. -/
theorem plainDigit_of_ascii (hc : c.toNat < 0x80) : plainDigit c = c := by
  have hzero : ∀ z ∈ digitZeros, z < 0x80 → z = 0x30 := by decide
  rw [plainDigit]
  split
  · next hdigit =>
    obtain ⟨z, hz, hlow, hhigh, hvalue⟩ := exists_digitZero hdigit
    obtain rfl := hzero z hz (by omega)
    refine Char.toNat_inj.1 ?_
    rw [Nat.toNat_digitChar_of_lt_ten (digitOf_lt hdigit)]
    omega
  · rfl

end DenseSketch.Text
