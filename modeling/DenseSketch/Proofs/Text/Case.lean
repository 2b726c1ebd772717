import DenseSketch.Text.Case
import DenseSketch.Proofs.Text.Characters

/-!
# Lower case twice

Beyond ASCII only two characters have a lower case with an ASCII letter in it, an `i` and a `k`.  So
a text that becomes a word without these letters when it is put in lower case twice has become that
word at the first time.
-/

namespace DenseSketch.Text

/-! ### One character -/

/-- The runs of the table lead to characters beyond ASCII; the sign for kelvin alone leads to a
    letter. -/
theorem target_lowerRuns : ∀ run ∈ lowerRuns,
    run.first = run.last ∧ run.target = 'k'.toNat ∨
      0x80 ≤ run.target ∧ run.target + (run.last - run.first) < 0xd800 ∨
      0xe000 ≤ run.target ∧ run.target + (run.last - run.first) < 0x110000 := by
  decide +kernel

theorem lowerChar_of_ascii {c : Char} (hc : c.toNat < 0x80) : lowerChar c = [c.toLower] :=
  if_pos hc

theorem toLower_toLower {c : Char} (hc : c.toNat < 0x80) : c.toLower.toLower = c.toLower := by
  have hascii : ∀ n < 0x80, (Char.ofNat n).toLower.toLower = (Char.ofNat n).toLower := by decide
  have hlower := hascii c.toNat hc
  rwa [Char.ofNat_toNat] at hlower

theorem lowerChar_ne_nil (c : Char) : lowerChar c ≠ [] := by
  have hexpansions : ∀ e ∈ lowerExpansions, e.2 ≠ [] := by decide
  unfold lowerChar mapByTable
  split
  · simp
  · split
    · next e he => simpa using hexpansions e (List.mem_of_find?_eq_some he)
    · split <;> simp

/-- The lower case of a character beyond ASCII is beyond ASCII as well, but for two letters. -/
theorem mem_lowerChar_of_not_ascii {c d : Char} (hc : ¬ c.toNat < 0x80) (hd : d ∈ lowerChar c) :
    d = 'i' ∨ d = 'k' ∨ ¬ d.toNat < 0x80 := by
  rw [lowerChar, if_neg hc, mapByTable] at hd
  split at hd
  · next e he =>
    have hexpansions : ∀ e ∈ lowerExpansions, ∀ n ∈ e.2,
        Char.ofNat n = 'i' ∨ ¬ (Char.ofNat n).toNat < 0x80 := by decide
    obtain ⟨n, hn, rfl⟩ := List.mem_map.1 hd
    rcases hexpansions e (List.mem_of_find?_eq_some he) n hn with hletter | hbeyond
    · exact .inl hletter
    · exact .inr (.inr hbeyond)
  · split at hd
    · next n hn =>
      obtain rfl := List.mem_singleton.1 hd
      obtain ⟨run, hrun, hshifted⟩ := List.exists_of_findSome?_eq_some hn
      unfold CaseRun.shifted? at hshifted
      split at hshifted
      · next hinside =>
        simp only [Bool.and_eq_true, decide_eq_true_iff] at hinside
        obtain ⟨⟨hfirst, hlast⟩, -⟩ := hinside
        cases hshifted
        rcases target_lowerRuns run hrun with ⟨hsingle, htarget⟩ | ⟨hlow, hhigh⟩ | ⟨hlow, hhigh⟩
        · have hsame : c.toNat - run.first = 0 := by omega
          exact .inr (.inl (by rw [hsame, htarget]; rfl))
        · rw [toNat_ofNat (.inl (by omega))]
          exact .inr (.inr (by omega))
        · rw [toNat_ofNat (.inr ⟨by omega, by omega⟩)]
          exact .inr (.inr (by omega))
      · cases hshifted
    · obtain rfl := List.mem_singleton.1 hd
      exact .inr (.inr hc)

/-- An ASCII character that comes out of a change to lower case stays what it is. -/
theorem toLower_of_mem_lowerChar {c d : Char} (hd : d ∈ lowerChar c) (hascii : d.toNat < 0x80) :
    d.toLower = d := by
  by_cases hc : c.toNat < 0x80
  · rw [lowerChar_of_ascii hc, List.mem_singleton] at hd
    rw [hd, toLower_toLower hc]
  · rcases mem_lowerChar_of_not_ascii hc hd with rfl | rfl | hbeyond
    · rfl
    · rfl
    · exact absurd hascii hbeyond

/-! ### Texts -/

/-- A letter that only ASCII characters lead to. -/
def IsPlain (c : Char) : Prop := c.toNat < 0x80 ∧ c ≠ 'i' ∧ c ≠ 'k'

instance : DecidablePred IsPlain := fun c =>
  inferInstanceAs (Decidable (c.toNat < 0x80 ∧ c ≠ 'i' ∧ c ≠ 'k'))

theorem toLower_of_mem_lowerFrom {before cs : List Char} {d : Char}
    (hd : d ∈ lowerFrom before cs) (hascii : d.toNat < 0x80) : d.toLower = d := by
  induction cs generalizing before with
  | nil => cases hd
  | cons c cs ih =>
    rw [lowerFrom, List.mem_append] at hd
    rcases hd with hhere | hrest
    · split at hhere
      · obtain rfl := List.mem_singleton.1 hhere
        split at hascii <;> exact absurd hascii (by decide)
      · exact toLower_of_mem_lowerChar hhere hascii
    · exact ih hrest

/-- Where every character that comes out is plain, and every ASCII character stays what it is,
    nothing changes. -/
theorem lowerFrom_eq_self {before cs : List Char} (hplain : ∀ d ∈ lowerFrom before cs, IsPlain d)
    (hcs : ∀ c ∈ cs, c.toNat < 0x80 → c.toLower = c) : lowerFrom before cs = cs := by
  induction cs generalizing before with
  | nil => rfl
  | cons c cs ih =>
    rw [lowerFrom] at hplain ⊢
    rw [ih (fun d hd => hplain d (List.mem_append_right _ hd)) fun c hc => hcs c (by simp [hc])]
    split at hplain
    · -- A sigma has a lower case beyond ASCII.
      have hsigma := (hplain _ (List.mem_append_left _ (List.mem_singleton_self _))).1
      split at hsigma <;> exact absurd hsigma (by decide)
    · next hsigma =>
      rw [if_neg hsigma]
      obtain ⟨d, hd⟩ := List.exists_mem_of_ne_nil _ (lowerChar_ne_nil c)
      obtain ⟨hdascii, hi, hk⟩ := hplain d (List.mem_append_left _ hd)
      have hascii : c.toNat < 0x80 := by
        by_contra hc
        rcases mem_lowerChar_of_not_ascii hc hd with rfl | rfl | hbeyond
        · exact hi rfl
        · exact hk rfl
        · exact hbeyond hdascii
      rw [lowerChar_of_ascii hascii, hcs c (by simp) hascii, List.singleton_append]

/-- A text that is a plain word once it is put in lower case twice is that word the first time. -/
theorem lower_eq_of_lower_lower {s word : String} (hplain : ∀ c ∈ word.toList, IsPlain c)
    (h : lower (lower s) = word) : lower s = word := by
  rw [← h] at hplain ⊢
  unfold lower at hplain ⊢
  rw [String.toList_ofList, String.toList_ofList] at hplain
  rw [String.toList_ofList,
    lowerFrom_eq_self hplain fun d hd hascii => toLower_of_mem_lowerFrom hd hascii]

end DenseSketch.Text
