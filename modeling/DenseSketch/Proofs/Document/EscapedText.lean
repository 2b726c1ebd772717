import DenseSketch.Document.Reader
import DenseSketch.Document.Writer
import DenseSketch.Proofs.Text.Characters
import Mathlib.Data.List.Chain

/-!
# Escaped texts are read back

A text in quotes is read as the text, whatever characters it holds.  Only a pair of single
surrogates is lost: the two are read as the one character that they encode.
-/

namespace DenseSketch.Text

/-- Does the character stand for the first surrogate of a pair? -/
def isHighSurrogate (c : Char) : Bool := (surrogate? c).any Document.Reader.isHigh

/-- Does the character stand for the second surrogate of a pair? -/
def isLowSurrogate (c : Char) : Bool := (surrogate? c).any Document.Reader.isLow

/-- No first surrogate of a pair stands right in front of a second one: the two would be one
    character. -/
def IsJoined (s : String) : Prop :=
  s.toList.IsChain fun c d => ¬ (isHighSurrogate c ∧ isLowSurrogate d)

instance (s : String) : Decidable (IsJoined s) :=
  inferInstanceAs (Decidable (List.IsChain _ s.toList))

/-! ### Surrogates -/

theorem not_isSurrogate_toNat (c : Char) : isSurrogate c.toNat = false := by
  have hvalid := c.valid
  simp only [UInt32.isValidChar, Nat.isValidChar] at hvalid
  have hnat : c.val.toNat = c.toNat := rfl
  rw [hnat] at hvalid
  simp only [isSurrogate, Bool.and_eq_false_iff, decide_eq_false_iff_not]
  omega

theorem charOf_toNat (c : Char) : charOf c.toNat = c := by
  rw [charOf, not_isSurrogate_toNat, if_neg Bool.false_ne_true, Char.ofNat_toNat]

theorem surrogate?_eq_some {c : Char} {n : Nat} (hc : surrogate? c = some n) :
    isSurrogate n ∧ c.toNat = surrogateOffset + n := by
  unfold surrogate? at hc
  split at hc
  · next hstands =>
    rw [Bool.and_eq_true, decide_eq_true_iff] at hstands
    obtain ⟨hoffset, hsurrogate⟩ := hstands
    rw [← Option.some.inj hc]
    exact ⟨hsurrogate, (Nat.add_sub_of_le hoffset).symm⟩
  · cases hc

theorem surrogate_lt {c : Char} {n : Nat} (hc : surrogate? c = some n) : n < 0x10000 := by
  have hsurrogate := (surrogate?_eq_some hc).1
  simp only [isSurrogate, Bool.and_eq_true, decide_eq_true_iff] at hsurrogate
  omega

theorem charOf_of_surrogate? {c : Char} {n : Nat} (hc : surrogate? c = some n) : charOf n = c := by
  obtain ⟨hn, hvalue⟩ := surrogate?_eq_some hc
  rw [charOf, if_pos hn, ← hvalue, Char.ofNat_toNat]

theorem surrogate?_charOf {n : Nat} (hn : isSurrogate n) : surrogate? (charOf n) = some n := by
  have hrange := hn
  simp only [isSurrogate, Bool.and_eq_true, decide_eq_true_iff] at hrange
  have hvalue : (charOf n).toNat = surrogateOffset + n := by
    rw [charOf, if_pos hn]
    exact toNat_ofNat (.inr (by simp only [surrogateOffset]; omega))
  rw [surrogate?, hvalue, Nat.add_sub_cancel_left, hn]
  simp

end DenseSketch.Text

namespace DenseSketch.Document

open Reader Writer Text

/-! ### Units in hexadecimal -/

theorem hexValue?_digitChar : ∀ d < 16, hexValue? (Nat.digitChar d) = some d := by decide

theorem hexDigits_four (n : Nat) : hexDigits 4 n =
    [Nat.digitChar (n / 16 / 16 / 16 % 16), Nat.digitChar (n / 16 / 16 % 16),
      Nat.digitChar (n / 16 % 16), Nat.digitChar (n % 16)] := rfl

theorem hexUnit?_digits {n : Nat} (hn : n < 0x10000) :
    hexUnit? (Nat.digitChar (n / 16 / 16 / 16 % 16)) (Nat.digitChar (n / 16 / 16 % 16))
      (Nat.digitChar (n / 16 % 16)) (Nat.digitChar (n % 16)) = some n := by
  have hdigit : ∀ m, hexValue? (Nat.digitChar (m % 16)) = some (m % 16) := fun m =>
    hexValue?_digitChar _ (Nat.mod_lt _ (by decide))
  have hvalue : ((n / 16 / 16 / 16 % 16 * 16 + n / 16 / 16 % 16) * 16 + n / 16 % 16) * 16 +
      n % 16 = n := by
    omega
  simp only [hexUnit?, hdigit, Option.bind_eq_bind, Option.bind_some, hvalue]

theorem pieces_escapedUnit {n : Nat} (hn : n < 0x10000) (tail : List Char) :
    pieces (escapedUnit n ++ tail) = (pieces tail).map fun r => (.unit n :: r.1, r.2) := by
  rw [escapedUnit, hexDigits_four]
  simp only [List.cons_append, List.nil_append, pieces, hexUnit?_digits hn, Option.bind_eq_bind,
    Option.bind_some]
  cases pieces tail <;> rfl

/-! ### Pieces of a text -/

/-- Is the character written behind a backslash? -/
def isShort (c : Char) : Bool := c ∈ ['"', '\\', '\n', '\r', '\t', '\x08', '\x0c']

/-- Is the character written as it is? -/
def isPlain (c : Char) : Bool := !isShort c && (0x20 ≤ c.toNat && c.toNat < 0x7f)

/-- The pieces that a character is read as. -/
def piecesOf (c : Char) : List Piece :=
  if isShort c || isPlain c then [.char c]
  else if c.toNat < 0x10000 then [.unit c.toNat]
  else if let some n := surrogate? c then [.unit n]
  else
    [.unit (0xd800 + (c.toNat - 0x10000) / 0x400), .unit (0xdc00 + (c.toNat - 0x10000) % 0x400)]

theorem toNat_lt (c : Char) : c.toNat < 0x110000 := by
  have hvalid := c.valid
  simp only [UInt32.isValidChar, Nat.isValidChar] at hvalid
  have hnat : c.val.toNat = c.toNat := rfl
  omega

theorem pieces_backslash {c d : Char} (hd : shortEscape? d = some c) (tail : List Char) :
    pieces ('\\' :: d :: tail) = (pieces tail).map fun r => (.char c :: r.1, r.2) := by
  have hunit : d ≠ 'u' := by
    rintro rfl
    cases hd
  rw [pieces, hd]
  · cases pieces tail <;> rfl
  · intro a b c d rest heq
    exact absurd heq hunit

theorem pieces_char {c : Char} (hquote : c ≠ '"') (hbackslash : c ≠ '\\') (hblank : 0x20 ≤ c.toNat)
    (tail : List Char) : pieces (c :: tail) = (pieces tail).map fun r => (.char c :: r.1, r.2) := by
  rw [pieces, if_neg (Nat.not_lt.2 hblank)]
  · cases pieces tail <;> rfl
  all_goals simp_all

theorem pieces_escaped_short {c : Char} (hc : isShort c) (tail : List Char) :
    pieces (escaped c ++ tail) = (pieces tail).map fun r => (.char c :: r.1, r.2) := by
  simp only [isShort, List.mem_cons, List.not_mem_nil, or_false, decide_eq_true_iff] at hc
  rcases hc with rfl | rfl | rfl | rfl | rfl | rfl | rfl
  all_goals exact pieces_backslash rfl tail

theorem not_isShort_of_le {c : Char} (hc : 0x80 ≤ c.toNat) : isShort c = false := by
  rw [Bool.eq_false_iff]
  intro hshort
  simp only [isShort, List.mem_cons, List.not_mem_nil, or_false, decide_eq_true_iff] at hshort
  rcases hshort with rfl | rfl | rfl | rfl | rfl | rfl | rfl
  all_goals exact absurd hc (by decide)

/-- A character without a short escape is written as it is or by its units. -/
theorem escaped_of_not_isShort {c : Char} (hshort : isShort c = false) :
    escaped c =
      if 0x20 ≤ c.toNat ∧ c.toNat < 0x7f then [c]
      else if c.toNat < 0x10000 then escapedUnit c.toNat
      else if let some n := surrogate? c then escapedUnit n
      else
        escapedUnit (0xd800 + (c.toNat - 0x10000) / 0x400) ++
          escapedUnit (0xdc00 + (c.toNat - 0x10000) % 0x400) := by
  simp only [isShort, List.mem_cons, List.not_mem_nil, or_false, decide_eq_false_iff_not,
    not_or] at hshort
  obtain ⟨hquote, hbackslash, hbreak, hreturn, htab, hback, hfeed⟩ := hshort
  have hne {d : Char} (h : ¬ c = d) : ¬ (c == d) = true := by rwa [beq_iff_eq]
  exact (if_neg (hne hquote)).trans <| (if_neg (hne hbackslash)).trans <|
    (if_neg (hne hbreak)).trans <| (if_neg (hne hreturn)).trans <| (if_neg (hne htab)).trans <|
    (if_neg (hne hback)).trans <| if_neg (hne hfeed)

theorem pieces_escaped (c : Char) (tail : List Char) :
    pieces (escaped c ++ tail) = (pieces tail).map fun r => (piecesOf c ++ r.1, r.2) := by
  cases hshort : isShort c with
  | true =>
    rw [pieces_escaped_short hshort, piecesOf, hshort]
    rfl
  | false =>
    obtain ⟨hquote, hbackslash⟩ : c ≠ '"' ∧ c ≠ '\\' := by
      constructor <;> rintro rfl <;> cases hshort
    rw [escaped_of_not_isShort hshort]
    by_cases hplain : 0x20 ≤ c.toNat ∧ c.toNat < 0x7f
    · have hpieces : piecesOf c = [.char c] := by simp [piecesOf, isPlain, hshort, hplain]
      rw [if_pos hplain, hpieces]
      exact pieces_char hquote hbackslash hplain.1 tail
    · by_cases hunit : c.toNat < 0x10000
      · have hpieces : piecesOf c = [.unit c.toNat] := by
          simp [piecesOf, isPlain, hshort, hplain, hunit]
        rw [if_neg hplain, if_pos hunit, hpieces]
        exact pieces_escapedUnit hunit tail
      · cases hsurrogate : surrogate? c with
        | some n =>
          have hpieces : piecesOf c = [.unit n] := by
            simp [piecesOf, isPlain, hshort, hplain, hunit, hsurrogate]
          rw [if_neg hplain, if_neg hunit, hpieces]
          exact pieces_escapedUnit (surrogate_lt hsurrogate) tail
        | none =>
          have hpieces : piecesOf c = [.unit (0xd800 + (c.toNat - 0x10000) / 0x400),
              .unit (0xdc00 + (c.toNat - 0x10000) % 0x400)] := by
            simp [piecesOf, isPlain, hshort, hplain, hunit, hsurrogate]
          have hbound := toNat_lt c
          rw [if_neg hplain, if_neg hunit, hpieces, List.append_assoc,
            pieces_escapedUnit (by omega), pieces_escapedUnit (by omega), Option.map_map]
          rfl

theorem pieces_text (cs rest : List Char) :
    pieces (cs.flatMap escaped ++ '"' :: rest) = some (cs.flatMap piecesOf, rest) := by
  induction cs with
  | nil => simp [pieces]
  | cons c cs ih => rw [List.flatMap_cons, List.append_assoc, pieces_escaped, ih]; rfl

/-! ### Joining pieces -/

/-- Do the pieces start with the second unit of a pair? -/
def startsLow : List Piece → Bool
  | .unit n :: _ => isLow n
  | _ => false

theorem joined_unit {n : Nat} {tail : List Piece} (hsingle : (isHigh n && startsLow tail) = false) :
    joined (.unit n :: tail) = charOf n :: joined tail := by
  match tail with
  | [] => rfl
  | .char c :: rest => rfl
  | .unit low :: rest =>
    have hpair : (isHigh n && isLow low) = false := hsingle
    rw [joined, hpair, Bool.false_and, if_neg Bool.false_ne_true]

theorem joined_pair {c : Char} (hc : 0x10000 ≤ c.toNat) (hsurrogate : surrogate? c = none)
    (tail : List Piece) :
    joined (.unit (0xd800 + (c.toNat - 0x10000) / 0x400) ::
      .unit (0xdc00 + (c.toNat - 0x10000) % 0x400) :: tail) = c :: joined tail := by
  have hbound := toNat_lt c
  have hhigh : isHigh (0xd800 + (c.toNat - 0x10000) / 0x400) := by
    simp only [isHigh, Bool.and_eq_true, decide_eq_true_iff]
    omega
  have hlow : isLow (0xdc00 + (c.toNat - 0x10000) % 0x400) := by
    simp only [isLow, Bool.and_eq_true, decide_eq_true_iff]
    omega
  have hvalue : pairChar (0xd800 + (c.toNat - 0x10000) / 0x400)
      (0xdc00 + (c.toNat - 0x10000) % 0x400) = c := by
    have hcode : 0x10000 + (0xd800 + (c.toNat - 0x10000) / 0x400 - 0xd800) * 0x400 +
        (0xdc00 + (c.toNat - 0x10000) % 0x400 - 0xdc00) = c.toNat := by
      omega
    rw [pairChar, hcode, Char.ofNat_toNat]
  rw [joined, hhigh, hlow, hvalue, hsurrogate]
  rfl

theorem not_isHigh_toNat (c : Char) : isHigh c.toNat = false := by
  have hchar := not_isSurrogate_toNat c
  simp only [isSurrogate, isHigh, Bool.and_eq_false_iff, decide_eq_false_iff_not] at hchar ⊢
  omega

theorem not_isLow_toNat (c : Char) : isLow c.toNat = false := by
  have hchar := not_isSurrogate_toNat c
  simp only [isSurrogate, isLow, Bool.and_eq_false_iff, decide_eq_false_iff_not] at hchar ⊢
  omega

/-- A character is joined from its pieces, unless it is half of a pair whose second half follows. -/
theorem joined_piecesOf {c : Char} {tail : List Piece}
    (hsingle : (isHighSurrogate c && startsLow tail) = false) :
    joined (piecesOf c ++ tail) = c :: joined tail := by
  rw [piecesOf]
  split
  · rfl
  · split
    · rw [List.singleton_append, joined_unit (by rw [not_isHigh_toNat, Bool.false_and]),
        charOf_toNat]
    · next hunit =>
      cases hc : surrogate? c with
      | some n =>
        rw [isHighSurrogate, hc, Option.any_some] at hsingle
        exact (joined_unit hsingle).trans (by rw [charOf_of_surrogate? hc])
      | none => exact joined_pair (Nat.not_lt.1 hunit) hc tail

theorem isLowSurrogate_of_startsLow {c : Char} {tail : List Piece}
    (hlow : startsLow (piecesOf c ++ tail)) : isLowSurrogate c := by
  have hbound := toNat_lt c
  rw [piecesOf] at hlow
  split at hlow
  · cases hlow
  · split at hlow
    · rw [List.singleton_append, startsLow, not_isLow_toNat] at hlow
      cases hlow
    · rw [isLowSurrogate]
      cases hc : surrogate? c with
      | some n =>
        rw [hc] at hlow
        exact hlow
      | none =>
        rw [hc] at hlow
        simp only [List.cons_append, startsLow, isLow, Bool.and_eq_true, decide_eq_true_iff] at hlow
        omega

theorem joined_flatMap_piecesOf {cs : List Char}
    (hcs : cs.IsChain fun c d => ¬ (isHighSurrogate c ∧ isLowSurrogate d)) :
    joined (cs.flatMap piecesOf) = cs := by
  induction hcs with
  | nil => rfl
  | singleton c =>
    rw [List.flatMap_cons, joined_piecesOf]
    · rfl
    · exact Bool.and_false _
  | cons_cons hpair _ ih =>
    rw [List.flatMap_cons, joined_piecesOf, ih]
    rw [Bool.and_eq_false_imp, Bool.eq_false_iff]
    intro hhigh hlow
    exact hpair ⟨hhigh, isLowSurrogate_of_startsLow hlow⟩

/-- The text that a text is read back as. -/
def rejoined (s : String) : String := String.ofList (joined (s.toList.flatMap piecesOf))

theorem rejoined_eq {s : String} (hs : IsJoined s) : rejoined s = s := by
  rw [rejoined, joined_flatMap_piecesOf hs, String.ofList_toList]

/-! ### Joining does not change what is written -/

/-- What a piece is written as. -/
def pieceText : Piece → List Char
  | .char c => escaped c
  | .unit n => escapedUnit n

/-- The character of a single unit is written as this unit. -/
def IsUnit : Piece → Prop
  | .char _ => True
  | .unit n => escaped (charOf n) = escapedUnit n

theorem escaped_of_surrogate? {c : Char} {n : Nat} (hc : surrogate? c = some n) :
    escaped c = escapedUnit n := by
  have hvalue := (surrogate?_eq_some hc).2
  rw [surrogateOffset] at hvalue
  rw [escaped_of_not_isShort (not_isShort_of_le (by omega)), if_neg (by omega), if_neg (by omega),
    hc]

theorem isUnit_of_isSurrogate {n : Nat} (hn : isSurrogate n) : IsUnit (.unit n) :=
  escaped_of_surrogate? (surrogate?_charOf hn)

/-- A character is written as its pieces are. -/
theorem flatMap_piecesOf (c : Char) :
    (piecesOf c).flatMap pieceText = escaped c ∧ ∀ p ∈ piecesOf c, IsUnit p := by
  rw [piecesOf]
  split
  · simp [pieceText, IsUnit]
  · next hother =>
    simp only [Bool.or_eq_true, not_or, Bool.not_eq_true] at hother
    obtain ⟨hshort, hplain⟩ := hother
    have hescaped := escaped_of_not_isShort hshort
    rw [if_neg (by simpa [isPlain, hshort] using hplain)] at hescaped
    split
    · next hunit =>
      rw [if_pos hunit] at hescaped
      have hcode : IsUnit (.unit c.toNat) := by rw [IsUnit, charOf_toNat, hescaped]
      simpa [pieceText, hescaped] using hcode
    · next hunit =>
      rw [if_neg hunit] at hescaped
      cases hc : surrogate? c with
      | some n =>
        rw [hc] at hescaped
        have hcode := isUnit_of_isSurrogate (surrogate?_eq_some hc).1
        simpa [pieceText, hescaped] using hcode
      | none =>
        rw [hc] at hescaped
        have hbound := toNat_lt c
        have hhigh : isSurrogate (0xd800 + (c.toNat - 0x10000) / 0x400) := by
          simp only [isSurrogate, Bool.and_eq_true, decide_eq_true_iff]
          omega
        have hlow : isSurrogate (0xdc00 + (c.toNat - 0x10000) % 0x400) := by
          simp only [isSurrogate, Bool.and_eq_true, decide_eq_true_iff]
          omega
        simpa [pieceText, hescaped] using
          And.intro (isUnit_of_isSurrogate hhigh) (isUnit_of_isSurrogate hlow)

/-- A pair that is joined is written as its two units. -/
theorem escaped_pairChar {high low : Nat} (hhigh : isHigh high) (hlow : isLow low)
    (hsurrogate : surrogate? (pairChar high low) = none) :
    escaped (pairChar high low) = escapedUnit high ++ escapedUnit low := by
  simp only [isHigh, isLow, Bool.and_eq_true, decide_eq_true_iff] at hhigh hlow
  have hvalue : (pairChar high low).toNat = 0x10000 + (high - 0xd800) * 0x400 + (low - 0xdc00) :=
    toNat_ofNat (.inr (by omega))
  have hhigh' : 0xd800 + ((pairChar high low).toNat - 0x10000) / 0x400 = high := by omega
  have hlow' : 0xdc00 + ((pairChar high low).toNat - 0x10000) % 0x400 = low := by omega
  rw [escaped_of_not_isShort (not_isShort_of_le (by omega)), if_neg (by omega), if_neg (by omega),
    hsurrogate, hhigh', hlow']

theorem flatMap_joined {ps : List Piece} (hps : ∀ p ∈ ps, IsUnit p) :
    (joined ps).flatMap escaped = ps.flatMap pieceText := by
  induction ps using joined.induct with
  | case1 => rfl
  | case2 high low rest hpair ih =>
    have hparts := hpair
    simp only [Bool.and_eq_true, Option.isNone_iff_eq_none] at hparts
    obtain ⟨⟨hhigh, hlow⟩, hsurrogate⟩ := hparts
    simp only [List.forall_mem_cons] at hps
    rw [joined, if_pos hpair, List.flatMap_cons, ih hps.2.2,
      escaped_pairChar hhigh hlow hsurrogate, List.append_assoc]
    rfl
  | case3 high low rest hsingle ih =>
    simp only [List.forall_mem_cons] at hps
    rw [joined, if_neg hsingle, List.flatMap_cons, ih (List.forall_mem_cons.2 hps.2), hps.1]
    rfl
  | case4 n rest hrest ih =>
    simp only [List.forall_mem_cons] at hps
    rw [joined, List.flatMap_cons, ih hps.2, hps.1]
    · rfl
    · exact hrest
  | case5 c rest ih =>
    simp only [List.forall_mem_cons] at hps
    rw [joined, List.flatMap_cons, ih hps.2]
    rfl

/-- A text that was read back is written as before. -/
theorem textChars_rejoined (s : String) : textChars (rejoined s) = textChars s := by
  have hpieces : (joined (s.toList.flatMap piecesOf)).flatMap escaped = s.toList.flatMap escaped := by
    rw [flatMap_joined, List.flatMap_assoc]
    · exact List.flatMap_congr fun c _ => (flatMap_piecesOf c).1
    · intro p hp
      obtain ⟨c, -, hp⟩ := List.mem_flatMap.1 hp
      exact (flatMap_piecesOf c).2 p hp
  rw [textChars, textChars, rejoined, String.toList_ofList, hpieces]

theorem readText_escaped (s : String) (rest : List Char) :
    readText (s.toList.flatMap escaped ++ '"' :: rest) = some (rejoined s, rest) := by
  rw [readText, pieces_text]
  rfl

end DenseSketch.Document
