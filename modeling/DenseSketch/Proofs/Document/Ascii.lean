import DenseSketch.Proofs.Document.Sorting
import DenseSketch.Proofs.Text.Characters

/-!
# What is written is ASCII

Whatever a document holds, its text holds ASCII characters only, so it can be encoded.
-/

namespace DenseSketch.Document

open Reader Writer Text

/-! ### Texts -/

theorem isAscii_escapedUnit (n : Nat) : IsAscii (escapedUnit n) := by
  have hdigit : ∀ m, (Nat.digitChar (m % 16)).toNat < 0x80 := by
    have hall : ∀ d < 16, (Nat.digitChar d).toNat < 0x80 := by decide
    exact fun m => hall _ (Nat.mod_lt m (by decide))
  rw [escapedUnit, hexDigits_four]
  simp [hdigit]

theorem isAscii_escaped (c : Char) : IsAscii (escaped c) := by
  unfold escaped
  split_ifs with _ _ _ _ _ _ _ hplain hunit
  -- First the short escapes, then the character itself and the escapes by number.
  iterate 7 decide
  · simp only [isAscii_cons, isAscii_nil, and_true]
    omega
  · exact isAscii_escapedUnit _
  · split
    · exact isAscii_escapedUnit _
    · exact isAscii_append.2 ⟨isAscii_escapedUnit _, isAscii_escapedUnit _⟩

theorem isAscii_textChars (s : String) : IsAscii (textChars s) := by
  have hescaped : IsAscii (s.toList.flatMap escaped) := by
    intro c hc
    obtain ⟨d, _, hd⟩ := List.mem_flatMap.1 hc
    exact isAscii_escaped d c hd
  simp [textChars, hescaped]

/-! ### Numbers -/

theorem RealText.isAscii {cs : List Char} {d : Decimal} (hcs : RealText cs d) : IsAscii cs := by
  cases hcs with
  | positional hwhole _ hplaces =>
    simp [isAscii_of_digits hwhole.digits, isAscii_of_digits hplaces]
  | @scientific whole places power negative hwhole hplaces _ hpower =>
    have hfraction : IsAscii (if places = [] then [] else '.' :: places) := by
      split
      · exact isAscii_nil
      · simp [isAscii_of_digits hplaces]
    have hsign : (if negative then '-' else '+').toNat < 0x80 := by
      cases negative
      · decide
      · decide
    simp [isAscii_of_digits hwhole.digits, hfraction, hsign, isAscii_of_digits hpower]

theorem isAscii_signed (negative : Bool) {cs : List Char} (hcs : IsAscii cs) :
    IsAscii (if negative then '-' :: cs else cs) := by
  split
  · exact isAscii_cons.2 ⟨by decide, hcs⟩
  · exact hcs

theorem isAscii_integer (n : Int) : IsAscii (toString n).toList := by
  rw [toList_toString]
  exact isAscii_signed _ (isAscii_of_digits fun _ => isDigit_of_mem_toDigits)

theorem isAscii_realChars (x : Datum) : IsAscii (realChars x) := by
  cases x with
  | nan => decide
  | infinite s =>
    cases s
    · decide
    · decide
  | finite s m e =>
    refine isAscii_signed s ?_
    split
    · decide
    · next hm =>
      obtain ⟨d, htext, _⟩ := exists_realText_text (significand_shortestDecimal_pos hm e)
      exact htext.isAscii

/-! ### Documents -/

theorem isAscii_newLine (k : Nat) : IsAscii (newLine k) := by
  refine isAscii_cons.2 ⟨by decide, fun c hc => ?_⟩
  rw [List.eq_of_mem_replicate hc]
  decide

mutual

theorem isAscii_chars (k : Nat) (d : Document) : IsAscii (chars k d) := by
  match d with
  | .null => exact (by decide : IsAscii "null".toList)
  | .truth true => exact (by decide : IsAscii "true".toList)
  | .truth false => exact (by decide : IsAscii "false".toList)
  | .integer n => exact isAscii_integer n
  | .real x => exact isAscii_realChars x
  | .text s => exact isAscii_textChars s
  | .list [] => exact (by decide : IsAscii ['[', ']'])
  | .record [] => exact (by decide : IsAscii ['\x7b', '\x7d'])
  | .list (item :: items) =>
    simp [chars, isAscii_newLine, isAscii_chars (k + 1) item, isAscii_moreItems (k + 1) items]
  | .record ((key, value) :: members) =>
    simp [chars, isAscii_newLine, isAscii_textChars, isAscii_chars (k + 1) value,
      isAscii_moreMembers (k + 1) members]

theorem isAscii_moreItems (k : Nat) (items : List Document) : IsAscii (moreItems k items) := by
  match items with
  | [] => exact isAscii_nil
  | item :: items =>
    simp [moreItems, isAscii_newLine, isAscii_chars k item, isAscii_moreItems k items]

theorem isAscii_moreMembers (k : Nat) (members : List (String × Document)) :
    IsAscii (moreMembers k members) := by
  match members with
  | [] => exact isAscii_nil
  | (key, value) :: members =>
    simp [moreMembers, isAscii_newLine, isAscii_textChars, isAscii_chars k value,
      isAscii_moreMembers k members]

end

theorem isAscii_canonical (d : Document) : IsAscii (d.canonical ++ "\n").toList := by
  rw [String.toList_append, canonical, write, String.toList_ofList]
  exact isAscii_append.2 ⟨isAscii_chars 0 d.sorted, by decide⟩

/-- The text of a document can be encoded. -/
theorem isEncodable_canonical (d : Document) : isEncodable (d.canonical ++ "\n") :=
  isEncodable_of_isAscii (isAscii_canonical d)

end DenseSketch.Document
