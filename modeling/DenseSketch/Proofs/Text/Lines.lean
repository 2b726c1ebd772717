import DenseSketch.Text.Basic
import Mathlib.Data.List.Basic

/-!
# Lines and groups

The lines of a text are found again in it, and groups of items are made of the items.
-/

namespace DenseSketch.Text

@[simp]
theorem toString_text (s : String) : toString s = s :=
  rfl

/-- The first character of a line that is no blank. -/
def firstSign (line : List Char) : Option Char := (line.dropWhile (· == ' ')).head?

theorem firstSign_cons {c : Char} (hblank : c ≠ ' ') (cs : List Char) :
    firstSign (c :: cs) = some c := by
  simp [firstSign, hblank]

theorem mem_of_firstSign {line : List Char} {c : Char} (hc : firstSign line = some c) :
    c ∈ line :=
  (List.dropWhile_sublist _).subset (List.mem_of_mem_head? hc)

@[simp]
theorem toList_unlines_nil : (unlines []).toList = [] := by
  simp [unlines]

@[simp]
theorem toList_unlines_cons (line : String) (lines : List String) :
    (unlines (line :: lines)).toList = line.toList ++ '\n' :: (unlines lines).toList := by
  simp [unlines]

theorem unlines_append (lines more : List String) :
    unlines (lines ++ more) = unlines lines ++ unlines more := by
  rw [unlines, List.map_append, String.join_append]
  rfl

/-- Lines without line breaks are the pieces of their text, with nothing behind the last break. -/
theorem splitOn_unlines_append {lines : List String} (hbreak : ∀ line ∈ lines, '\n' ∉ line.toList)
    (rest : List Char) :
    ((unlines lines).toList ++ rest).splitOn '\n' =
      lines.map String.toList ++ rest.splitOn '\n' := by
  induction lines with
  | nil => simp
  | cons line lines ih =>
    have htail := ih fun l hl => hbreak l (List.mem_cons_of_mem line hl)
    rw [toList_unlines_cons, List.append_assoc, List.cons_append,
      List.splitOn_append_cons_self_of_not_mem (hbreak line (by simp)), htail]
    rfl

theorem splitOn_unlines {lines : List String} (hbreak : ∀ line ∈ lines, '\n' ∉ line.toList) :
    (unlines lines).toList.splitOn '\n' = lines.map String.toList ++ [[]] := by
  simpa using splitOn_unlines_append hbreak []

/-- What stands in a text stands in one of its lines, or ends one. -/
theorem mem_or_of_mem_unlines {lines : List String} {c : Char} (hc : c ∈ (unlines lines).toList) :
    c = '\n' ∨ ∃ line ∈ lines, c ∈ line.toList := by
  induction lines with
  | nil => simp at hc
  | cons line lines ih =>
    rw [toList_unlines_cons, List.mem_append, List.mem_cons] at hc
    rcases hc with hc | rfl | hc
    · exact .inr ⟨line, List.mem_cons_self, hc⟩
    · exact .inl rfl
    · exact (ih hc).imp_right fun ⟨found, hfound, hc⟩ =>
        ⟨found, List.mem_cons_of_mem _ hfound, hc⟩

theorem toList_intercalate_cons (separator first : String) (rest : List String) :
    (separator.intercalate (first :: rest)).toList =
      first.toList ++ rest.flatMap fun item => separator.toList ++ item.toList := by
  induction rest generalizing first with
  | nil => simp
  | cons next rest ih =>
    rw [String.intercalate_cons_cons, String.toList_append, String.toList_append, ih,
      List.flatMap_cons, List.append_assoc, List.append_assoc]

/-- What stands in a joined text stands in an item or in what separates the items. -/
theorem mem_or_of_mem_intercalate {separator : String} {items : List String} {c : Char}
    (hc : c ∈ (separator.intercalate items).toList) :
    c ∈ separator.toList ∨ ∃ item ∈ items, c ∈ item.toList := by
  induction items with
  | nil => simp at hc
  | cons item items ih =>
    cases items with
    | nil => exact .inr ⟨item, by simp, by simpa using hc⟩
    | cons next items =>
      rw [String.intercalate_cons_cons, String.toList_append, String.toList_append, List.mem_append,
        List.mem_append] at hc
      rcases hc with (hc | hc) | hc
      · exact .inr ⟨item, by simp, hc⟩
      · exact .inl hc
      · rcases ih hc with hc | ⟨found, hfound, hc⟩
        · exact .inl hc
        · exact .inr ⟨found, List.mem_cons_of_mem item hfound, hc⟩

theorem map_chunks {α β : Type} (f : α → β) (size : Nat) (xs : List α) :
    chunks size (xs.map f) = (chunks size xs).map (List.map f) := by
  fun_induction chunks size xs with
  | case1 => simp [chunks]
  | case2 x rest ih =>
    rw [List.map_cons, chunks, ← List.map_take, ← List.map_drop, ih, List.map_cons, List.map_cons]

theorem ne_nil_of_mem_chunks {α : Type} {size : Nat} {xs row : List α}
    (hrow : row ∈ chunks size xs) : row ≠ [] := by
  fun_induction chunks size xs with
  | case1 => simp at hrow
  | case2 x rest ih =>
    rcases List.mem_cons.1 hrow with rfl | hrow
    · simp
    · exact ih hrow

/-! ### Texts that start in another way

Of a literal in a text only the characters are looked at, and of a longer text only its front. -/

theorem not_prefix_ofList {mark cs : List Char} (hcs : ¬ mark <+: cs) :
    ¬ mark <+: (String.ofList cs).toList := by
  rwa [String.toList_ofList]

/-- The mark and the text differ at a place that both have. -/
def Differs (mark : List Char) (text : String) : Prop :=
  ¬ mark <+: text.toList ∧ ¬ text.toList <+: mark

theorem differs_ofList {mark cs : List Char} (hcs : ¬ mark <+: cs ∧ ¬ cs <+: mark) :
    Differs mark (String.ofList cs) := by
  rwa [Differs, String.toList_ofList]

theorem Differs.append {mark : List Char} {front : String} (hfront : Differs mark front)
    (rest : String) : Differs mark (front ++ rest) := by
  rw [Differs, String.toList_append]
  constructor
  · intro hmark
    rcases List.prefix_or_prefix_of_prefix hmark (List.prefix_append _ _) with hmark | hmark
    · exact hfront.1 hmark
    · exact hfront.2 hmark
  · exact fun hmark => hfront.2 ((List.prefix_append _ _).trans hmark)

/-! ### What stands around a mark -/

theorem dropPrefix?_eq_none {mark line : List Char} (hmark : ¬ mark <+: line) :
    line.dropPrefix? mark = none := by
  cases hdrop : line.dropPrefix? mark with
  | none => rfl
  | some rest =>
    obtain ⟨front, hline, hsame⟩ := List.dropPrefix?_eq_some_iff.1 hdrop
    rw [beq_iff_eq] at hsame
    exact absurd ⟨rest, hsame ▸ hline.symm⟩ hmark

/-- What stands in front of the first place where the mark is found, and what stands behind it. -/
def cut? (mark : List Char) : List Char → Option (List Char × List Char)
  | [] => none
  | c :: rest =>
    if mark <+: c :: rest then some ([], (c :: rest).drop mark.length)
    else (cut? mark rest).map fun (before, behind) => (c :: before, behind)

/-- A mark is found where it stands if one of its characters does not stand in front of it. -/
theorem cut?_append {front back before : List Char} {c : Char} (hfront : c ∉ front)
    (hbefore : c ∉ before) (behind : List Char) :
    cut? (front ++ c :: back) (before ++ (front ++ c :: back) ++ behind) =
      some (before, behind) := by
  induction before with
  | nil =>
    have hcons : front ++ c :: back ++ behind ≠ [] := by simp
    obtain ⟨first, rest, hmark⟩ := List.exists_cons_of_ne_nil hcons
    rw [List.nil_append, hmark, cut?, ← hmark, if_pos (List.prefix_append _ _), List.drop_left]
  | cons first before ih =>
    obtain ⟨hfirst, hbefore⟩ := not_or.1 (mt List.mem_cons.2 hbefore)
    have hnot : ¬ front ++ c :: back <+: first :: (before ++ (front ++ c :: back) ++ behind) := by
      rintro ⟨tail, htail⟩
      -- The character has its first place right behind `front` in the mark, and later in the text.
      have hplaces := congrArg (List.idxOf c) htail
      have hlater : first :: (before ++ (front ++ c :: back) ++ behind) =
          (first :: before ++ front) ++ c :: (back ++ behind) := by simp
      have habsent : c ∉ first :: before ++ front := by simp [hfirst, hbefore, hfront]
      rw [hlater, List.append_assoc, List.idxOf_append_of_notMem hfront,
        List.idxOf_append_of_notMem habsent, List.cons_append, List.idxOf_cons_self,
        List.idxOf_cons_self, List.length_append, List.length_cons] at hplaces
      omega
    rw [List.cons_append, List.cons_append, cut?, if_neg hnot, ih hbefore]
    rfl

/-! ### The sizes of groups -/

variable {α : Type} {size : Nat}

/-- There are as many groups as the quotient rounded up says. -/
theorem length_chunks (hsize : 0 < size) (xs : List α) :
    (chunks size xs).length = (xs.length + size - 1) / size := by
  fun_induction chunks size xs with
  | case1 =>
    rw [List.length_nil, List.length_nil, Nat.div_eq_of_lt (by omega)]
  | case2 x rest ih =>
    rw [List.length_cons, ih, List.length_drop, List.length_cons]
    by_cases hlast : rest.length ≤ size - 1
    · rw [Nat.sub_eq_zero_of_le hlast, Nat.div_eq_of_lt (by omega)]
      symm
      rw [Nat.div_eq_iff hsize]
      omega
    · have hmore : rest.length + 1 + size - 1 = rest.length - (size - 1) + size - 1 + size := by
        omega
      rw [hmore, Nat.add_div_right _ hsize]

/-- A group holds no more items than it may, and if another one follows it is full. -/
theorem length_le_of_mem_chunks (hsize : 0 < size) {xs row : List α}
    (hrow : row ∈ chunks size xs) : row.length ≤ size := by
  fun_induction chunks size xs with
  | case1 => simp at hrow
  | case2 x rest ih =>
    rcases List.mem_cons.1 hrow with rfl | hrow
    · rw [List.length_cons, List.length_take]
      omega
    · exact ih hrow

theorem length_of_mem_dropLast_chunks (hsize : 0 < size) {xs row : List α}
    (hrow : row ∈ (chunks size xs).dropLast) : row.length = size := by
  fun_induction chunks size xs with
  | case1 => simp at hrow
  | case2 x rest ih =>
    by_cases hlast : chunks size (rest.drop (size - 1)) = []
    · simp [hlast] at hrow
    · rw [List.dropLast_cons_of_ne_nil hlast, List.mem_cons] at hrow
      rcases hrow with rfl | hrow
      · have hmore : rest.drop (size - 1) ≠ [] := by
          intro hnil
          rw [hnil, chunks] at hlast
          exact hlast rfl
        rw [ne_eq, List.drop_eq_nil_iff] at hmore
        rw [List.length_cons, List.length_take]
        omega
      · exact ih hrow

end DenseSketch.Text
