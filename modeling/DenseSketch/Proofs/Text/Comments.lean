import DenseSketch.Proofs.Text.Lines
import DenseSketch.Text.CharacterClass
import Mathlib.Data.List.Basic

/-!
# Comments

A line is a comment if its first characters that are not blank are two slashes.  A name inside a
comment does no harm unless it goes on in further lines: then each of them has to be a comment too,
or the text has more code with the name than without it.
-/

namespace DenseSketch.Text

/-- Is the line a comment? -/
def isComment (line : List Char) : Bool :=
  "//".toList.isPrefixOf (line.dropWhile isBlank)

/-- The lines of a text that are no comments. -/
def codeLines (s : String) : List (List Char) :=
  (s.toList.splitOn '\n').filter fun line => !isComment line

/-- All lines of a text but the first one are comments. -/
def IsHarmless (s : String) : Prop :=
  ∀ line ∈ (s.toList.splitOn '\n').tail, isComment line = true

instance (s : String) : Decidable (IsHarmless s) :=
  inferInstanceAs (Decidable (∀ line ∈ (s.toList.splitOn '\n').tail, isComment line = true))

theorem isHarmless_of_no_break {s : String} (hbreak : '\n' ∉ s.toList) : IsHarmless s := by
  rw [IsHarmless, List.splitOn_eq_singleton hbreak]
  exact List.forall_mem_nil _

theorem codeLines_unlines (lines : List String) :
    codeLines (unlines lines) = lines.flatMap codeLines ++ [[]] := by
  induction lines with
  | nil => decide
  | cons line lines ih =>
    rw [codeLines, toList_unlines_cons, List.splitOn_append_cons_self, List.filter_append,
      List.flatMap_cons, List.append_assoc, ← ih]
    rfl

/-! ### Names inside comments -/

/-- What a comment puts around a name: the slashes in front of it, and a bracket behind. -/
structure IsFrame (front back : String) : Prop where
  front_break : '\n' ∉ front.toList
  front_comment : isComment front.toList = true
  back_break : '\n' ∉ back.toList
  back_bracket : [' ', '('] <+: back.toList

theorem isComment_append {front : List Char} (hfront : isComment front = true) (rest : List Char) :
    isComment (front ++ rest) = true := by
  rw [isComment, List.isPrefixOf_iff_prefix] at hfront ⊢
  obtain ⟨tail, htail⟩ := hfront
  have hsome : front.dropWhile isBlank ≠ [] := by
    rw [← htail]
    exact nofun
  rw [List.dropWhile_append, if_neg (by simpa using hsome), ← htail, List.append_assoc]
  exact List.prefix_append _ _

theorem isComment_blank_cons {c : Char} (hblank : isBlank c = true) (line : List Char) :
    isComment (c :: line) = isComment line := by
  rw [isComment, isComment, List.dropWhile_cons_of_pos hblank]

/-- A bracket behind a line does not make it a comment. -/
theorem isComment_append_bracket {back : List Char} (hback : [' ', '('] <+: back)
    (line : List Char) : isComment (line ++ back) = isComment line := by
  obtain ⟨more, rfl⟩ := hback
  rw [isComment, isComment, List.dropWhile_append]
  cases line.dropWhile isBlank with
  | nil => rfl
  | cons c rest =>
    cases rest with
    | nil =>
      have hslash : ('/' == ' ') = false := by decide
      simp [List.isPrefixOf, hslash]
    | cons d rest => rfl

theorem forall_isComment_append {back : List Char} (hbreak : '\n' ∉ back)
    (hback : [' ', '('] <+: back) (cs : List Char) :
    (∀ line ∈ (cs ++ back).splitOn '\n', isComment line = true) ↔
      ∀ line ∈ cs.splitOn '\n', isComment line = true := by
  -- The first line is taken off as long as there is one, so the induction is on the length.
  induction hlength : cs.length using Nat.strongRecOn generalizing cs with
  | ind n ih =>
    by_cases hmem : '\n' ∈ cs
    · obtain ⟨first, rest, rfl, hfirst⟩ := List.eq_append_cons_of_mem hmem
      have hshort : rest.length < n := by
        rw [← hlength, List.length_append, List.length_cons]
        omega
      rw [List.append_assoc, List.cons_append, List.splitOn_append_cons_self_of_not_mem hfirst,
        List.splitOn_append_cons_self_of_not_mem hfirst, List.forall_mem_cons,
        List.forall_mem_cons, ih rest.length hshort rest rfl]
    · have hall : '\n' ∉ cs ++ back := by
        rw [List.mem_append, not_or]
        exact ⟨hmem, hbreak⟩
      rw [List.splitOn_eq_singleton hall, List.splitOn_eq_singleton hmem, List.forall_mem_singleton,
        List.forall_mem_singleton, isComment_append_bracket hback]

/-- A comment with a name in it leaves no code exactly if the name is harmless. -/
theorem IsFrame.codeLines_eq_nil_iff {front back : String} (h : IsFrame front back)
    (name : String) : codeLines (front ++ name ++ back) = [] ↔ IsHarmless name := by
  rw [codeLines, List.filter_eq_nil_iff, String.toList_append, String.toList_append, IsHarmless]
  simp only [Bool.not_eq_true', Bool.not_eq_false]
  generalize name.toList = cs
  by_cases hmem : '\n' ∈ cs
  · obtain ⟨first, rest, rfl, hfirst⟩ := List.eq_append_cons_of_mem hmem
    have hbreak : '\n' ∉ front.toList ++ first := by
      rw [List.mem_append, not_or]
      exact ⟨h.front_break, hfirst⟩
    have hfront := isComment_append h.front_comment first
    rw [← List.append_assoc, List.append_assoc _ _ back.toList, List.cons_append,
      List.splitOn_append_cons_self_of_not_mem hbreak,
      List.splitOn_append_cons_self_of_not_mem hfirst, List.forall_mem_cons, List.tail_cons,
      forall_isComment_append h.back_break h.back_bracket]
    exact and_iff_right hfront
  · have hbreak : '\n' ∉ front.toList ++ cs ++ back.toList := by
      rw [List.mem_append, List.mem_append, not_or, not_or]
      exact ⟨⟨h.front_break, hmem⟩, h.back_break⟩
    rw [List.splitOn_eq_singleton hbreak, List.splitOn_eq_singleton hmem, List.append_assoc]
    simpa using isComment_append h.front_comment (cs ++ back.toList)

/-! ### Lines with comments -/

/-- The lines are the plain ones and, in some place for each name, a comment with this name. -/
inductive Commented : List String → List String → List String → Prop
  | nil : Commented [] [] []
  | plain (line : String) {names lines plain : List String} (h : Commented names lines plain) :
    Commented names (line :: lines) (line :: plain)
  | comment (name front back : String) {names lines plain : List String}
    (hframe : IsFrame front back) (h : Commented names lines plain) :
    Commented (name :: names) ((front ++ name ++ back) :: lines) plain

namespace Commented

variable {names more lines others plain rest : List String}

theorem refl (lines : List String) : Commented [] lines lines := by
  induction lines with
  | nil => exact .nil
  | cons line lines ih => exact ih.plain line

theorem append (h : Commented names lines plain) (hmore : Commented more others rest) :
    Commented (names ++ more) (lines ++ others) (plain ++ rest) := by
  induction h with
  | nil => exact hmore
  | plain line _ ih => exact ih.plain line
  | comment name front back hframe _ ih => exact ih.comment name front back hframe

theorem sublist (h : Commented names lines plain) :
    (plain.flatMap codeLines).Sublist (lines.flatMap codeLines) := by
  induction h with
  | nil => exact List.Sublist.refl _
  | plain line _ ih =>
    rw [List.flatMap_cons, List.flatMap_cons]
    exact ih.append_left _
  | comment name front back hframe _ ih =>
    rw [List.flatMap_cons]
    exact ih.trans (List.sublist_append_right _ _)

/-- The comments add no code exactly if every name is harmless. -/
theorem flatMap_codeLines_eq_iff (h : Commented names lines plain) :
    lines.flatMap codeLines = plain.flatMap codeLines ↔ ∀ name ∈ names, IsHarmless name := by
  induction h with
  | nil => exact iff_of_true rfl (List.forall_mem_nil _)
  | plain line _ ih => rw [List.flatMap_cons, List.flatMap_cons, List.append_right_inj, ih]
  | @comment name front back names lines plain hframe hrest ih =>
    rw [List.flatMap_cons, List.forall_mem_cons, ← hframe.codeLines_eq_nil_iff name, ← ih]
    constructor
    · intro heq
      -- The rest has at least the code of the plain lines, so the comment has none.
      have hle := hrest.sublist.length_le
      rw [← heq, List.length_append] at hle
      have hnone : codeLines (front ++ name ++ back) = [] := List.length_eq_zero_iff.1 (by omega)
      rw [hnone] at heq
      exact ⟨hnone, heq⟩
    · rintro ⟨hnone, heq⟩
      rw [hnone, heq]
      rfl

theorem codeLines_eq_iff (h : Commented names lines plain) :
    codeLines (unlines lines) = codeLines (unlines plain) ↔ ∀ name ∈ names, IsHarmless name := by
  rw [codeLines_unlines, codeLines_unlines, List.append_left_inj, h.flatMap_codeLines_eq_iff]

end Commented

/-- Lines that are the same but for comments, in which the one side has names of its own and the
    other side others. -/
def Alike (names lines others more : List String) : Prop :=
  ∃ plain, Commented names lines plain ∧ Commented others more plain

namespace Alike

variable {names lines others more : List String}

theorem refl (lines : List String) : Alike [] lines [] lines :=
  ⟨lines, .refl lines, .refl lines⟩

theorem comment {front back : String} (hframe : IsFrame front back) (name other : String) :
    Alike [name] [front ++ name ++ back] [other] [front ++ other ++ back] :=
  ⟨[], .comment name front back hframe .nil, .comment other front back hframe .nil⟩

theorem append {names' lines' others' more' : List String} (h : Alike names lines others more)
    (hrest : Alike names' lines' others' more') :
    Alike (names ++ names') (lines ++ lines') (others ++ others') (more ++ more') := by
  obtain ⟨plain, hlines, hmore⟩ := h
  obtain ⟨rest, hlines', hmore'⟩ := hrest
  exact ⟨plain ++ rest, hlines.append hlines', hmore.append hmore'⟩

/-- The same lines around those of both sides. -/
theorem surround (front back : List String) (h : Alike names lines others more) :
    Alike names (front ++ lines ++ back) others (front ++ more ++ back) := by
  have hall := ((refl front).append h).append (refl back)
  rwa [List.nil_append, List.append_nil, List.nil_append, List.append_nil] at hall

/-- If the names of the other side are harmless, both sides have the same code exactly if those of
    the first side are harmless too. -/
theorem codeLines_eq_iff (h : Alike names lines others more)
    (hharmless : ∀ name ∈ others, IsHarmless name) :
    codeLines (unlines lines) = codeLines (unlines more) ↔ ∀ name ∈ names, IsHarmless name := by
  obtain ⟨plain, hlines, hmore⟩ := h
  rw [hmore.codeLines_eq_iff.2 hharmless, hlines.codeLines_eq_iff]

end Alike

end DenseSketch.Text
