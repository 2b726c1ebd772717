import DenseSketch.Proofs.Table.RoundTrip
import Mathlib.Algebra.Order.Floor.Div

/-!
# The layout of a table

What is seen of the text between the braces of a table: how many lines it has, how many literals
stand in each of them, and where the commas are.  The literals of a line are found by its commas and
blanks alone.  This is `format_float_table_body` of SPEC_FULL, section 4.4.
-/

namespace DenseSketch.Table

/-! ### What is seen -/

/-- The literals of a line: what its commas separate, without the blanks in front. -/
def literalsIn (line : List Char) : List (List Char) :=
  ((line.splitOn ',').map (·.dropWhile (· == ' '))).filter (· ≠ [])

/-- Is the character neither a blank nor a line feed? -/
def isInk (c : Char) : Bool := c ≠ ' ' ∧ c ≠ '\n'

/-- Literals are laid out in lines of `width`: each line is ended and indented, every line but the
    last one is full, and a comma stands behind every literal but the last one. -/
structure IsLaidOut (width : Nat) (literals lines : List String) : Prop where
  ended : (Text.unlines lines).toList.splitOn '\n' = lines.map String.toList ++ [[]]
  length_lines : lines.length = literals.length ⌈/⌉ width
  indented : ∀ line ∈ lines, "  ".toList <+: line.toList
  full : ∀ line ∈ lines.dropLast, (literalsIn line.toList).length = width
  last : ∀ line ∈ lines.getLast?, (literalsIn line.toList).length ∈ Set.Icc 1 width
  flatMap_literalsIn :
    (lines.flatMap fun line => literalsIn line.toList) = literals.map String.toList
  separated : (Text.unlines lines).toList.filter isInk = (",".intercalate literals).toList
  count_commas : (Text.unlines lines).toList.count ',' = literals.length - 1

/-! ### The literals of a line -/

theorem literalText_ne_nil (x : Datum) : (literalText x).toList ≠ [] := by
  simp [toList_literalText]

theorem literalsIn_literal (k : Nat) {x : Datum} (hfinite : x.isFinite) :
    literalsIn (List.replicate k ' ' ++ (literalText x).toList) = [(literalText x).toList] := by
  rw [literalsIn, List.splitOn_eq_singleton (comma_not_mem_cell k hfinite), List.map_singleton,
    dropWhile_blanks k (not_mem_literalText hfinite (by decide) (by decide)),
    List.filter_cons_of_pos (by simpa using literalText_ne_nil x), List.filter_nil]

theorem literalsIn_literal_append (k : Nat) {x : Datum} (hfinite : x.isFinite) (rest : List Char) :
    literalsIn (List.replicate k ' ' ++ (literalText x).toList ++ ',' :: rest) =
      (literalText x).toList :: literalsIn rest := by
  rw [literalsIn, List.splitOn_append_cons_self_of_not_mem (comma_not_mem_cell k hfinite),
    List.map_cons, dropWhile_blanks k (not_mem_literalText hfinite (by decide) (by decide)),
    List.filter_cons_of_pos (by simpa using literalText_ne_nil x), literalsIn]

/-- A row is read as its literals, with or without a comma behind it. -/
theorem literalsIn_rowText {suffix : List Char} (hsuffix : suffix = [] ∨ suffix = [',']) (k : Nat)
    {row : List Datum} (hrow : row ≠ []) (hfinite : ∀ x ∈ row, x.isFinite) :
    literalsIn (List.replicate k ' ' ++ rowText row ++ suffix) =
      row.map fun x => (literalText x).toList := by
  induction row generalizing k with
  | nil => exact absurd rfl hrow
  | cons x row ih =>
    have hx : x.isFinite := hfinite x (by simp)
    cases row with
    | nil =>
      have htext : rowText [x] = (literalText x).toList := by simp [rowText, commaSeparated]
      rw [htext]
      rcases hsuffix with rfl | rfl
      · rw [List.append_nil]
        exact literalsIn_literal k hx
      · rw [literalsIn_literal_append k hx]
        rfl
    | cons y row =>
      have htail := ih 1 (by simp) fun z hz => hfinite z (List.mem_cons_of_mem x hz)
      have hsplit : List.replicate k ' ' ++ rowText (x :: y :: row) ++ suffix =
          List.replicate k ' ' ++ (literalText x).toList ++
            ',' :: (List.replicate 1 ' ' ++ rowText (y :: row) ++ suffix) := by
        simp [rowText_cons_cons]
      rw [hsplit, literalsIn_literal_append k hx, htail]
      rfl

/-- The lines hold the rows, one by one. -/
theorem map_literalsIn_rowLines {rows : List (List Datum)} (hrow : ∀ row ∈ rows, row ≠ [])
    (hfinite : ∀ row ∈ rows, ∀ x ∈ row, x.isFinite) :
    (rowLines (rows.map (List.map literalText))).map (fun line => literalsIn line.toList) =
      rows.map fun row => row.map fun x => (literalText x).toList := by
  induction rows with
  | nil => rfl
  | cons row rows ih =>
    rw [List.forall_mem_cons] at hrow hfinite
    cases rows with
    | nil =>
      have hlast := literalsIn_rowText (.inl rfl) 2 hrow.1 hfinite.1
      simpa [rowLines, rowText] using hlast
    | cons next rows =>
      have hhead := literalsIn_rowText (.inr rfl) 2 hrow.1 hfinite.1
      have htail := ih hrow.2 hfinite.2
      simp only [List.map_cons, rowLines] at htail ⊢
      rw [htail]
      simpa [rowText] using hhead

/-! ### Commas -/

/-- Values as literals with nothing but commas between them. -/
def joined (values : List Datum) : List Char := (",".intercalate (values.map literalText)).toList

theorem joined_cons_cons (x y : Datum) (values : List Datum) :
    joined (x :: y :: values) = (literalText x).toList ++ ',' :: joined (y :: values) := by
  simp [joined, String.intercalate_cons_cons]

theorem joined_append {values more : List Datum} (hvalues : values ≠ []) (hmore : more ≠ []) :
    joined (values ++ more) = joined values ++ ',' :: joined more := by
  induction values with
  | nil => exact absurd rfl hvalues
  | cons x values ih =>
    cases values with
    | nil =>
      obtain ⟨y, more, rfl⟩ := List.exists_cons_of_ne_nil hmore
      rw [List.singleton_append, joined_cons_cons]
      simp [joined]
    | cons y values =>
      rw [List.cons_append, List.cons_append, joined_cons_cons, joined_cons_cons,
        ← List.cons_append, ih (by simp), List.append_assoc, List.cons_append]

theorem filter_isInk_literalText {x : Datum} (hfinite : x.isFinite) :
    (literalText x).toList.filter isInk = (literalText x).toList := by
  rw [List.filter_eq_self]
  intro c hc
  rw [isInk, decide_eq_true_iff]
  constructor
  · rintro rfl
    exact not_mem_literalText hfinite (by decide) (by decide) hc
  · rintro rfl
    exact not_mem_literalText hfinite (by decide) (by decide) hc

theorem filter_isInk_rowText {row : List Datum} (hfinite : ∀ x ∈ row, x.isFinite) :
    (rowText row).filter isInk = joined row := by
  induction row with
  | nil => rfl
  | cons x row ih =>
    rw [List.forall_mem_cons] at hfinite
    cases row with
    | nil => simpa [rowText, joined, commaSeparated] using filter_isInk_literalText hfinite.1
    | cons y row =>
      rw [rowText_cons_cons, joined_cons_cons, List.filter_append,
        filter_isInk_literalText hfinite.1, List.filter_cons_of_pos (by decide),
        List.filter_cons_of_neg (by decide), ih hfinite.2]

/-- Without its blanks and line feeds a body is its literals with commas between them. -/
theorem filter_isInk_unlines {rows : List (List Datum)} (hrow : ∀ row ∈ rows, row ≠ [])
    (hfinite : ∀ row ∈ rows, ∀ x ∈ row, x.isFinite) :
    (Text.unlines (rowLines (rows.map (List.map literalText)))).toList.filter isInk =
      joined rows.flatten := by
  induction rows with
  | nil => simp [rowLines, joined]
  | cons row rows ih =>
    rw [List.forall_mem_cons] at hrow hfinite
    cases rows with
    | nil =>
      have hlast := filter_isInk_rowText hfinite.1
      simpa [rowLines, isInk, rowText] using hlast
    | cons next rows =>
      have hmore : (next :: rows).flatten ≠ [] := by
        simp [hrow.2 next (by simp)]
      have htail := ih hrow.2 hfinite.2
      have hhead := filter_isInk_rowText hfinite.1
      rw [List.flatten_cons, joined_append hrow.1 hmore, ← htail, ← hhead]
      simp [rowLines, isInk, rowText]

theorem count_comma_literalText {x : Datum} (hfinite : x.isFinite) :
    (literalText x).toList.count ',' = 0 :=
  List.count_eq_zero_of_not_mem (not_mem_literalText hfinite (by decide) (by decide))

theorem count_comma_joined {values : List Datum} (hfinite : ∀ x ∈ values, x.isFinite) :
    (joined values).count ',' = values.length - 1 := by
  induction values with
  | nil => rfl
  | cons x values ih =>
    rw [List.forall_mem_cons] at hfinite
    cases values with
    | nil => simpa [joined] using count_comma_literalText hfinite.1
    | cons y values =>
      rw [joined_cons_cons, List.count_append, count_comma_literalText hfinite.1,
        List.count_cons_self, ih hfinite.2]
      simp

/-! ### The whole body -/

theorem isLaidOut_rowLines {width : Nat} (hwidth : 0 < width) {values : List Datum}
    (hfinite : ∀ x ∈ values, x.isFinite) :
    IsLaidOut width (values.map literalText)
      (rowLines ((Text.chunks width values).map (List.map literalText))) := by
  have hrow : ∀ row ∈ Text.chunks width values, row ≠ [] := fun row =>
    Text.ne_nil_of_mem_chunks
  have hrowFinite : ∀ row ∈ Text.chunks width values, ∀ x ∈ row, x.isFinite := by
    intro row hmem x hx
    rw [← Text.flatten_chunks width values] at hfinite
    exact hfinite x (List.mem_flatten.2 ⟨row, hmem, hx⟩)
  have hlines := map_literalsIn_rowLines hrow hrowFinite
  have hink := filter_isInk_unlines hrow hrowFinite
  rw [Text.flatten_chunks] at hink
  constructor
  case ended => exact Text.splitOn_unlines fun line hline => (rowLines_spec hrow hrowFinite hline).1
  case length_lines =>
    have hlength := congrArg List.length hlines
    rw [List.length_map, List.length_map, Text.length_chunks hwidth] at hlength
    rw [hlength, List.length_map, Nat.ceilDiv_eq_add_pred_div]
  case indented =>
    intro line hline
    obtain ⟨row, -, suffix, htext, -⟩ := mem_rowLines hline
    rw [htext]
    exact ⟨rowText row ++ suffix, rfl⟩
  case full =>
    intro line hline
    have hmem := List.mem_map_of_mem (f := fun line => literalsIn line.toList) hline
    rw [List.map_dropLast, hlines, ← List.map_dropLast, List.mem_map] at hmem
    obtain ⟨row, hmem, heq⟩ := hmem
    rw [← heq, List.length_map]
    exact Text.length_of_mem_dropLast_chunks hwidth hmem
  case last =>
    intro line hline
    have hmem := List.mem_map_of_mem (f := fun line => literalsIn line.toList)
      (List.mem_of_getLast? hline)
    rw [hlines, List.mem_map] at hmem
    obtain ⟨row, hmem, heq⟩ := hmem
    rw [← heq, List.length_map]
    exact ⟨List.length_pos_of_ne_nil (hrow row hmem), Text.length_le_of_mem_chunks hwidth hmem⟩
  case flatMap_literalsIn =>
    rw [List.flatMap_def, hlines, ← List.map_flatten, Text.flatten_chunks, List.map_map]
    rfl
  case separated => exact hink
  case count_commas =>
    rw [List.length_map, ← count_comma_joined hfinite, ← hink, List.count_filter (by decide)]

/-- **The layout of a table.**  Finite values are laid out in lines of the given width, each value
    by its literal, and no values make no text.  A width that is not positive is refused before any
    literal is asked for, whatever the values are. -/
theorem bodyLines_layout {perLine : Document} {w : Int} (hwhole : perLine.wholeNumber = .ok w)
    (values : List Datum) :
    (0 < w → (∀ x ∈ values, x.isFinite) → ∃ literals lines,
      List.Forall₂ (fun x text => literal x = .ok text) values literals ∧
      bodyLines values perLine = .ok lines ∧
      (values = [] → Text.unlines lines = "") ∧
      IsLaidOut w.toNat literals lines) ∧
    (w ≤ 0 → ∃ fault : Fault, fault.isValueFault ∧
      fault.message? = some s!"values_per_line must be positive, got {perLine.shown}" ∧
      bodyLines values perLine = .error fault ∧
      ∀ literals : Except Fault (List String), layout perLine literals = .error fault) := by
  constructor
  · intro hpos hfinite
    refine ⟨values.map literalText, _, ?_, bodyLines_ok hwhole hpos hfinite, ?_, ?_⟩
    · rw [List.forall₂_map_right_iff, List.forall₂_same]
      exact fun x hx => literal_eq_ok (hfinite x hx)
    · rintro rfl
      rw [Text.chunks]
      rfl
    · exact isLaidOut_rowLines (by omega) hfinite
  · intro hnonpos
    have hnotPositive : perLine.isNotPositive = .ok true := by
      rw [Document.isNotPositive_of_wholeNumber hwhole, decide_eq_true hnonpos]
    have hrefused : ∀ literals : Except Fault (List String),
        layout perLine literals = .error (.setting (.valuesPerLine perLine.shown)) := by
      intro literals
      rw [layout, hnotPositive]
      rfl
    exact ⟨_, rfl, rfl, hrefused _, hrefused⟩

/-- Five values in lines of two: the last line is not full.  With a width of zero a value that is no
    number does no harm. -/
theorem bodyLines_layout_five :
    (∃ literals lines, bodyLines (List.replicate 5 .one) (.integer 2) = .ok lines ∧
      IsLaidOut 2 literals lines ∧ literals.length = 5 ∧ lines.length = 3) ∧
    ∃ fault : Fault, fault.isValueFault ∧ bodyLines [.nan] (.integer 0) = .error fault := by
  have htwo : (Document.integer 2).wholeNumber = .ok 2 := rfl
  have hzero : (Document.integer 0).wholeNumber = .ok 0 := rfl
  obtain ⟨literals, lines, hliterals, hlines, -, hlaid⟩ :=
    (bodyLines_layout htwo (List.replicate 5 .one)).1 (by decide) (by decide)
  obtain ⟨fault, hvalue, -, hfault, -⟩ := (bodyLines_layout hzero [.nan]).2 (by decide)
  have hcount : literals.length = 5 := hliterals.length_eq.symm
  have hlength : lines.length = 3 := by
    rw [hlaid.length_lines, hcount]
    rfl
  exact ⟨⟨literals, lines, hlines, hlaid, hcount, hlength⟩, fault, hvalue, hfault⟩

end DenseSketch.Table
