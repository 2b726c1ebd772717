import DenseSketch.Proofs.Number.Decimal
import DenseSketch.Proofs.Number.Rounding
import DenseSketch.Proofs.Table.Qualifier
import DenseSketch.Proofs.Text.Lines
import DenseSketch.Table.Basic
import Mathlib.Data.List.Nodup
import Mathlib.Data.List.Zip

/-!
# Names and rows of flash tables

That no two tables have one name, how the text of flash tables is read, and that the literals of its
rows are read back.
-/

/-!
## Names

The name of a table says which layer it belongs to and what it holds, so no name is used twice in a
network.
-/

namespace DenseSketch

namespace Table

theorem tableName_inj {i j : Nat} {role other : Role} :
    tableName i role = tableName j other ↔ i = j ∧ role = other := by
  constructor
  · intro h
    have hlist := congrArg String.toList h
    cases role <;> cases other <;> simp [tableName, suffixedName] at hlist <;> simp [hlist]
  · rintro ⟨rfl, rfl⟩
    rfl

end Table

/-- The names of the tables of a layer: weights first, then the bias if there is one. -/
def Layer.tableNames (index : Nat) (layer : Layer) : List String :=
  Table.tableName index .weights :: layer.bias.toList.map fun _ => Table.tableName index .bias

/-- The names of the tables of a network. -/
def Network.tableNames (net : Network) : List String :=
  net.layers.zipIdx.flatMap fun entry => entry.1.tableNames entry.2

namespace Layer

theorem mem_tableNames {index : Nat} {layer : Layer} {name : String}
    (hmem : name ∈ layer.tableNames index) : ∃ role, name = Table.tableName index role := by
  rcases List.mem_cons.1 hmem with rfl | hbias
  · exact ⟨.weights, rfl⟩
  · obtain ⟨_, _, rfl⟩ := List.mem_map.1 hbias
    exact ⟨.bias, rfl⟩

theorem nodup_tableNames (index : Nat) (layer : Layer) : (layer.tableNames index).Nodup := by
  cases hbias : layer.bias with
  | none => simp [tableNames, hbias]
  | some bias => simp [tableNames, hbias, Table.tableName_inj]

/-- Layers behind a number do not use the names of that number. -/
theorem index_le_of_mem {index : Nat} {layers : List Layer} {i : Nat} {role : Table.Role}
    (hmem : Table.tableName i role ∈
      (layers.zipIdx index).flatMap fun entry => entry.1.tableNames entry.2) : index ≤ i := by
  obtain ⟨⟨layer, k⟩, hentry, hname⟩ := List.mem_flatMap.1 hmem
  obtain ⟨_, heq⟩ := mem_tableNames hname
  have hk : i = k := (Table.tableName_inj.1 heq).1
  have := List.le_snd_of_mem_zipIdx hentry
  exact hk ▸ this

theorem nodup_flatMap_tableNames (index : Nat) (layers : List Layer) :
    ((layers.zipIdx index).flatMap fun entry => entry.1.tableNames entry.2).Nodup := by
  induction layers generalizing index with
  | nil => simp
  | cons layer layers ih =>
    rw [List.zipIdx_cons, List.flatMap_cons, List.nodup_append']
    refine ⟨nodup_tableNames index layer, ih (index + 1), ?_⟩
    intro name hhere hlater
    obtain ⟨role, rfl⟩ := mem_tableNames hhere
    have := index_le_of_mem hlater
    omega

end Layer

theorem Network.nodup_tableNames (net : Network) : net.tableNames.Nodup :=
  Layer.nodup_flatMap_tableNames 0 net.layers

end DenseSketch

/-!
## Reading flash tables

The text of flash tables is read back line by line, without any knowledge of how it was laid out.
Blank lines and comments say nothing.  A line that opens a declaration has nothing but a name, its
brackets and a qualifier in front of the brace.  What stands between the braces is one text, however
it is broken into lines, and its commas separate the values.
-/

namespace DenseSketch.Table

/-- A declared table: its name and the numbers that its literals stand for. -/
structure Declaration where
  name : String
  values : List ℚ
  deriving DecidableEq

/-- The number that a float literal stands for. -/
def readLiteral (cs : List Char) : Option ℚ :=
  match cs.splitOn 'f' with
  | ['-' :: magnitude, []] => (readDecimal magnitude).map (- ·)
  | [magnitude, []] => readDecimal magnitude
  | _ => none

/-- The numbers that commas separate; blanks may stand before a literal. -/
def readCells (cs : List Char) : Option (List ℚ) :=
  (cs.splitOn ',').mapM fun cell => readLiteral (cell.dropWhile (· == ' '))

/-- Does a line say nothing?  It is blank, or it is a comment. -/
def isSilent (line : List Char) : Bool :=
  line.all (· == ' ') || ['/', '/'].isPrefixOf line

/-- What a declaration begins with. -/
def opening : String := "const float "

/-- What the line that opens a declaration ends with. -/
def closing : String := " = \x7b"

/-- The name of the table that a line opens.  Behind the brackets it has a qualifier, and it depends
    on the reader which texts are taken for one. -/
def openedName? (accepts : List Char → Bool) (line : List Char) : Option String := do
  let rest ← line.dropPrefix? opening.toList
  let declarator ← rest.dropSuffix? closing.toList
  let name := declarator.takeWhile continuesWord
  let qualifier ← (declarator.dropWhile continuesWord).dropPrefix? "[]".toList
  if isWord name && accepts qualifier then some (String.ofList name) else none

/-- Reads lines.  Inside a declaration its name and what has been read of its body are at hand. -/
def readLines (accepts : List Char → Bool) :
    Option (String × List Char) → List (List Char) → Option (List Declaration)
  | none, [] => some []
  | some _, [] => none
  | none, line :: rest =>
    if isSilent line then readLines accepts none rest
    else do
      let name ← openedName? accepts line
      readLines accepts (some (name, [])) rest
  | some (name, body), line :: rest =>
    if isSilent line then readLines accepts (some (name, body)) rest
    else if line = "\x7d;".toList then do
      let values ← readCells body
      let more ← readLines accepts none rest
      return ⟨name, values⟩ :: more
    else readLines accepts (some (name, body ++ line)) rest

/-- Reads the declarations of a text. -/
def readWith (accepts : List Char → Bool) (text : String) : Option (List Declaration) :=
  readLines accepts none (text.toList.splitOn '\n')

/-- Reads the declarations of a text whose tables have any qualifiers. -/
def read (text : String) : Option (List Declaration) := readWith isQualifier text

/-- Takes what a board gives for its qualifier, whatever it is, and nothing else. -/
def isGiven (qualifier : Document) (cs : List Char) : Bool :=
  cs == (qualifierText qualifier).toList

/-!
## Float literals are read back

The literal of a finite value stands for the value rounded to six places, and it holds no character
that separates literals.
-/

/-- The literal of a value that has one. -/
def literalText (x : Datum) : String := String.ofList (literalStyle.text x ++ ['f'])

theorem literal_eq_ok {x : Datum} (hfinite : x.isFinite) : literal x = .ok (literalText x) := by
  simp [literal, hfinite, literalText]

/-! ### Characters -/

/-- Digits, the point and the sign: what a decimal is made of. -/
def IsDecimalChar (c : Char) : Prop := c.isDigit ∨ c = '.' ∨ c = '-'

theorem IsDecimalChar.ne {c d : Char} (hc : IsDecimalChar c)
    (hd : (d.isDigit || d == '.' || d == '-') = false := by decide) : c ≠ d := by
  rintro rfl
  rcases hc with hc | rfl | rfl
  · simp [hc] at hd
  · simp at hd
  · simp at hd

theorem isDecimalChar_of_mem_text {x : Datum} (hfinite : x.isFinite) {c : Char}
    (hc : c ∈ literalStyle.text x) : IsDecimalChar c := by
  cases x with
  | nan => simp [Datum.isFinite] at hfinite
  | infinite s => simp [Datum.isFinite] at hfinite
  | finite s m e =>
    simp only [FixedStyle.text] at hc
    split at hc
    · rcases List.mem_cons.1 hc with rfl | hc
      · exact .inr (.inr rfl)
      · exact (isDigit_or_point_of_mem_placedText hc).imp_right .inl
    · exact (isDigit_or_point_of_mem_placedText hc).imp_right .inl

theorem toList_literalText (x : Datum) : (literalText x).toList = literalStyle.text x ++ ['f'] :=
  String.toList_ofList

/-! ### Values -/

theorem readLiteral_unsigned {cs : List Char} (hsuffix : 'f' ∉ cs) (hsign : '-' ∉ cs) :
    readLiteral (cs ++ ['f']) = readDecimal cs := by
  have hsplit : (cs ++ ['f']).splitOn 'f' = [cs, []] := by
    rw [List.splitOn_append_cons_self_of_not_mem hsuffix, List.splitOn_nil]
  rw [readLiteral, hsplit]
  split
  · simp_all
  · simp_all
  · simp_all

theorem readLiteral_signed {cs : List Char} (hsuffix : 'f' ∉ cs) :
    readLiteral ('-' :: cs ++ ['f']) = (readDecimal cs).map (- ·) := by
  have hsplit : ('-' :: cs ++ ['f']).splitOn 'f' = ['-' :: cs, []] := by
    rw [List.splitOn_append_cons_self_of_not_mem (by simp [hsuffix]), List.splitOn_nil]
  simp only [readLiteral, hsplit]

theorem text_finite (s : Bool) (m : Nat) (e : Int) :
    literalStyle.text (.finite s m e) =
      if s && literalStyle.units m e != 0 then '-' :: placedText 6 (literalStyle.units m e)
      else placedText 6 (literalStyle.units m e) := by
  have hplaces : literalStyle.places = 6 := rfl
  have hzero : literalStyle.signedZero = false := rfl
  simp only [FixedStyle.text, hplaces, hzero, Bool.false_or]

theorem roundHalfAway_finite (s : Bool) (m : Nat) (e : Int) :
    roundHalfAway 6 (Datum.toRat (.finite s m e)) =
      (if s then -1 else 1) * ((literalStyle.units m e : ℚ) / 10 ^ 6) := by
  unfold literalStyle
  exact FixedStyle.roundHalfAway_toRat 6 false s m e

theorem readLiteral_literalText {x : Datum} (hfinite : x.isFinite) :
    readLiteral (literalText x).toList = some (roundHalfAway 6 x.toRat) := by
  cases x with
  | nan => simp [Datum.isFinite] at hfinite
  | infinite s => simp [Datum.isFinite] at hfinite
  | finite s m e =>
    have hsuffix : 'f' ∉ placedText 6 (literalStyle.units m e) := fun h =>
      (isDigit_or_point_of_mem_placedText h).elim (by decide) (by decide)
    have hsign : '-' ∉ placedText 6 (literalStyle.units m e) := fun h =>
      (isDigit_or_point_of_mem_placedText h).elim (by decide) (by decide)
    rw [toList_literalText, roundHalfAway_finite]
    by_cases hs : (s && literalStyle.units m e != 0) = true
    · have hnegative : s = true := (Bool.and_eq_true_iff.1 hs).1
      rw [text_finite, if_pos hs, readLiteral_signed hsuffix, readDecimal_placedText]
      simp [hnegative]
    · rw [text_finite, if_neg hs, readLiteral_unsigned hsuffix hsign, readDecimal_placedText]
      cases s with
      | false => simp
      | true =>
        -- A negative value that is rounded to zero has no sign.
        have hzero : literalStyle.units m e = 0 := by simpa using hs
        simp [hzero]

end DenseSketch.Table

/-!
## Rows of literals are read back

However many literals stand in a row, the commas of the rows put together separate the literals of
the whole table.
-/

namespace DenseSketch

namespace Table

/-- The number that a literal stands for: the value rounded to six places. -/
def literalValue (x : Datum) : ℚ := roundHalfAway 6 x.toRat

/-! ### One literal -/

theorem not_mem_literalText {x : Datum} (hfinite : x.isFinite) {c : Char} (hsuffix : 'f' ≠ c)
    (hc : (c.isDigit || c == '.' || c == '-') = false := by decide) :
    c ∉ (literalText x).toList := by
  rw [toList_literalText, List.mem_append, List.mem_singleton]
  rintro (hmem | rfl)
  · exact (isDecimalChar_of_mem_text hfinite hmem).ne hc rfl
  · exact hsuffix rfl

theorem dropWhile_blanks (k : Nat) {cs : List Char} (hblank : ' ' ∉ cs) :
    (List.replicate k ' ' ++ cs).dropWhile (· == ' ') = cs := by
  rw [List.dropWhile_append_of_pos (by simp +contextual [List.mem_replicate])]
  cases cs with
  | nil => rfl
  | cons c cs =>
    have hc : (c == ' ') = false := by
      rw [beq_eq_false_iff_ne]
      rintro rfl
      simp at hblank
    rw [List.dropWhile_cons_of_neg (by simp [hc])]

theorem comma_not_mem_cell (k : Nat) {x : Datum} (hfinite : x.isFinite) :
    ',' ∉ List.replicate k ' ' ++ (literalText x).toList := by
  rw [List.mem_append]
  rintro (hblank | hmem)
  · simp [List.mem_replicate] at hblank
  · exact not_mem_literalText hfinite (by decide) (by decide) hmem

theorem readCells_literal (k : Nat) {x : Datum} (hfinite : x.isFinite) :
    readCells (List.replicate k ' ' ++ (literalText x).toList) = some [literalValue x] := by
  rw [readCells, List.splitOn_eq_singleton (comma_not_mem_cell k hfinite), List.mapM_cons,
    dropWhile_blanks k (not_mem_literalText hfinite (by decide) (by decide)),
    readLiteral_literalText hfinite]
  rfl

theorem readCells_literal_append (k : Nat) {x : Datum} (hfinite : x.isFinite) (rest : List Char) :
    readCells (List.replicate k ' ' ++ (literalText x).toList ++ ',' :: rest) =
      (readCells rest).map (literalValue x :: ·) := by
  rw [readCells, List.splitOn_append_cons_self_of_not_mem (comma_not_mem_cell k hfinite),
    List.mapM_cons, dropWhile_blanks k (not_mem_literalText hfinite (by decide) (by decide)),
    readLiteral_literalText hfinite, readCells]
  cases (rest.splitOn ',').mapM fun cell => readLiteral (cell.dropWhile (· == ' ')) <;> rfl

/-! ### One row -/

/-- The literals of a row, without what stands around them. -/
def rowText (row : List Datum) : List Char := (commaSeparated (row.map literalText)).toList

theorem rowText_cons_cons (x y : Datum) (row : List Datum) :
    rowText (x :: y :: row) = (literalText x).toList ++ ',' :: (' ' :: rowText (y :: row)) := by
  simp [rowText, commaSeparated, String.intercalate_cons_cons]

/-- What a row is read as follows from what its last literal is read as, together with all that
    stands behind it. -/
theorem readCells_rowText (tail : List Char) (more : Option (List ℚ))
    (hlast : ∀ k x, x.isFinite →
      readCells (List.replicate k ' ' ++ (literalText x).toList ++ tail) =
        more.map (literalValue x :: ·))
    (k : Nat) {row : List Datum} (hrow : row ≠ []) (hfinite : ∀ x ∈ row, x.isFinite) :
    readCells (List.replicate k ' ' ++ rowText row ++ tail) =
      more.map (row.map literalValue ++ ·) := by
  induction row generalizing k with
  | nil => exact absurd rfl hrow
  | cons x row ih =>
    have hx : x.isFinite := hfinite x (by simp)
    cases row with
    | nil => simpa [rowText, commaSeparated] using hlast k x hx
    | cons y row =>
      have htail := ih 1 (by simp) fun z hz => hfinite z (List.mem_cons_of_mem x hz)
      have hsplit : List.replicate k ' ' ++ rowText (x :: y :: row) ++ tail =
          List.replicate k ' ' ++ (literalText x).toList ++
            ',' :: (List.replicate 1 ' ' ++ rowText (y :: row) ++ tail) := by
        simp [rowText_cons_cons]
      rw [hsplit, readCells_literal_append k hx, htail, Option.map_map]
      rfl

/-! ### All rows -/

/-- The rows of a table as one text. -/
def rowsText (rows : List (List Datum)) : List Char :=
  (rowLines (rows.map (List.map literalText))).flatMap String.toList

theorem readCells_rowsText {rows : List (List Datum)} (hrows : rows ≠ [])
    (hrow : ∀ row ∈ rows, row ≠ []) (hfinite : ∀ row ∈ rows, ∀ x ∈ row, x.isFinite) :
    readCells (rowsText rows) = some (rows.flatten.map literalValue) := by
  induction rows with
  | nil => exact absurd rfl hrows
  | cons row rows ih =>
    cases rows with
    | nil =>
      have hlast := readCells_rowText [] (some [])
        (fun k x hx => by simpa using readCells_literal k hx) 2 (hrow row (by simp))
        (hfinite row (by simp))
      simpa [rowsText, rowLines, rowText] using hlast
    | cons next rows =>
      have htail := ih (by simp) (fun r hr => hrow r (List.mem_cons_of_mem row hr))
        fun r hr => hfinite r (List.mem_cons_of_mem row hr)
      have hhead := readCells_rowText (',' :: rowsText (next :: rows)) _
        (fun k x hx => readCells_literal_append k hx _) 2 (hrow row (by simp))
        (hfinite row (by simp))
      rw [htail] at hhead
      have hsplit : rowsText (row :: next :: rows) =
          List.replicate 2 ' ' ++ rowText row ++ ',' :: rowsText (next :: rows) := by
        simp [rowsText, rowLines, rowText]
      rw [hsplit, hhead]
      simp

end Table

end DenseSketch
