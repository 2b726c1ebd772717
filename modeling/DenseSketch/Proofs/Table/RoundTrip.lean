import DenseSketch.Proofs.Document.Values
import DenseSketch.Proofs.List.Monadic
import DenseSketch.Proofs.Table.Rows

/-!
# Flash tables are read back

The text of the tables of a network is read as one declaration for each table, in order, with the
values of the network rounded to six places.  The text is that of `serialize_weight_tables` in
SPEC_FULL, section 4.4.
-/

namespace DenseSketch

namespace Table

/-- The lines are read as the declarations, whatever stands behind them, and none of them is a
    directive.  They take up some texts; unless one of these has a line break, they have none. -/
structure IsRead (accepts : List Char → Bool) (inserted lines : List String)
    (declarations : List Declaration) : Prop where
  no_break : (∀ text ∈ inserted, '\n' ∉ text.toList) → ∀ line ∈ lines, '\n' ∉ line.toList
  no_directive : ∀ line ∈ lines, Text.firstSign line.toList ≠ some '#'
  read_append : ∀ rest, readLines accepts none (lines.map String.toList ++ rest) =
    (readLines accepts none rest).map (declarations ++ ·)

namespace IsRead

variable {accepts : List Char → Bool} {inserted lines more : List String}
  {declarations others : List Declaration}

theorem append (hlines : IsRead accepts inserted lines declarations)
    (hmore : IsRead accepts inserted more others) :
    IsRead accepts inserted (lines ++ more) (declarations ++ others) := by
  constructor
  · intro hinserted line hline
    rcases List.mem_append.1 hline with hline | hline
    · exact hlines.no_break hinserted line hline
    · exact hmore.no_break hinserted line hline
  · intro line hline
    rcases List.mem_append.1 hline with hline | hline
    · exact hlines.no_directive line hline
    · exact hmore.no_directive line hline
  · intro rest
    rw [List.map_append, List.append_assoc, hlines.read_append, hmore.read_append, Option.map_map]
    congr 1
    funext found
    simp

theorem silent {line : String}
    (hbreak : (∀ text ∈ inserted, '\n' ∉ text.toList) → '\n' ∉ line.toList)
    (hdirective : Text.firstSign line.toList ≠ some '#') (hsilent : isSilent line.toList) :
    IsRead accepts inserted [line] [] := by
  constructor
  · simpa using hbreak
  · simpa using hdirective
  · intro rest
    simp [readLines, hsilent]

theorem blank (accepts : List Char → Bool) (inserted : List String) :
    IsRead accepts inserted [""] [] :=
  silent (fun _ => by decide) (by decide) (by decide)

/-- Lines without line breaks are read from their text. -/
theorem readWith_unlines (hlines : IsRead accepts inserted lines declarations)
    (hinserted : ∀ text ∈ inserted, '\n' ∉ text.toList) :
    readWith accepts (Text.unlines lines) = some declarations := by
  rw [readWith, Text.splitOn_unlines (hlines.no_break hinserted), hlines.read_append]
  simp [readLines, isSilent]

end IsRead

/-! ### One table -/

theorem isSilent_cons {c : Char} {cs : List Char} (hblank : c ≠ ' ') (hcomment : c ≠ '/') :
    isSilent (c :: cs) = false := by
  simp [isSilent, List.isPrefixOf, hblank, hcomment.symm]

/-- Inside a declaration lines are put together until it is closed. -/
theorem readLines_body {accepts : List Char → Bool} {name : String} {lines : List (List Char)}
    (hlines : ∀ line ∈ lines, isSilent line = false ∧ line ≠ "\x7d;".toList)
    (body : List Char) (rest : List (List Char)) :
    readLines accepts (some (name, body)) (lines ++ rest) =
      readLines accepts (some (name, body ++ lines.flatten)) rest := by
  induction lines generalizing body with
  | nil => simp
  | cons line lines ih =>
    obtain ⟨hsilent, hclose⟩ := hlines line (by simp)
    rw [List.cons_append, readLines, if_neg (by simp [hsilent]), if_neg hclose,
      ih fun l hl => hlines l (List.mem_cons_of_mem line hl)]
    simp

theorem mem_rowLines {rows : List (List Datum)} {line : String}
    (hline : line ∈ rowLines (rows.map (List.map literalText))) :
    ∃ row ∈ rows, ∃ suffix, line.toList = ' ' :: ' ' :: rowText row ++ suffix ∧
      (suffix = [] ∨ suffix = [',']) := by
  induction rows with
  | nil => simp [rowLines] at hline
  | cons row rows ih =>
    cases rows with
    | nil =>
      simp only [List.map_cons, List.map_nil, rowLines, List.mem_singleton] at hline
      exact ⟨row, by simp, [], by simp [hline, rowText], .inl rfl⟩
    | cons next rows =>
      simp only [List.map_cons, rowLines, List.mem_cons] at hline
      rcases hline with rfl | hline
      · exact ⟨row, by simp, [','], by simp [rowText], .inr rfl⟩
      · obtain ⟨found, hfound, hrest⟩ := ih (by simpa [rowLines] using hline)
        exact ⟨found, List.mem_cons_of_mem row hfound, hrest⟩

theorem mem_rowText {row : List Datum} {c : Char} (hc : c ∈ rowText row) :
    (∃ x ∈ row, c ∈ (literalText x).toList) ∨ c = ',' ∨ c = ' ' := by
  induction row with
  | nil => simp [rowText, commaSeparated] at hc
  | cons x row ih =>
    cases row with
    | nil => exact .inl ⟨x, by simp, by simpa [rowText, commaSeparated] using hc⟩
    | cons y row =>
      rw [rowText_cons_cons, List.mem_append, List.mem_cons, List.mem_cons] at hc
      rcases hc with hc | rfl | rfl | hc
      · exact .inl ⟨x, by simp, hc⟩
      · exact .inr (.inl rfl)
      · exact .inr (.inr rfl)
      · rcases ih hc with ⟨z, hz, hmem⟩ | hseparator
        · exact .inl ⟨z, List.mem_cons_of_mem x hz, hmem⟩
        · exact .inr hseparator

theorem suffix_mem_rowText {row : List Datum} (hrow : row ≠ []) : 'f' ∈ rowText row := by
  cases row with
  | nil => exact absurd rfl hrow
  | cons x row =>
    cases row with
    | nil => simp [rowText, commaSeparated, toList_literalText]
    | cons y row => simp [rowText_cons_cons, toList_literalText]

/-- A line of a body has no line break, is no directive, says something and does not close the
    declaration. -/
theorem rowLines_spec {rows : List (List Datum)} (hrow : ∀ row ∈ rows, row ≠ [])
    (hfinite : ∀ row ∈ rows, ∀ x ∈ row, x.isFinite) {line : String}
    (hline : line ∈ rowLines (rows.map (List.map literalText))) :
    '\n' ∉ line.toList ∧ Text.firstSign line.toList ≠ some '#' ∧ isSilent line.toList = false ∧
      line.toList ≠ "\x7d;".toList := by
  obtain ⟨row, hmem, suffix, htext, hsuffix⟩ := mem_rowLines hline
  rw [htext]
  have hother : ∀ c : Char, c ≠ ' ' → c ≠ ',' → 'f' ≠ c →
      (c.isDigit || c == '.' || c == '-') = false → c ∉ ' ' :: ' ' :: rowText row ++ suffix := by
    intro c hblank hcomma hletter hdecimal hc
    have hrowText : c ∈ rowText row := by
      rcases hsuffix with rfl | rfl <;> simpa [hblank, hcomma] using hc
    rcases mem_rowText hrowText with ⟨x, hx, hmem'⟩ | hseparator
    · exact not_mem_literalText (hfinite row hmem x hx) hletter hdecimal hmem'
    · exact hseparator.elim hcomma hblank
  refine ⟨?_, ?_, ?_, by simp⟩
  · exact hother '\n' (by decide) (by decide) (by decide) (by decide)
  · intro hdirective
    exact hother '#' (by decide) (by decide) (by decide) (by decide)
      (Text.mem_of_firstSign hdirective)
  · have hletter := suffix_mem_rowText (hrow row hmem)
    simp only [isSilent, List.cons_append, List.all_cons, List.all_append, Bool.or_eq_false_iff]
    refine ⟨?_, by simp [List.isPrefixOf]⟩
    have hblank : (rowText row).all (· == ' ') = false :=
      List.all_eq_false.2 ⟨'f', hletter, by decide⟩
    simp [hblank]

/-- The line that opens the declaration of a table. -/
def openingLine (name : String) (qualifier : Document) : String :=
  opening ++ name ++ "[]" ++ qualifierText qualifier ++ closing

theorem openingLine_eq (name : String) (qualifier : Document) :
    openingLine name qualifier = opening ++ name ++ "[]" ++ qualifierText qualifier ++ closing :=
  rfl

theorem tableLines_ok (name : String) (lines : List String) (qualifier : Document) :
    tableLines name (.ok lines) qualifier =
      .ok (openingLine name qualifier :: lines ++ ["\x7d;"]) :=
  rfl

/-- An opening line goes on with more than blanks, and it begins with no sign. -/
theorem toList_openingLine (name : String) (qualifier : Document) :
    (openingLine name qualifier).toList = 'c' :: ("onst float ".toList ++
      (name.toList ++ ("[]".toList ++ ((qualifierText qualifier).toList ++ closing.toList)))) := by
  simp [openingLine_eq, opening]

theorem isSilent_openingLine (name : String) (qualifier : Document) :
    isSilent (openingLine name qualifier).toList = false := by
  rw [toList_openingLine, isSilent_cons (by decide) (by decide)]

theorem no_break_openingLine {name : String} {qualifier : Document} (hname : '\n' ∉ name.toList)
    (hqualifier : '\n' ∉ (qualifierText qualifier).toList) :
    '\n' ∉ (openingLine name qualifier).toList := by
  simp [openingLine_eq, opening, closing, hname, hqualifier]

/-- The line opens the table of its name, for a reader that takes what stands behind the brackets
    for a qualifier. -/
theorem openedName?_openingLine {accepts : List Char → Bool} {name : String}
    {qualifier : Document} (hname : isWord name.toList)
    (haccepts : accepts (qualifierText qualifier).toList) :
    openedName? accepts (openingLine name qualifier).toList = some name := by
  have hletters : ∀ c ∈ name.toList, continuesWord c = true := by
    rw [isWord, Bool.and_eq_true, List.all_eq_true] at hname
    exact hname.2
  have hopening : (openingLine name qualifier).toList.dropPrefix? opening.toList =
      some (name.toList ++ '[' :: ']' :: (qualifierText qualifier).toList ++ closing.toList) :=
    List.dropPrefix?_eq_some_iff.2 ⟨_, by simp [openingLine_eq], beq_self_eq_true _⟩
  have hclosing : (name.toList ++ '[' :: ']' :: (qualifierText qualifier).toList ++
      closing.toList).dropSuffix? closing.toList =
        some (name.toList ++ '[' :: ']' :: (qualifierText qualifier).toList) :=
    List.dropSuffix?_eq_some_iff.2 ⟨_, rfl, beq_self_eq_true _⟩
  have htake : (name.toList ++ '[' :: ']' :: (qualifierText qualifier).toList).takeWhile
      continuesWord = name.toList := by
    rw [List.takeWhile_append_of_pos hletters, List.takeWhile_cons_of_neg (by decide),
      List.append_nil]
  have hdrop : (name.toList ++ '[' :: ']' :: (qualifierText qualifier).toList).dropWhile
      continuesWord = "[]".toList ++ (qualifierText qualifier).toList := by
    rw [List.dropWhile_append_of_pos hletters, List.dropWhile_cons_of_neg (by decide)]
    rfl
  have hbrackets : ("[]".toList ++ (qualifierText qualifier).toList).dropPrefix? "[]".toList =
      some (qualifierText qualifier).toList :=
    List.dropPrefix?_eq_some_iff.2 ⟨_, rfl, beq_self_eq_true _⟩
  simp only [openedName?, hopening, hclosing, htake, hdrop, hbrackets, Option.bind_eq_bind,
    Option.bind_some, hname, haccepts, Bool.and_self, if_true, String.ofList_toList]

theorem ne_of_mem_tableName {index : Nat} {role : Role} {c d : Char}
    (hc : c ∈ (tableName index role).toList)
    (hd : (d.isDigit || "weights_bias_dense_".toList.contains d) = false := by decide) : c ≠ d := by
  rintro rfl
  rw [Bool.or_eq_false_iff] at hd
  have hdigit := not_mem_toDigits hd.1 index
  cases role <;> simp [tableName, suffixedName, hdigit] at hc hd <;> simp_all

theorem isWord_tableName (index : Nat) (role : Role) : isWord (tableName index role).toList := by
  have hdigits : (Nat.toDigits 10 index).all continuesWord = true := by
    rw [List.all_eq_true]
    intro c hc
    simp [continuesWord, Char.isAlphanum, isDigit_of_mem_toDigits hc]
  have hword : ∀ front : String, isWord front.toList → isWord (front ++ toString index).toList := by
    intro front hfront
    simpa using isWord_append hfront hdigits
  cases role with
  | weights => exact hword "weights_dense_" (by decide)
  | bias => exact hword "bias_dense_" (by decide)

section Lines

variable {accepts : List Char → Bool} {perLine qualifier : Document} {n : Int}
  {values : List Datum}

theorem bodyLines_ok (hwhole : perLine.wholeNumber = .ok n) (hpos : 0 < n)
    (hfinite : ∀ x ∈ values, x.isFinite) :
    bodyLines values perLine =
      .ok (rowLines ((Text.chunks n.toNat values).map (List.map literalText))) := by
  have hliterals : values.mapM literal = .ok (values.map literalText) :=
    mapM_eq_pure_map fun x hx => literal_eq_ok (hfinite x hx)
  have hpositive : perLine.isNotPositive = .ok false := by
    rw [Document.isNotPositive_of_wholeNumber hwhole, decide_eq_false (Int.not_le.2 hpos)]
  rw [bodyLines, layout, hliterals, hpositive, hwhole, ← Text.map_chunks]
  rfl

/-- A table is read as one declaration. -/
theorem isRead_tableLines (index : Nat) (role : Role) {inserted : List String}
    (hwhole : perLine.wholeNumber = .ok n) (hpos : 0 < n)
    (haccepts : accepts (qualifierText qualifier).toList)
    (hqualifier : qualifierText qualifier ∈ inserted)
    (hvalues : values ≠ []) (hfinite : ∀ x ∈ values, x.isFinite) :
    ∃ lines, tableLines (tableName index role) (bodyLines values perLine) qualifier = .ok lines ∧
      IsRead accepts inserted lines [⟨tableName index role, values.map literalValue⟩] := by
  let rows := Text.chunks n.toNat values
  have hflatten : rows.flatten = values := Text.flatten_chunks _ _
  have hrow : ∀ row ∈ rows, row ≠ [] := fun row => Text.ne_nil_of_mem_chunks
  have hrows : rows ≠ [] := by
    intro h
    rw [h] at hflatten
    exact hvalues hflatten.symm
  have hrowFinite : ∀ row ∈ rows, ∀ x ∈ row, x.isFinite := fun row hmem x hx =>
    hfinite x (hflatten ▸ List.mem_flatten.2 ⟨row, hmem, hx⟩)
  rw [bodyLines_ok hwhole hpos hfinite, tableLines_ok]
  refine ⟨_, rfl, ?_, ?_, ?_⟩
  · intro hinserted line hline
    rw [List.cons_append, List.mem_cons, List.mem_append, List.mem_singleton] at hline
    rcases hline with rfl | hbody | rfl
    · exact no_break_openingLine (fun h => ne_of_mem_tableName h (by decide) rfl)
        (hinserted _ hqualifier)
    · exact (rowLines_spec hrow hrowFinite hbody).1
    · decide
  · intro line hline
    rw [List.cons_append, List.mem_cons, List.mem_append, List.mem_singleton] at hline
    rcases hline with rfl | hbody | rfl
    · rw [toList_openingLine, Text.firstSign_cons (by decide)]
      decide
    · exact (rowLines_spec hrow hrowFinite hbody).2.1
    · decide
  · intro rest
    have hbody : ∀ line ∈ (rowLines (rows.map (List.map literalText))).map String.toList,
        isSilent line = false ∧ line ≠ "\x7d;".toList := by
      intro line hline
      obtain ⟨text, htext, rfl⟩ := List.mem_map.1 hline
      exact (rowLines_spec hrow hrowFinite htext).2.2
    have hname : openedName? accepts (openingLine (tableName index role) qualifier).toList =
        some (tableName index role) :=
      openedName?_openingLine (isWord_tableName index role) haccepts
    have hcells : readCells ((rowLines (rows.map (List.map literalText))).map
        String.toList).flatten = some (values.map literalValue) := by
      rw [← List.flatMap_def, ← rowsText, readCells_rowsText hrows hrow hrowFinite, hflatten]
    rw [List.cons_append, List.map_cons, List.map_append, List.cons_append, List.append_assoc,
      readLines, if_neg (by simp [isSilent_openingLine]), hname]
    simp only [Option.bind_eq_bind, Option.bind_some]
    rw [readLines_body hbody, List.nil_append, List.map_singleton, List.singleton_append, readLines,
      if_neg (by decide), if_pos rfl, hcells]
    simp only [Option.bind_eq_bind, Option.bind_some]
    cases readLines accepts none rest <;> rfl

end Lines

end Table

/-! ### Layers -/

/-- The tables of a layer as they are declared: the weights row by row, then the bias if there is
    one. -/
def Layer.declarations (index : Nat) (layer : Layer) : List Table.Declaration :=
  ⟨Table.tableName index .weights, layer.rows.flatten.map Table.literalValue⟩ ::
    layer.bias.toList.map fun bias =>
      ⟨Table.tableName index .bias, bias.map Table.literalValue⟩

/-- The tables of a network as they are declared. -/
def Network.declarations (net : Network) : List Table.Declaration :=
  net.layers.zipIdx.flatMap fun entry => entry.1.declarations entry.2

theorem Block.flatten_rowsOf {α : Type} {width count : Nat} {data : List α}
    (hlength : data.length = count * width) : (rowsOf width count data).flatten = data := by
  induction count generalizing data with
  | zero =>
    rw [Nat.zero_mul] at hlength
    simp [rowsOf, List.eq_nil_of_length_eq_zero hlength]
  | succ count ih =>
    rw [Nat.succ_mul] at hlength
    rw [rowsOf, List.flatten_cons, ih (by simp [hlength]), List.take_append_drop]

theorem Layer.flatten_rows (layer : Layer) : layer.rows.flatten = layer.weights :=
  Block.flatten_rowsOf layer.weights_length

namespace Table

variable {accepts : List Char → Bool} {perLine qualifier : Document} {n : Int}

theorem layerComment_eq (suffix : String) (layer : Layer) :
    layerComment suffix layer =
      "// Layer " ++ suffix ++ ": " ++ layer.name.shown ++ " (" ++ toString layer.inputs ++
        " -> " ++ toString layer.outputs ++ ")" :=
  rfl

theorem isRead_layerComment (index : Nat) {layer : Layer} {inserted : List String}
    (hname : layer.name.shown ∈ inserted) :
    IsRead accepts inserted [layerComment (toString index) layer] [] := by
  apply IsRead.silent
  · intro hinserted
    simp [layerComment_eq, hinserted _ hname, break_not_mem_toDigits]
  · simp [layerComment_eq, Text.firstSign_cons]
  · simp [layerComment_eq, isSilent]

theorem isRead_layerLines (index : Nat) {layer : Layer} {inserted : List String}
    (hwhole : perLine.wholeNumber = .ok n) (hpos : 0 < n)
    (haccepts : accepts (qualifierText qualifier).toList)
    (hqualifier : qualifierText qualifier ∈ inserted) (hname : layer.name.shown ∈ inserted)
    (hfinite : ∀ x ∈ layer.parameters, x.isFinite) :
    ∃ lines, layerLines (toString index) layer perLine qualifier = .ok lines ∧
      IsRead accepts inserted lines (layer.declarations index) := by
  have hcomment : IsRead accepts inserted [layerComment (toString index) layer] [] :=
    isRead_layerComment index hname
  have hnonempty : layer.weights ≠ [] := by
    rw [← List.length_pos_iff, layer.weights_length]
    exact Nat.mul_pos layer.inputs_pos layer.outputs_pos
  obtain ⟨weights, hweights, hreadsWeights⟩ := isRead_tableLines index .weights hwhole hpos
    haccepts hqualifier hnonempty fun x hx => hfinite x (List.mem_append_left _ hx)
  have hhead := hcomment.append hreadsWeights
  rw [tableName] at hweights
  cases hbias : layer.bias with
  | none =>
    refine ⟨layerComment (toString index) layer :: weights, ?_, ?_⟩
    · simp only [layerLines, hweights, hbias, bind, Except.bind, pure, Except.pure]
    · simpa [Layer.declarations, hbias, layer.flatten_rows] using hhead
  | some bias =>
    have hbiasNonempty : bias ≠ [] := by
      rw [← List.length_pos_iff, layer.bias_length bias (by simp [hbias])]
      exact layer.outputs_pos
    have hbiasFinite : ∀ x ∈ bias, x.isFinite := fun x hx =>
      hfinite x (List.mem_append_right _ (by simpa [hbias] using hx))
    obtain ⟨more, hmore, hreadsBias⟩ := isRead_tableLines index .bias hwhole hpos haccepts
      hqualifier hbiasNonempty hbiasFinite
    rw [tableName] at hmore
    refine ⟨layerComment (toString index) layer :: weights ++ "" :: more, ?_, ?_⟩
    · simp only [layerLines, hweights, hbias, hmore, bind, Except.bind, pure, Except.pure]
    · simpa [Layer.declarations, hbias, layer.flatten_rows]
        using hhead.append ((IsRead.blank accepts inserted).append hreadsBias)

theorem isRead_layersLines {inserted : List String} (hwhole : perLine.wholeNumber = .ok n)
    (hpos : 0 < n) (haccepts : accepts (qualifierText qualifier).toList)
    (hqualifier : qualifierText qualifier ∈ inserted) (index : Nat) {layers : List Layer}
    (hlayers : ∀ layer ∈ layers, layer.name.shown ∈ inserted ∧
      ∀ x ∈ layer.parameters, x.isFinite) :
    ∃ lines, layersLines perLine qualifier index layers = .ok lines ∧
      IsRead accepts inserted lines
        ((layers.zipIdx index).flatMap fun entry => entry.1.declarations entry.2) := by
  induction layers generalizing index with
  | nil => exact ⟨[], rfl, by simp, by simp, fun rest => by simp⟩
  | cons layer layers ih =>
    obtain ⟨hname, hfinite⟩ := hlayers layer (by simp)
    obtain ⟨here, hhere, hreads⟩ := isRead_layerLines index hwhole hpos haccepts
      hqualifier hname hfinite
    cases layers with
    | nil => exact ⟨here, hhere, by simpa using hreads⟩
    | cons next layers =>
      obtain ⟨more, hmore, hreadsMore⟩ := ih (index + 1) fun l hl =>
        hlayers l (List.mem_cons_of_mem layer hl)
      refine ⟨here ++ "" :: more, ?_, ?_⟩
      · simp only [layersLines, hhere, hmore, bind, Except.bind, pure, Except.pure]
      · simpa using hreads.append ((IsRead.blank accepts inserted).append hreadsMore)

/-- The texts that the tables of a network take up. -/
def insertedTexts (net : Network) (qualifier : Document) : List String :=
  qualifierText qualifier :: net.layers.map fun layer => layer.name.shown

theorem no_break_insertedTexts {net : Network}
    (hqualifier : '\n' ∉ (qualifierText qualifier).toList)
    (hnames : ∀ layer ∈ net.layers, '\n' ∉ layer.name.shown.toList) :
    ∀ text ∈ insertedTexts net qualifier, '\n' ∉ text.toList := by
  simp only [insertedTexts, List.forall_mem_cons, List.forall_mem_map]
  exact ⟨hqualifier, hnames⟩

/-- The tables of a network are read as they are declared, by every reader that takes what the board
    gives for a qualifier. -/
theorem isRead_networkLines {net : Network} (qualifier : Document)
    (hwhole : perLine.wholeNumber = .ok n) (hpos : 0 < n)
    (hfinite : ∀ layer ∈ net.layers, ∀ x ∈ layer.parameters, x.isFinite) :
    ∃ lines, networkLines net perLine qualifier = .ok lines ∧
      ∀ accepts : List Char → Bool, accepts (qualifierText qualifier).toList →
        IsRead accepts (insertedTexts net qualifier) lines net.declarations := by
  have hlayers : ∀ accepts : List Char → Bool, accepts (qualifierText qualifier).toList →
      ∃ lines, networkLines net perLine qualifier = .ok lines ∧
        IsRead accepts (insertedTexts net qualifier) lines net.declarations :=
    fun accepts haccepts => isRead_layersLines hwhole hpos haccepts List.mem_cons_self 0
      fun layer hlayer =>
        ⟨List.mem_cons_of_mem _ (List.mem_map_of_mem hlayer), hfinite layer hlayer⟩
  obtain ⟨lines, hlines, -⟩ := hlayers (fun _ => true) rfl
  refine ⟨lines, hlines, fun accepts haccepts => ?_⟩
  obtain ⟨others, hothers, hread⟩ := hlayers accepts haccepts
  cases Except.ok.inj (hlines.symm.trans hothers)
  exact hread

end Table

end DenseSketch
