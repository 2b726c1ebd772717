import DenseSketch.Proofs.Project.ForwardPass
import DenseSketch.Proofs.Project.LayerNames
import DenseSketch.Proofs.Text.StringLiteral

/-!
# Labels in the files

The output labels stand in the header as string literals, and in a comment at the top of the sketch.
They are written there as they are.  Labels that have been accepted have no quote, no backslash and
no line break, so the literals mean the labels, and the comment is one line.
-/

namespace DenseSketch

open Text StringLiteral

/-! ### The table of labels -/

namespace Header

/-- The labels of a header: what stands between the quotes of the literals in the initializer of the
    table, where it is declared first. -/
def labels? (header : String) : Option (List String) := do
  let (_, initializer) ← cut? declaration.toList header.toList
  let labels ← literals? .before initializer
  return labels.map String.ofList

/-- What the number of outputs is defined as where the table is declared. -/
def labelCount? (header : String) : Option Nat := do
  let (before, _) ← cut? declaration.toList header.toList
  sizeOf? (String.ofList before) Plan.outputSymbol

theorem literals?_labelLines {labels : List String} (hnonempty : labels ≠ [])
    (hquotable : ∀ label ∈ labels, IsQuotable label.toList) (rest : List Char) :
    literals? .before ((unlines (labelLines labels)).toList ++ '\x7d' :: rest) =
      some (labels.map String.toList) := by
  -- The induction is on the lines: behind the last literal there is no comma.
  fun_induction labelLines labels with
  | case1 => exact absurd rfl hnonempty
  | case2 label =>
    have hlabel := literals?_inside (hquotable label List.mem_cons_self) []
    simp [literals?, hlabel]
  | case3 label more hmore ih =>
    obtain ⟨hfirst, hothers⟩ := List.forall_mem_cons.1 hquotable
    have hlabel := literals?_inside hfirst []
    have hrest := ih hmore hothers
    simp [literals?, hlabel, hrest]

/-- The bracket of the table does not stand in front of it. -/
theorem bracket_not_mem_preamble {p : Project} {d : Draft} (hbanner : p.banner = none)
    (hsymbols : ∀ define ∈ defines p d, '[' ∉ define.1.toList) :
    '[' ∉ (unlines (preamble p d)).toList := by
  intro hbracket
  rcases mem_or_of_mem_unlines hbracket with hbreak | ⟨line, hline, hmem⟩
  · cases hbreak
  · refine not_mem_preamble rfl (by decide) ?_ hsymbols line hline hmem
    rw [hbanner]
    exact nofun

theorem cut?_text {p : Project} {d : Draft} (hbanner : p.banner = none)
    (hsymbols : ∀ define ∈ defines p d, '[' ∉ define.1.toList) (tables : String) :
    ∃ rest, cut? declaration.toList (text p d tables).toList =
      some ((unlines (preamble p d)).toList,
        '\n' :: ((unlines (labelLines p.metadata.labels)).toList ++ '\x7d' :: rest)) := by
  -- The rest of the declaration may stand in front of it, but the bracket does not.
  have hmark : declaration.toList =
      "const char* OUTPUT_LABELS".toList ++ '[' :: "NUM_OUTPUTS] = \x7b".toList := by decide
  have hfront := bracket_not_mem_preamble hbanner hsymbols
  obtain ⟨rest, hrest⟩ : ∃ rest, (text p d tables).toList =
      (unlines (preamble p d)).toList ++ declaration.toList ++
        '\n' :: ((unlines (labelLines p.metadata.labels)).toList ++ '\x7d' :: rest) := by
    rw [text, front_eq]
    simp [unlines_append]
  rw [hrest, hmark]
  exact ⟨rest, cut?_append (by decide) hfront _⟩

end Header

/-! ### Accepted labels -/

namespace Project

variable {p : Project}

theorem labels_ne_nil_of_check (hcheck : p.check = .ok ()) : p.metadata.labels ≠ [] :=
  (Message.checkLabels_eq_ok.1 (check_eq_ok.1 hcheck).2.1).1

/-- What the checks let through can be put between quotes. -/
theorem isQuotable_label_of_check (hcheck : p.check = .ok ()) :
    ∀ label ∈ p.metadata.labels, IsQuotable label.toList := by
  obtain ⟨-, hlabels, -⟩ := check_eq_ok.1 hcheck
  intro label hlabel
  obtain ⟨-, hbreaks, ⟨hbackslash, hquote⟩, -⟩ :=
    Message.checkLabel_eq_ok.1 ((Message.checkLabels_eq_ok.1 hlabels).2 label hlabel)
  exact isQuotable_iff.2 ⟨⟨hquote, hbackslash⟩, hbreaks⟩

/-! ### The comment with the labels -/

/-- What a sketch calls its outputs. -/
def labelKind : Variant → String
  | .classification => "Classes"
  | .regression => "Outputs"

/-- The comment with the labels at the top of the sketch. -/
def labelComment (p : Project) : String :=
  s!"// {labelKind p.metadata.variant}: {commaSeparated p.metadata.labels}"

/-- The text neither has a line break nor does it go on in the next line. -/
structure IsOneLine (line : String) : Prop where
  no_feed : '\n' ∉ line.toList
  no_return : '\r' ∉ line.toList
  no_splice : line.toList.getLast? ≠ some '\\'

theorem not_mem_labelComment {c : Char}
    (hwords : ∀ word ∈ ["// ", "Classes", "Outputs", ": ", ", "], c ∉ word.toList)
    (hlabels : ∀ label ∈ p.metadata.labels, c ∉ label.toList) :
    c ∉ p.labelComment.toList := by
  simp only [List.forall_mem_cons] at hwords
  obtain ⟨hstart, hclasses, houtputs, hcolon, hcomma, -⟩ := hwords
  have hkind : c ∉ (labelKind p.metadata.variant).toList := by
    cases p.metadata.variant with
    | classification => exact hclasses
    | regression => exact houtputs
  have hjoined : c ∉ (commaSeparated p.metadata.labels).toList := by
    intro hc
    rcases mem_or_of_mem_intercalate hc with hc | ⟨label, hlabel, hc⟩
    · exact hcomma hc
    · exact hlabels label hlabel hc
  simp only [labelComment, toString_text, String.toList_append, List.mem_append, not_or]
  exact ⟨⟨⟨hstart, hkind⟩, hcolon⟩, hjoined⟩

theorem isOneLine_labelComment (hcheck : p.check = .ok ()) : IsOneLine p.labelComment := by
  have hlabels := isQuotable_label_of_check hcheck
  constructor
  case no_feed =>
    exact not_mem_labelComment (by decide) fun label hlabel =>
      (isQuotable_iff.1 (hlabels label hlabel)).2.1
  case no_return =>
    exact not_mem_labelComment (by decide) fun label hlabel =>
      (isQuotable_iff.1 (hlabels label hlabel)).2.2
  case no_splice =>
    intro hlast
    exact not_mem_labelComment (by decide)
      (fun label hlabel => (isQuotable_iff.1 (hlabels label hlabel)).1.2)
      (List.mem_of_getLast? hlast)

theorem render_banner_append (hbanner : p.banner = none) (title kind message : String)
    (code : Code) :
    (Sketch.banner p title kind message ++ code).render =
      unlines
        (s!"// {title}" :: s!"// Board: {p.board.displayName.shown}" ::
          s!"// Sensor: {Sensor.shownField p.sensor.displayName}" ::
          s!"// {kind}: {commaSeparated p.metadata.labels}" ::
          s!"// Message: {message}" :: code.map Line.render) := by
  have hrender : ∀ line : String, (Line.code 0 line).render = line := fun line => by
    simp [Line.render]
  simp only [Sketch.banner, hbanner, Code.render, Code.line, Code.ofTexts,
    List.map_cons, List.map_nil, hrender, List.cons_append, List.nil_append]

/-- Without a stamp the comment with the labels is the fourth one of a sketch. -/
theorem exists_sketch_eq_unlines {d : Draft} {text : String} (hbanner : p.banner = none)
    (h : p.sketch d = .ok text) :
    ∃ title board sensor message rest,
      text = unlines (title :: board :: sensor :: p.labelComment :: message :: rest) := by
  obtain ⟨code, hcode, rfl⟩ := exists_of_sketch_eq_ok h
  simp only [sketchCode, bind_eq_ok] at hcode
  obtain ⟨s, -, reading, -, hcode⟩ := hcode
  unfold labelComment
  cases hvariant : p.metadata.variant with
  | classification =>
    simp only [hvariant, pure_eq_ok] at hcode
    subst hcode
    unfold Sketch.classifier
    simp only [List.append_assoc, render_banner_append hbanner, labelKind]
    exact ⟨_, _, _, _, _, rfl⟩
  | regression =>
    simp only [hvariant, pure_eq_ok] at hcode
    subst hcode
    unfold Sketch.regressor
    simp only [List.append_assoc, render_banner_append hbanner, labelKind]
    exact ⟨_, _, _, _, _, rfl⟩

end Project

/-! ### Compilations -/

theorem Findings.defines_draft {p : Project} (found : Findings p) :
    Header.defines p found.draft = p.network.widths.zipIdx.map fun entry =>
      (Plan.symbolAt p.network.layers.length entry.2, entry.1) := by
  refine Project.defines_of_check found.check_eq ?_
  rw [draft, found.plan_eq_denseSteps]

namespace Compilation

variable {p : Project} (c : Compilation p)

theorem cut?_header (hbanner : p.banner = none) :
    ∃ rest, cut? Header.declaration.toList c.header.toList =
      some ((unlines (Header.preamble p c.draft)).toList,
        '\n' :: ((unlines (Header.labelLines p.metadata.labels)).toList ++ '\x7d' :: rest)) := by
  rw [Project.eq_text_of_header_eq_ok c.header_eq]
  exact Header.cut?_text hbanner
    (Project.not_mem_defines c.defines_draft (by decide) (by decide)) _

theorem labels?_header (hbanner : p.banner = none) :
    Header.labels? c.header = some p.metadata.labels := by
  obtain ⟨rest, hcut⟩ := c.cut?_header hbanner
  have hlabels := Header.literals?_labelLines (Project.labels_ne_nil_of_check c.check_eq)
    (Project.isQuotable_label_of_check c.check_eq) rest
  simp [Header.labels?, hcut, literals?, hlabels, Function.comp_def]

theorem labelCount?_header (hbanner : p.banner = none) :
    Header.labelCount? c.header = some p.metadata.labels.length := by
  obtain ⟨hchain, -, hcounts, -⟩ := Project.check_eq_ok.1 c.check_eq
  have hstamp : ∀ stamp ∈ p.banner, '\n' ∉ stamp.toList := by
    rw [hbanner]
    exact nofun
  have hbreaks := Header.not_mem_preamble rfl (by decide) hstamp
    (Project.not_mem_defines c.defines_draft (c := '\n') rfl (by decide))
  have hdefinitions : Header.definitions (unlines (Header.preamble p c.draft)) =
      ("MODEL_DATA_H", none) :: p.network.widths.zipIdx.map fun entry =>
        (Plan.symbolAt p.network.layers.length entry.2, some entry.1) := by
    rw [Header.definitions, splitOn_unlines hbreaks, List.filterMap_append,
      Header.filterMap_definition?_preamble
        (Project.not_mem_defines c.defines_draft (by decide) (by decide)),
      c.defines_draft, List.map_map]
    exact List.append_nil _
  have hsize := Header.sizeOf?_symbolAt hdefinitions (Network.widths_length hchain)
  rw [Plan.symbolAt_self p.network.length_layers_pos,
    ← (Project.checkCounts_eq_ok.1 hcounts).1] at hsize
  obtain ⟨rest, hcut⟩ := c.cut?_header hbanner
  simp only [Header.labelCount?, hcut, Option.bind_eq_bind, Option.bind_some,
    String.ofList_toList]
  exact hsize

end Compilation

namespace Project

variable {p : Project} {bench : Workbench} {artifact : Artifact}

/-- **The labels come through in the files.**  Every compilation without a stamp yields a header in
    which the literals of the table are the labels, in order, and as many as the header defines
    outputs to be; in each of them the label stands for itself.  It yields a sketch in which the
    comment with the labels takes one line. -/
theorem labels_survive (hbanner : p.banner = none)
    (hcompiled : (Job.runOn p.generateAll bench).1 = .ok artifact) :
    (∃ header, artifact.text headerName = .ok header ∧
      Header.labels? header = some p.metadata.labels ∧
      Header.labelCount? header = some p.metadata.labels.length) ∧
    (∀ label ∈ p.metadata.labels, ∀ rest,
      StringLiteral.read? (label.toList ++ '"' :: rest) = some (bytes label.toList, rest)) ∧
    ∃ title board sensor message rest,
      artifact.text p.sketchName =
        .ok (unlines (title :: board :: sensor :: p.labelComment :: message :: rest)) ∧
      IsOneLine p.labelComment := by
  obtain ⟨c, hfiles⟩ := exists_compilation hcompiled
  refine ⟨⟨c.header, c.text_eq_ok hfiles ?_, c.labels?_header hbanner,
    c.labelCount?_header hbanner⟩, ?_, ?_⟩
  · exact List.mem_cons_of_mem _ List.mem_cons_self
  · intro label hlabel rest
    exact read?_of_isQuotable (isQuotable_label_of_check c.check_eq label hlabel) rest
  · obtain ⟨title, board, sensor, message, rest, hsketch⟩ :=
      exists_sketch_eq_unlines hbanner c.sketch_eq
    refine ⟨title, board, sensor, message, rest, ?_, isOneLine_labelComment c.check_eq⟩
    rw [← hsketch]
    exact c.text_eq_ok hfiles List.mem_cons_self

/-- The sample with labels that look like code. -/
def codeLabels : Project :=
  { sample with metadata := { Metadata.sample with labels := ["\x7d; // left", "#right ?"] } }

theorem wellTyped_codeLabels : codeLabels.WellTyped :=
  ⟨Board.wellTyped_of_registered (.head _), Sensor.wellTyped_color, rfl⟩

/-- Labels that look like code are labels in both files. -/
theorem labels_survive_codeLabels :
    codeLabels.banner = none ∧
    ∃ artifact, (Job.runOn codeLabels.generateAll {}).1 = .ok artifact ∧
      (∃ header, artifact.text headerName = .ok header ∧
        Header.labels? header = some ["\x7d; // left", "#right ?"] ∧
        Header.labelCount? header = some 2) ∧
      (∀ label ∈ codeLabels.metadata.labels, ∀ rest,
        StringLiteral.read? (label.toList ++ '"' :: rest) = some (bytes label.toList, rest)) ∧
      ∃ title board sensor message rest,
        artifact.text codeLabels.sketchName =
          .ok (unlines (title :: board :: sensor :: codeLabels.labelComment :: message :: rest)) ∧
        IsOneLine codeLabels.labelComment := by
  obtain ⟨artifact, hcompiled⟩ :=
    exists_artifact_of_check wellTyped_codeLabels (by rfl) (by decide) rfl {}
  exact ⟨rfl, artifact, hcompiled, labels_survive rfl hcompiled⟩

end Project

end DenseSketch
