import DenseSketch.Header
import DenseSketch.Proofs.List.Lookup
import DenseSketch.Proofs.Number.Decimal
import DenseSketch.Proofs.Plan.Positions
import DenseSketch.Proofs.Text.Lines

/-!
# What a header defines

The definitions of a header are read from its text, and they give each place its width.
-/

/-!
## Definitions in a header

The definitions of a header are read from its text, line by line.  As long as nothing that is
inserted breaks a line, they are the sizes of the network and nothing else.
-/

namespace DenseSketch.Header

/-- What a definition begins with. -/
def directive : String := "#define "

/-- The symbol that a line defines, and the number that it stands for if it stands for one. -/
def definition? (line : List Char) : Option (String × Option Nat) :=
  let text := line.dropWhile (· == ' ')
  if directive.toList <+: text then
    let rest := text.drop directive.toList.length
    some (String.ofList (rest.takeWhile (· != ' ')),
      readDigits ((rest.dropWhile (· != ' ')).drop 1))
  else none

/-- All definitions of a text, in order. -/
def definitions (text : String) : List (String × Option Nat) :=
  (text.toList.splitOn '\n').filterMap definition?

/-- The number that a symbol stands for; none where it is not defined exactly once. -/
def sizeOf? (text symbol : String) : Option Nat :=
  match (definitions text).filter (·.1 == symbol) with
  | [(_, value)] => value
  | _ => none

theorem definition?_eq_none {line : List Char} (hsign : Text.firstSign line ≠ some '#') :
    definition? line = none := by
  rw [definition?, if_neg]
  rintro ⟨tail, htail⟩
  apply hsign
  rw [Text.firstSign, ← htail]
  simp [directive]

theorem definition?_directive {symbol : String} (hsymbol : ' ' ∉ symbol.toList)
    (value : List Char) :
    definition? (directive.toList ++ (symbol.toList ++ ' ' :: value)) =
      some (symbol, readDigits value) := by
  have hstart : (directive.toList ++ (symbol.toList ++ ' ' :: value)).dropWhile (· == ' ') =
      directive.toList ++ (symbol.toList ++ ' ' :: value) := by
    simp [directive]
  have hletters : ∀ c ∈ symbol.toList, (c != ' ') = true := by
    intro c hc
    have hne : c ≠ ' ' := fun h => hsymbol (h ▸ hc)
    simpa using hne
  rw [definition?, hstart]
  simp only [List.prefix_append, if_true, List.drop_left]
  rw [List.takeWhile_append_of_pos hletters, List.dropWhile_append_of_pos hletters,
    List.takeWhile_cons_of_neg (by simp), List.dropWhile_cons_of_neg (by simp), List.append_nil,
    String.ofList_toList, List.drop_one, List.tail_cons]

theorem definition?_defineLine {define : String × Nat} (hsymbol : ' ' ∉ define.1.toList) :
    definition? (defineLine define).toList = some (define.1, some define.2) := by
  have hline : defineLine define = directive ++ define.1 ++ " " ++ toString define.2 := rfl
  have htext : (defineLine define).toList =
      directive.toList ++ (define.1.toList ++ ' ' :: Nat.toDigits 10 define.2) := by
    simp [hline]
  rw [htext, definition?_directive hsymbol, readDigits_toDigits]

/-! ### The header -/

/-- A line that is one line and no directive. -/
structure IsPlain (line : String) : Prop where
  no_break : '\n' ∉ line.toList
  no_directive : Text.firstSign line.toList ≠ some '#'

/-- Lines that are no directives define nothing. -/
theorem filterMap_definition?_eq_nil {lines : List String}
    (hlines : ∀ line ∈ lines, Text.firstSign line.toList ≠ some '#') :
    (lines.map String.toList).filterMap definition? = [] := by
  rw [List.filterMap_eq_nil_iff]
  intro line hline
  obtain ⟨text, htext, rfl⟩ := List.mem_map.1 hline
  exact definition?_eq_none (hlines text htext)

/-- The line that opens the table of output labels. -/
def declaration : String := "const char* OUTPUT_LABELS[NUM_OUTPUTS] = \x7b"

/-- The lines in front of this line. -/
def preamble (p : Project) (d : Draft) : List String :=
  banner p d ++
    ["", "#ifndef MODEL_DATA_H", "#define MODEL_DATA_H", "", "// Model architecture"] ++
    (defines p d).map defineLine ++ ["", "// Output labels"]

theorem front_eq (p : Project) (d : Draft) :
    front p d =
      preamble p d ++ declaration :: (labelLines p.metadata.labels ++ ["\x7d;", ""]) := by
  simp only [front, preamble, labelTable, declaration, List.append_assoc, List.cons_append,
    List.nil_append]

/-- The fixed words in front of the table. -/
def preambleWords : List String :=
  ["// Model weights and configuration", "// Generated: ", "// Variant: ", "classification",
    "regression", "// Architecture: ", " -> ", "// Flash tables: ", " bytes", "",
    "#ifndef MODEL_DATA_H", "#define MODEL_DATA_H", "// Model architecture", "#define ", " ",
    "// Output labels"]

section

variable {p : Project} {d : Draft} {c : Char} (hdigit : c.isDigit = false)
  (hwords : ∀ word ∈ preambleWords, c ∉ word.toList)
  (hbanner : ∀ stamp ∈ p.banner, c ∉ stamp.toList)

include hdigit hwords hbanner

/-- Beside its words the banner has digits and the stamp. -/
theorem not_mem_banner : ∀ line ∈ banner p d, c ∉ line.toList := by
  have hdigits := not_mem_toDigits hdigit
  simp only [preambleWords, List.forall_mem_cons] at hwords
  obtain ⟨htitle, hgenerated, hvariant, hclasses, hvalues, hshape, harrow, hbytes, hunit, -⟩ :=
    hwords
  have hname : c ∉ p.metadata.variant.name.toList := by
    cases p.metadata.variant with
    | classification => exact hclasses
    | regression => exact hvalues
  have hwidths : c ∉ p.network.shape.toList := by
    intro h
    rcases Text.mem_or_of_mem_intercalate h with h | ⟨item, hitem, h⟩
    · exact harrow h
    · obtain ⟨width, _, rfl⟩ := List.mem_map.1 hitem
      exact hdigits width (by simpa using h)
  intro line hline
  simp only [banner, List.mem_append, List.mem_cons, List.not_mem_nil, or_false] at hline
  rcases hline with (rfl | hstamp) | rfl | rfl | rfl
  · exact htitle
  · cases hcase : p.banner with
    | none => simp [hcase] at hstamp
    | some stamp =>
      simp only [hcase, List.mem_singleton] at hstamp
      rw [hstamp]
      simpa [hbanner stamp hcase] using hgenerated
  · simpa [hname] using hvariant
  · simpa [hwidths] using hshape
  · simpa [hdigits, and_assoc] using And.intro hbytes hunit

/-- The lines behind the banner add symbols and further digits. -/
theorem not_mem_preamble (hsymbols : ∀ define ∈ defines p d, c ∉ define.1.toList) :
    ∀ line ∈ preamble p d, c ∉ line.toList := by
  have hdigits := not_mem_toDigits hdigit
  intro line hline
  simp only [preamble, List.mem_append, List.mem_map] at hline
  rcases hline with ((hline | hline) | ⟨define, hdefine, rfl⟩) | hline
  · exact not_mem_banner hdigit hwords hbanner line hline
  · have hfixed : ∀ line ∈ ["", "#ifndef MODEL_DATA_H", "#define MODEL_DATA_H", "",
        "// Model architecture"], line ∈ preambleWords := by decide
    exact hwords line (hfixed line hline)
  · have hdirective := hwords "#define " (by decide)
    have hblank := hwords " " (by decide)
    simpa [defineLine, hdigits, and_assoc] using
      And.intro hdirective (And.intro (hsymbols define hdefine) hblank)
  · have hfixed : ∀ line ∈ ["", "// Output labels"], line ∈ preambleWords := by decide
    exact hwords line (hfixed line hline)

end

/-- Every line of the banner is a comment. -/
theorem firstSign_banner (p : Project) (d : Draft) :
    ∀ line ∈ banner p d, Text.firstSign line.toList = some '/' := by
  intro line hline
  have hcomment : ∃ rest, line.toList = '/' :: rest := by
    simp only [banner, List.mem_append, List.mem_cons, List.not_mem_nil, or_false] at hline
    rcases hline with (rfl | hstamp) | rfl | rfl | rfl
    · exact ⟨_, rfl⟩
    · cases hcase : p.banner with
      | none => simp [hcase] at hstamp
      | some stamp =>
        simp only [hcase, List.mem_singleton] at hstamp
        simp [hstamp]
    · simp
    · simp
    · simp
  obtain ⟨rest, hrest⟩ := hcomment
  rw [hrest, Text.firstSign_cons (by decide)]

/-- The lines in front of the table of labels define the guard and the sizes, in order. -/
theorem filterMap_definition?_preamble {p : Project} {d : Draft}
    (hsymbols : ∀ define ∈ defines p d, ' ' ∉ define.1.toList) :
    ((preamble p d).map String.toList).filterMap definition? =
      ("MODEL_DATA_H", none) :: (defines p d).map fun define => (define.1, some define.2) := by
  have hguard : (["", "#ifndef MODEL_DATA_H", "#define MODEL_DATA_H", "",
      "// Model architecture"].map String.toList).filterMap definition? =
        [("MODEL_DATA_H", none)] := by decide
  have hend : (["", "// Output labels"].map String.toList).filterMap definition? = [] := by decide
  have hbanner : ∀ line ∈ banner p d, Text.firstSign line.toList ≠ some '#' := by
    intro line hline
    rw [firstSign_banner p d line hline]
    decide
  have hdefines : (((defines p d).map defineLine).map String.toList).filterMap definition? =
      (defines p d).map fun define => (define.1, some define.2) := by
    rw [List.map_map, List.filterMap_map, ← List.filterMap_eq_map]
    exact List.filterMap_congr fun define hmem => definition?_defineLine (hsymbols define hmem)
  simp only [preamble, List.map_append, List.filterMap_append,
    filterMap_definition?_eq_nil hbanner, hguard, hdefines, hend]
  simp

end DenseSketch.Header

/-!
## Sizes in a header

Each place between the layers has a symbol of its own, and the header defines it as the width of the
network at that place.
-/

namespace DenseSketch

namespace Plan

theorem not_mem_symbolAt (count k : Nat) {c : Char} (hdigit : c.isDigit = false)
    (hletter : c ∉ "INPUT_SIZE".toList ++ "NUM_OUTPUTS".toList ++ "HIDDEN_UNITS_".toList) :
    c ∉ (symbolAt count k).toList := by
  have hdigits := not_mem_toDigits hdigit
  simp only [List.mem_append, not_or] at hletter
  obtain ⟨⟨hinput, houtput⟩, hhidden⟩ := hletter
  unfold symbolAt nameAt
  split
  · exact hinput
  · split
    · exact houtput
    · simp only [hiddenSymbol, Text.toString_text, String.toList_append, List.mem_append, not_or]
      exact ⟨hhidden, by simpa using hdigits (k - 1 + 1)⟩

theorem symbolAt_ne_guard (count k : Nat) : symbolAt count k ≠ "MODEL_DATA_H" := by
  unfold symbolAt nameAt
  split
  · decide
  · split
    · decide
    · simp [hiddenSymbol, ← String.toList_inj]

end Plan

namespace Header

theorem defines_eq {p : Project} {d : Draft} (hunits : d.unitDefines = p.network.hiddenDefines)
    (hcount : p.metadata.outputCount = p.network.outputs) :
    defines p d = p.network.widths.zipIdx.map fun entry =>
      (Plan.symbolAt p.network.layers.length entry.2, entry.1) := by
  obtain ⟨init, last, hlayers⟩ := List.eq_nil_or_concat p.network.layers |>.resolve_left
    p.network.layers_ne_nil
  have houtputs : p.network.outputs = last.outputs := by
    simp [Network.outputs, Network.last, hlayers]
  have hlast : Plan.symbolAt p.network.layers.length (init.length + 1) = Plan.outputSymbol := by
    simp [hlayers, Plan.symbolAt, Plan.nameAt]
  have hinner : p.network.hiddenDefines = init.zipIdx.map fun entry =>
      (Plan.symbolAt p.network.layers.length (entry.2 + 1), entry.1.outputs) := by
    simp [Network.hiddenDefines, hlayers, List.zipIdx_append]
  have hshift : (p.network.layers.map Layer.outputs).zipIdx 1 =
      p.network.layers.zipIdx.map fun entry => (entry.1.outputs, entry.2 + 1) := by
    rw [List.zipIdx_map, ← List.map_snd_add_zipIdx_eq_zipIdx (n := 1) (k := 0), List.map_map]
    rfl
  have hall : p.network.layers.zipIdx = init.zipIdx ++ [(last, init.length)] := by
    simp [hlayers, List.zipIdx_append]
  rw [defines, hunits, hinner, hcount, houtputs, ← hlast, Network.widths, List.zipIdx_cons,
    hshift, hall]
  simp [Plan.symbolAt, Plan.nameAt, Function.comp_def]

/-- Where the widths are defined at their places, each place is defined once. -/
theorem filter_symbolAt {net : Network} {defined : List (String × Option Nat)}
    (hdefined : defined = ("MODEL_DATA_H", none) :: net.widths.zipIdx.map fun entry =>
      (Plan.symbolAt net.layers.length entry.2, some entry.1))
    {k width : Nat} (hwidth : net.widths[k]? = some width) :
    defined.filter (·.1 == Plan.symbolAt net.layers.length k) =
      [(Plan.symbolAt net.layers.length k, some width)] := by
  have hlength : net.widths.length = net.layers.length + 1 := by simp [Network.widths]
  have hkeys : (defined.map Prod.fst).Nodup := by
    rw [hdefined, List.map_cons, List.map_map, List.nodup_cons]
    constructor
    · rintro hmem
      obtain ⟨entry, _, heq⟩ := List.mem_map.1 hmem
      exact Plan.symbolAt_ne_guard _ _ heq
    · have hsymbols := map_zipIdx_eq_map_range net.widths (g := Plan.symbolAt net.layers.length)
        (f := Prod.fst ∘ fun entry => (Plan.symbolAt net.layers.length entry.2, some entry.1))
        fun _ => rfl
      rw [hsymbols]
      refine List.Nodup.map_on ?_ List.nodup_range
      intro i hi j hj hsame
      rw [List.mem_range, hlength] at hi hj
      exact Plan.symbolAt_inj (Nat.le_of_lt_succ hi) (Nat.le_of_lt_succ hj) hsame
  have hmem : (Plan.symbolAt net.layers.length k, some width) ∈ defined := by
    rw [hdefined]
    exact List.mem_cons_of_mem _
      (List.mem_map.2 ⟨(width, k), List.mk_mem_zipIdx_iff_getElem?.2 hwidth, rfl⟩)
  exact filter_key_eq_singleton hkeys hmem

/-- A header that defines the widths at their places has one size for each place. -/
theorem sizeOf?_symbolAt {net : Network} {text : String}
    (hdefinitions : definitions text =
      ("MODEL_DATA_H", none) :: net.widths.zipIdx.map fun entry =>
        (Plan.symbolAt net.layers.length entry.2, some entry.1))
    {k width : Nat} (hwidth : net.widths[k]? = some width) :
    sizeOf? text (Plan.symbolAt net.layers.length k) = some width := by
  rw [sizeOf?, filter_symbolAt hdefinitions hwidth]

end Header

end DenseSketch
