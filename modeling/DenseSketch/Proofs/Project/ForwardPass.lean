import DenseSketch.Proofs.ForwardPass.Closed
import DenseSketch.Proofs.Project.Files
import DenseSketch.Proofs.Sample
import DenseSketch.Proofs.Workbench.Stages

/-!
# The forward pass of a project

The stages of a compilation work out the steps, the tables and the header apart from each other.  As
long as no name and no stamp breaks a line, and what the board gives for a qualifier is one, what they
work out fits.  Nothing checks the qualifier: one with a line break defines a size once more, and one
that starts a declaration of its own gives its values to another table.
-/

namespace DenseSketch.Project

open Header

variable {p : Project} {start bench built : Workbench} {steps : List Step}

/-- Once the checks have passed, the header defines the widths of the network, each one under the
    symbol of its place. -/
theorem defines_of_check (hcheck : p.check = .ok ()) {d : Draft}
    (hunits : d.unitDefines = p.network.hiddenDefines) :
    defines p d = p.network.widths.zipIdx.map fun entry =>
      (Plan.symbolAt p.network.layers.length entry.2, entry.1) := by
  obtain ⟨_, _, hcounts, _⟩ := check_eq_ok.1 hcheck
  exact defines_eq hunits (checkCounts_eq_ok.1 hcounts).1

theorem not_mem_defines {d : Draft}
    (hdefines : defines p d = p.network.widths.zipIdx.map fun entry =>
      (Plan.symbolAt p.network.layers.length entry.2, entry.1))
    {c : Char} (hdigit : c.isDigit = false)
    (hletter : c ∉ "INPUT_SIZE".toList ++ "NUM_OUTPUTS".toList ++ "HIDDEN_UNITS_".toList) :
    ∀ define ∈ defines p d, c ∉ define.1.toList := by
  rw [hdefines]
  intro define hmem
  obtain ⟨entry, _, rfl⟩ := List.mem_map.1 hmem
  exact Plan.not_mem_symbolAt _ _ hdigit hletter

theorem exists_openingLine {lines : List String} (htables : p.tables = .ok lines) :
    ∃ layer ∈ p.network.layers, ∃ rest, lines = Table.layerComment (toString 0) layer ::
      Table.openingLine (Table.tableName 0 .weights) p.board.flashQualifier :: rest := by
  have hlayer : ∀ layer perLine lines,
      Table.layerLines (toString 0) layer perLine p.board.flashQualifier = .ok lines →
      ∃ rest, lines = Table.layerComment (toString 0) layer ::
        Table.openingLine (Table.tableName 0 .weights) p.board.flashQualifier :: rest := by
    intro layer perLine lines hlines
    simp only [Table.layerLines, Table.tableLines, bind_eq_ok, pure_eq_ok] at hlines
    obtain ⟨_, ⟨body, _, rfl⟩, hlines⟩ := hlines
    cases hbias : layer.bias with
    | none =>
      rw [hbias] at hlines
      cases hlines
      exact ⟨_, rfl⟩
    | some bias =>
      rw [hbias] at hlines
      simp only [bind_eq_ok, pure_eq_ok] at hlines
      obtain ⟨_, _, rfl⟩ := hlines
      exact ⟨_, rfl⟩
  obtain ⟨layer, rest, hlayers⟩ := List.exists_cons_of_ne_nil p.network.layers_ne_nil
  refine ⟨layer, hlayers ▸ List.mem_cons_self, ?_⟩
  rw [tables, Table.networkLines, hlayers] at htables
  cases rest with
  | nil => exact hlayer layer _ lines htables
  | cons next rest =>
    simp only [Table.layersLines, bind_eq_ok, pure_eq_ok] at htables
    obtain ⟨here, hhere, more, _, rfl⟩ := htables
    obtain ⟨behind, rfl⟩ := hlayer layer _ here hhere
    exact ⟨_, rfl⟩

/-- A board that drives the sensors of the first one will do for the sample. -/
theorem wellTyped_sample {board : Board} (hlibraries : board.capabilities.sensorLibraries =
    Board.nano33ble.capabilities.sensorLibraries) : WellTyped { sample with board := board } where
  board := by
    intro entry hentry
    rw [hlibraries] at hentry
    exact Board.wellTyped_of_registered (List.mem_cons_self ..) entry hentry
  sensor := Sensor.wellTyped_color
  supported := by
    simp only [Board.supports, hlibraries]
    rfl

/-- The stages of a valid project with finite values are complete, and its header is rendered around
    the tables that they leave. -/
theorem exists_stages (htyped : p.WellTyped) (hcheck : p.check = .ok ())
    (hfinite : ∀ layer ∈ p.network.layers, ∀ x ∈ layer.parameters, x.isFinite) :
    ∃ steps built lines final, Job.runOn p.buildPlan {} = (.ok steps, built) ∧
      p.tables = .ok lines ∧
      Job.runOn p.serializeWeights built = (.ok (Text.unlines lines), final) ∧
      final.draft.unitDefines = p.network.hiddenDefines ∧
      Job.runOn (p.generateHeader (Text.unlines lines)) final =
        (.ok (text p final.draft (Text.unlines lines)), final) := by
  obtain ⟨pins, hpins⟩ := pins_of_check hcheck
  have hbuild := runOn_buildPlan (plan_of_check hcheck) hpins {}
  obtain ⟨lines, htables⟩ := (needsFinite_tables p).exists_eq_ok_iff.2
    (List.forall_mem_flatMap.2 hfinite)
  have hserialize := fun built => p.runOn_serializeWeights built
  simp only [htables, Except.map] at hserialize
  refine ⟨_, _, lines, _, hbuild, htables, hserialize _, rfl, ?_⟩
  rw [runOn_generateHeader, header_of_check htyped hcheck]

/-- The line that such a qualifier makes of the first one of a table. -/
def declaringLine : String := "const float weights_dense_0[] = \x7b0.0f\x7d; const float other[] = \x7b"

/-- The line stands in the tables, and what it declares first is none of them. -/
theorem read_declaring {lines : List String} (htables : declaring.tables = .ok lines) :
    declaringLine.toList ∈ (Text.unlines lines).toList.splitOn '\n' ∧
      Table.read (Text.unlines lines) = none := by
  obtain ⟨layer, hlayer, rest, rfl⟩ := exists_openingLine htables
  have hcomment : '\n' ∉ (Table.layerComment (toString 0) layer).toList := by
    have hnames : ∀ layer ∈ declaring.network.layers, '\n' ∉ layer.name.shown.toList := by decide
    simp [Table.layerComment_eq, hnames layer hlayer, break_not_mem_toDigits]
  have hsilent : Table.isSilent (Table.layerComment (toString 0) layer).toList := by
    simp [Table.layerComment_eq, Table.isSilent]
  have hopening : Table.openingLine (Table.tableName 0 .weights) declaring.board.flashQualifier =
      declaringLine := by decide
  have hline : Table.isSilent declaringLine.toList = false ∧
      Table.openedName? Table.isQualifier declaringLine.toList = none := by decide
  have hlines : (Text.unlines (Table.layerComment (toString 0) layer :: declaringLine ::
      rest)).toList.splitOn '\n' = (Table.layerComment (toString 0) layer).toList ::
        declaringLine.toList :: (Text.unlines rest).toList.splitOn '\n' := by
    rw [Text.toList_unlines_cons, List.splitOn_append_cons_self_of_not_mem hcomment,
      Text.toList_unlines_cons, List.splitOn_append_cons_self_of_not_mem (by decide)]
  rw [hopening, Table.read, Table.readWith, hlines]
  constructor
  · exact List.mem_cons_of_mem _ List.mem_cons_self
  · rw [Table.readLines, if_pos hsilent, Table.readLines, hline.1, hline.2]
    rfl

/-- Nothing keeps a flash qualifier from declaring a table: with this one everything is accepted,
    complete and rendered, and yet the first table of the steps holds one value, and its weights stand
    in a table that no step reads. -/
theorem forwardPass_not_closed_declaring :
    create .sample .sample { board := some .declaring, sensorName := .text "color" } =
      .ok declaring ∧
    (Job.runOn declaring.validate {}).1 = .ok () ∧
    '\n' ∉ declaring.board.flashQualifier.shown.toList ∧
    ∃ steps built tables final header,
      Job.runOn declaring.buildPlan {} = (.ok steps, built) ∧
      Job.runOn declaring.serializeWeights built = (.ok tables, final) ∧
      Job.runOn (declaring.generateHeader tables) final = (.ok header, final) ∧
      declaringLine.toList ∈ tables.toList.splitOn '\n' ∧
      ¬ ForwardPass.IsClosed declaring.network declaring.metadata.variant steps tables header := by
  have htyped : declaring.WellTyped := wellTyped_sample rfl
  have hcheck : declaring.check = .ok () := rfl
  have hfinite : ∀ layer ∈ declaring.network.layers, ∀ x ∈ layer.parameters, x.isFinite := by
    decide
  obtain ⟨_, hvalidate⟩ := declaring.runOn_validate {}
  obtain ⟨steps, built, lines, final, hbuild, htables, hserialize, -, hheader⟩ :=
    exists_stages htyped hcheck hfinite
  obtain ⟨hline, hread⟩ := read_declaring htables
  refine ⟨rfl, by rw [hvalidate, hcheck], by decide, steps, built, _, final, _, hbuild, hserialize,
    hheader, hline, ?_⟩
  intro hclosed
  obtain ⟨declarations, hdeclared, -⟩ := hclosed.declared
  rw [hread] at hdeclared
  cases hdeclared

end DenseSketch.Project
