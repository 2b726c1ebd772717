import DenseSketch.Proofs.Sample
import DenseSketch.Proofs.Table.RoundTrip

/-!
# Flash tables hold the network

What a reader finds in the flash tables: each table once, every value of the network in its place,
and as many values as the size in bytes says.
-/

namespace DenseSketch

namespace Network

theorem names_declarations (net : Network) :
    net.declarations.map Table.Declaration.name = net.tableNames := by
  simp only [declarations, tableNames, List.map_flatMap]
  congr 1
  funext entry
  simp [Layer.declarations, Layer.tableNames, Function.comp_def]

/-- All values of all tables, in order. -/
theorem values_declarations (net : Network) :
    net.declarations.flatMap Table.Declaration.values =
      (net.layers.flatMap Layer.parameters).map Table.literalValue := by
  have hlayer : ∀ (index : Nat) (layer : Layer),
      (layer.declarations index).flatMap Table.Declaration.values =
        layer.parameters.map Table.literalValue := by
    intro index layer
    cases hbias : layer.bias with
    | none => simp [Layer.declarations, Layer.parameters, hbias, layer.flatten_rows]
    | some bias => simp [Layer.declarations, Layer.parameters, hbias, layer.flatten_rows]
  have hlayers : ∀ (index : Nat) (layers : List Layer),
      ((layers.zipIdx index).flatMap fun entry =>
        (entry.1.declarations entry.2).flatMap Table.Declaration.values) =
        (layers.flatMap Layer.parameters).map Table.literalValue := by
    intro index layers
    induction layers generalizing index with
    | nil => rfl
    | cons layer layers ih =>
      rw [List.zipIdx_cons, List.flatMap_cons, hlayer, ih, List.flatMap_cons, List.map_append]
  rw [declarations, List.flatMap_assoc]
  exact hlayers 0 net.layers

theorem parameterCount_eq_length (net : Network) :
    net.parameterCount = (net.layers.flatMap Layer.parameters).length := by
  rw [parameterCount]
  induction net.layers with
  | nil => rfl
  | cons layer layers ih =>
    rw [List.foldr_cons, ih, List.flatMap_cons, List.length_append, Layer.parameterCount,
      Layer.parameters, List.length_append]

end Network

namespace Table

theorem abs_literalValue_sub_le (x : Datum) : |literalValue x - x.toRat| ≤ 5 / 10 ^ 7 := by
  have hclose := abs_roundHalfAway_sub_le 6 x.toRat
  norm_num at hclose ⊢
  exact hclose

/-- **Flash tables decode to the network.**  However many literals stand in a line, the text of the
    tables is read as the declarations of the network: each table has its own name, every value is
    off by half a unit of the sixth place at most, and the values fill the bytes that are reckoned
    for them.  A reader that is told what the board gives for a qualifier reads them in any case; one
    that is not reads them where this is a qualifier, as it is for every registered board. -/
theorem read_networkLines (net : Network) (qualifier : Document)
    (hqualifier : '\n' ∉ qualifier.shown.toList)
    (hnames : ∀ layer ∈ net.layers, '\n' ∉ layer.name.shown.toList)
    (hfinite : ∀ layer ∈ net.layers, ∀ x ∈ layer.parameters, x.isFinite) :
    (∀ (perLine : Document) (n : Int), perLine.wholeNumber = .ok n → 0 < n →
      ∃ lines, networkLines net perLine qualifier = .ok lines ∧
        readWith (isGiven qualifier) (Text.unlines lines) = some net.declarations ∧
        (IsQualifying qualifier → read (Text.unlines lines) = some net.declarations)) ∧
    (net.declarations.map Declaration.name).Nodup ∧
    List.Forall₂ (fun value x => |value - x.toRat| ≤ 5 / 10 ^ 7)
      (net.declarations.flatMap Declaration.values) (net.layers.flatMap Layer.parameters) ∧
    4 * (net.declarations.flatMap Declaration.values).length = sizeInBytes net := by
  refine ⟨?_, ?_, ?_, ?_⟩
  · intro perLine n hwhole hpos
    obtain ⟨lines, hlines, hread⟩ := isRead_networkLines qualifier hwhole hpos hfinite
    have hinserted := no_break_insertedTexts (no_break_qualifierText hqualifier) hnames
    refine ⟨lines, hlines, ?_, fun hqualifying => ?_⟩
    · exact (hread (isGiven qualifier) (beq_self_eq_true _)).readWith_unlines hinserted
    · exact (hread isQualifier hqualifying).readWith_unlines hinserted
  · rw [net.names_declarations]
    exact net.nodup_tableNames
  · rw [net.values_declarations, List.forall₂_map_left_iff, List.forall₂_same]
    intro x _
    exact abs_literalValue_sub_le x
  · rw [net.values_declarations, List.length_map, sizeInBytes, net.parameterCount_eq_length]

/-- The sample with the flash qualifier of a registered board. -/
theorem read_networkLines_sample :
    (∀ (perLine : Document) (n : Int), perLine.wholeNumber = .ok n → 0 < n →
      ∃ lines, networkLines .sample perLine Board.nano33ble.flashQualifier = .ok lines ∧
        read (Text.unlines lines) = some Network.sample.declarations) ∧
    (Network.sample.declarations.map Declaration.name).Nodup ∧
    List.Forall₂ (fun value x => |value - x.toRat| ≤ 5 / 10 ^ 7)
      (Network.sample.declarations.flatMap Declaration.values)
      (Network.sample.layers.flatMap Layer.parameters) ∧
    4 * (Network.sample.declarations.flatMap Declaration.values).length =
      sizeInBytes Network.sample := by
  obtain ⟨hread, hrest⟩ := read_networkLines .sample Board.nano33ble.flashQualifier (by decide)
    (by decide) (by decide)
  refine ⟨fun perLine n hwhole hpos => ?_, hrest⟩
  obtain ⟨lines, hlines, -, hplain⟩ := hread perLine n hwhole hpos
  exact ⟨lines, hlines, hplain (isQualifying_of_registered _ List.mem_cons_self)⟩

end Table

end DenseSketch
