import DenseSketch.Proofs.List.Monadic
import DenseSketch.Proofs.Model.StoredLayer

/-!
# Extraction keeps the network

A tree of modules in which every leaf is a fully connected layer or shows no weights becomes the
network of its fully connected layers, one layer for each of them and in their order.  The leaves
without weights leave no trace but in the names.  This is `extract_model_ir` of SPEC_FULL, section
4.1, on trees of modules.
-/

namespace DenseSketch

/-! ### Leaves -/

namespace ModuleInfo

/-- Is the module a fully connected layer that shows its weights? -/
def isDense (info : ModuleInfo) : Bool := info.isLinear && (info.tensor? "weight").isSome

/-- The module is a fully connected layer with these weights and this bias. -/
structure Stores (info : ModuleInfo) (s : StoredLayer) : Prop where
  isLinear : info.isLinear = true
  weight : info.tensor? "weight" = some ⟨[s.outputs, s.inputs], s.weights⟩
  bias : info.bias = s.bias.map Block.vector

/-- The module shows no weights. -/
def IsWeightless (info : ModuleInfo) : Prop := info.tensor? "weight" = none

/-- The tensors of a module that extraction looks at: its weight and its bias. -/
def shown (info : ModuleInfo) : Option Tensor × Option Tensor :=
  (info.tensor? "weight", info.bias)

variable {info : ModuleInfo} {s : StoredLayer}

theorem Stores.isDense (h : info.Stores s) : info.isDense = true := by
  rw [ModuleInfo.isDense, h.isLinear, h.weight]
  rfl

theorem IsWeightless.isDense (h : info.IsWeightless) : info.isDense = false := by
  rw [ModuleInfo.isDense, h, Option.isSome_none, Bool.and_false]

/-- A stored matrix is read column by column, so it comes out with one row for each input. -/
theorem Stores.weight_eq (h : info.Stores s) :
    info.weight = .ok (some ⟨[s.inputs, s.outputs], s.transposed⟩) := by
  have hcolumns : ((List.range s.inputs).flatMap fun j =>
      (Block.rowsOf s.inputs s.outputs s.weights).filterMap fun row => row[j]?) =
        s.transposed :=
    List.flatMap_congr fun j hj =>
      Block.column_rowsOf s.weights_length (List.mem_range.1 hj) .zero
  simp only [ModuleInfo.weight, h.weight, h.isLinear, if_true, hcolumns]

theorem IsWeightless.weight_eq (h : info.IsWeightless) : info.weight = .ok none := by
  simp only [weight, show info.tensor? "weight" = none from h]

end ModuleInfo

namespace Module

/-- The leaves that are fully connected layers. -/
def denseLeaves (m : Module) : List (String × ModuleInfo) :=
  m.leaves.filter fun leaf => leaf.2.isDense

/-- The leaves can be found, and each one is a fully connected layer or shows no weights. -/
structure IsDense (m : Module) : Prop where
  showsLeaves : m.showsLeaves = true
  leaves : ∀ leaf ∈ m.leaves, (∃ s, leaf.2.Stores s) ∨ leaf.2.IsWeightless

/-- The leaf stores the layer that is kept under its name. -/
structure LeafStores (leaf : String × ModuleInfo) (kept : String × StoredLayer) : Prop where
  name : leaf.1 = kept.1
  stores : leaf.2.Stores kept.2

theorem leaves_of_isLeaf {m : Module} (hleaf : m.isLeaf = true) :
    m.leaves = [(m.info.className, m.info)] := by
  obtain ⟨info, children⟩ := m
  obtain rfl : children = [] := List.isEmpty_iff.1 hleaf
  rfl

end Module

/-! ### Copies -/

namespace StoredLayer

variable (s : StoredLayer) (name : String)

/-- The copy of a stored layer. -/
def copied : Materialized where
  name := .text name
  kind := Layer.kindName
  weights := ⟨[s.inputs, s.outputs], s.transposed⟩
  bias := s.bias.map Block.vector

theorem toLayer_copied : (s.copied name).toLayer = .ok (s.layer name) := by
  have hweights : Materialized.allFinite (s.copied name).weights = true :=
    List.all_eq_true.2 s.isFinite_transposed
  have hbias : ((s.copied name).bias.any fun b => !Materialized.allFinite b) = false := by
    rw [Option.any_eq_false]
    intro b hb
    obtain ⟨data, hdata, rfl⟩ := Option.map_eq_some_iff.1 hb
    simpa [Materialized.allFinite, Block.vector] using s.bias_finite data hdata
  have hdata : (s.copied name).bias.map (·.data) = s.bias := by
    simp [copied, Block.vector, Function.comp_def]
  have hcreate := (s.layer name).create_self (toString s.inputs) (toString s.outputs)
  have hunits : (s.copied name).units = .ok (s.inputs, s.outputs) := rfl
  simp only [Materialized.toLayer, hunits, hweights, hbias, hdata, bind, Except.bind]
  exact hcreate

/-- What a module has to show to store the layer. -/
def tensors : Option Tensor × Option Tensor :=
  (some ⟨[s.outputs, s.inputs], s.weights⟩, s.bias.map Block.vector)

theorem tensors_injective : Function.Injective tensors := by
  intro s t h
  obtain ⟨inputs, outputs, weights, bias⟩ := s
  obtain ⟨inputs', outputs', weights', bias'⟩ := t
  have hvector : Function.Injective (Block.vector (α := Datum)) :=
    fun _ _ hvectors => congrArg Block.data hvectors
  simp only [tensors, Prod.mk.injEq, Option.some.injEq, Block.mk.injEq, List.cons.injEq,
    and_true, (Option.map_injective hvector).eq_iff] at h
  obtain ⟨⟨⟨rfl, rfl⟩, rfl⟩, rfl⟩ := h
  rfl

end StoredLayer

namespace LayerView

variable {name : String} {info : ModuleInfo} {s : StoredLayer}

theorem materialize_of_stores (h : info.Stores s) :
    (ofModule name info).materialize = .ok (some (s.copied name)) := by
  have hkind : Text.lower (Document.text Layer.kindName).shown = Layer.kindName := by decide
  have hbias : ((s.bias.map Block.vector).map Held.tensor).mapM Held.toTensor =
      (.ok (s.bias.map Block.vector) : Except Fault _) := by
    cases s.bias <;> rfl
  simp only [materialize, ofModule, h.weight_eq, h.bias, h.isLinear, Except.map, Option.map_some,
    bind, Except.bind, Held.toTensor, hbias, if_true]
  exact congrArg (fun kind => Except.ok (some (Materialized.mk (.text name) kind _ _))) hkind

theorem materialize_of_isWeightless (h : info.IsWeightless) :
    (ofModule name info).materialize = .ok none := by
  simp only [materialize, ofModule, h.weight_eq]
  rfl

/-- The leaves are copied one by one; those without weights are passed over. -/
theorem materializeAll_leaves {leaves : List (String × ModuleInfo)}
    (hleaves : ∀ leaf ∈ leaves, (∃ s, leaf.2.Stores s) ∨ leaf.2.IsWeightless) :
    ∃ kept : List (String × StoredLayer),
      List.Forall₂ Module.LeafStores (leaves.filter fun leaf => leaf.2.isDense) kept ∧
      (materializeAll (leaves.map fun leaf => ofModule leaf.1 leaf.2)).2 =
        .ok (kept.map fun k => k.2.copied k.1) := by
  induction leaves with
  | nil => exact ⟨[], .nil, rfl⟩
  | cons leaf rest ih =>
    obtain ⟨kept, hkept, hrest⟩ := ih fun other hother => hleaves other (by simp [hother])
    rcases hleaves leaf (by simp) with ⟨s, hstores⟩ | hweightless
    · refine ⟨(leaf.1, s) :: kept, ?_, ?_⟩
      · rw [List.filter_cons, if_pos hstores.isDense]
        exact .cons ⟨rfl, hstores⟩ hkept
      · simp only [List.map_cons, materializeAll, materialize_of_stores hstores, hrest]
        rfl
    · refine ⟨kept, ?_, ?_⟩
      · rwa [List.filter_cons, if_neg (by simp [hweightless.isDense])]
      · simp only [List.map_cons, materializeAll, materialize_of_isWeightless hweightless, hrest]
        rfl

end LayerView

/-! ### Networks -/

/-- The layer without its name. -/
def Layer.unnamed (layer : Layer) : Layer := { layer with name := .null }

/-- The layers of a network without their names. -/
def Network.unnamed (net : Network) : List Layer := net.layers.map Layer.unnamed

theorem Network.map_unnamed_create (layers : List Layer) :
    (Network.create layers).map Network.unnamed =
      if layers.map Layer.unnamed = [] then .error .emptyModel
      else .ok (layers.map Layer.unnamed) := by
  cases layers <;> rfl

namespace Module

variable {m : Module}

/-- The network is that of the layers which the leaves store. -/
theorem IsDense.exists_kept (hm : m.IsDense) :
    ∃ kept : List (String × StoredLayer),
      List.Forall₂ LeafStores m.denseLeaves kept ∧
      (Model.tree m).extract = Network.create (kept.map fun k => k.2.layer k.1) := by
  obtain ⟨kept, hkept, hcopies⟩ := LayerView.materializeAll_leaves hm.leaves
  refine ⟨kept, hkept, ?_⟩
  have hlayers : (kept.map fun k => k.2.copied k.1).mapM Materialized.toLayer =
      (.ok (kept.map fun k => k.2.layer k.1) : Except Fault _) := by
    rw [List.mapM_map]
    exact mapM_eq_pure_map fun k _ => k.2.toLayer_copied k.1
  have hnetwork : Materialized.toNetwork (kept.map fun k => k.2.copied k.1) =
      Network.create (kept.map fun k => k.2.layer k.1) := by
    simp only [Materialized.toNetwork, hlayers, bind, Except.bind]
  have hviews : (Model.tree m).views =
      .ok (m.leaves.map fun leaf => LayerView.ofModule leaf.1 leaf.2) :=
    if_pos hm.showsLeaves
  simp only [Model.extract, Model.extractWithReport, hviews, hcopies, Except.bind, hnetwork]
  cases Network.create (kept.map fun k => k.2.layer k.1) <;> rfl

/-- What becomes of a fully connected leaf that stores the matrix of `s`: a layer of its name in
    which the weight of input `j` in output `i` stands at `j * outputs + i`, and which in exact
    arithmetic is the matrix times the inputs plus the bias. -/
structure Keeps (leaf : String × ModuleInfo) (layer : Layer) (s : StoredLayer) : Prop where
  stores : leaf.2.Stores s
  name : layer.name = .text leaf.1
  inputs : layer.inputs = s.inputs
  outputs : layer.outputs = s.outputs
  weights : ∀ (i : Fin s.outputs) (j : Fin s.inputs),
    layer.weights[(j : Nat) * s.outputs + i]? = some (s.entry i j)
  bias : layer.bias = s.bias
  linear : ∀ exp special x,
    layer.linear (.exact exp special) (List.ofFn x) = .ok (List.ofFn (s.matrix.mulVec x + s.shift))

theorem keeps_layer {leaf : String × ModuleInfo} {s : StoredLayer} (h : leaf.2.Stores s) :
    Keeps leaf (s.layer leaf.1) s where
  stores := h
  name := rfl
  inputs := rfl
  outputs := rfl
  weights := s.getElem?_transposed
  bias := rfl
  linear := fun exp special x => s.linear_layer exp special leaf.1 x

/-- What the fully connected leaves show determines what they store. -/
theorem map_shown_eq {leaves : List (String × ModuleInfo)} {kept : List (String × StoredLayer)}
    (h : List.Forall₂ LeafStores leaves kept) :
    leaves.map (fun leaf => leaf.2.shown) = kept.map fun k => k.2.tensors := by
  induction h with
  | nil => rfl
  | cons hleaf _ ih =>
    rw [List.map_cons, List.map_cons, ih, ModuleInfo.shown, hleaf.stores.weight,
      hleaf.stores.bias]
    rfl

theorem map_unnamed_layer (kept : List (String × StoredLayer)) :
    (kept.map fun k => k.2.layer k.1).map Layer.unnamed =
      (kept.map Prod.snd).map fun s => (s.layer "").unnamed := by
  rw [List.map_map, List.map_map]
  rfl

/-- Extraction keeps the network.  Without a fully connected leaf there is none; otherwise it has
    one layer for each fully connected leaf, in the same order, and the leaf is kept.  A root
    without children is its own leaf and goes by its class.  Two models whose fully connected leaves
    show the same tensors, whatever other leaves stand between them, differ in names only. -/
theorem IsDense.extract_keeps (hm : m.IsDense) :
    (m.denseLeaves = [] → (Model.tree m).extract = .error .emptyModel) ∧
    (m.denseLeaves ≠ [] → ∃ net, (Model.tree m).extract = .ok net ∧
      List.Forall₂ (fun leaf layer => ∃ s, Keeps leaf layer s) m.denseLeaves net.layers) ∧
    (m.isLeaf = true → m.leaves = [(m.info.className, m.info)]) ∧
    ∀ other : Module, other.IsDense →
      other.denseLeaves.map (fun leaf => leaf.2.shown) =
        m.denseLeaves.map (fun leaf => leaf.2.shown) →
      (Model.tree other).extract.map Network.unnamed =
        (Model.tree m).extract.map Network.unnamed := by
  obtain ⟨kept, hkept, hextract⟩ := hm.exists_kept
  refine ⟨?_, ?_, leaves_of_isLeaf, ?_⟩
  · intro hnone
    rw [hnone, List.forall₂_nil_left_iff] at hkept
    rw [hextract, hkept]
    rfl
  · intro hsome
    have hlayers : (kept.map fun k => k.2.layer k.1) ≠ [] := by
      rw [ne_eq, List.map_eq_nil_iff]
      rintro rfl
      exact hsome (List.forall₂_nil_right_iff.1 hkept)
    refine ⟨⟨_, hlayers⟩, hextract.trans (dif_pos hlayers), ?_⟩
    rw [List.forall₂_map_right_iff]
    refine hkept.imp fun leaf k hleaf => ⟨k.2, ?_⟩
    rw [← hleaf.name]
    exact keeps_layer hleaf.stores
  · intro other hother hshown
    obtain ⟨kept', hkept', hextract'⟩ := hother.exists_kept
    -- The same tensors are shown, so the same matrices and biases are stored.
    have htensors : (kept'.map Prod.snd).map StoredLayer.tensors =
        (kept.map Prod.snd).map StoredLayer.tensors := by
      rw [List.map_map, List.map_map]
      exact (map_shown_eq hkept').symm.trans (hshown.trans (map_shown_eq hkept))
    have hsame : kept'.map Prod.snd = kept.map Prod.snd :=
      List.map_injective_iff.2 StoredLayer.tensors_injective htensors
    rw [hextract, hextract', Network.map_unnamed_create, Network.map_unnamed_create,
      map_unnamed_layer, map_unnamed_layer, hsame]

end Module

/-! ### A model with one fully connected leaf -/

/-- The matrix with the rows (1, 2) and (3, 4), and a bias of one for the first output. -/
def StoredLayer.sample : StoredLayer where
  inputs := 2
  outputs := 2
  weights := [.one, .finite false 1 1, .finite false 3 0, .finite false 1 2]
  bias := some [.one, .zero]
  inputs_pos := Nat.two_pos
  outputs_pos := Nat.two_pos
  weights_length := rfl
  bias_length := by simp
  weights_finite := by decide
  bias_finite := by simp [Datum.isFinite, Datum.one, Datum.zero]

/-- A fully connected module. -/
def ModuleInfo.sampleLinear : ModuleInfo where
  identity := 2
  className := "Linear"
  isLinear := true
  isActivation := false
  parameters :=
    [("weight", ⟨[2, 2], StoredLayer.sample.weights⟩), ("bias", ⟨[2], [.one, .zero]⟩)]
  buffers := []

/-- A module without tensors. -/
def ModuleInfo.sampleDropout : ModuleInfo where
  identity := 1
  className := "Dropout"
  isLinear := false
  isActivation := false
  parameters := []
  buffers := []

theorem ModuleInfo.stores_sampleLinear : sampleLinear.Stores .sample := ⟨rfl, rfl, rfl⟩

namespace Module

open ModuleInfo

/-- A sequence of both. -/
def sampleSequence : Module :=
  .node { sampleDropout with identity := 0, className := "Sequential" }
    [("0", .node sampleDropout []), ("1", .node sampleLinear [])]

theorem leaves_sampleSequence :
    sampleSequence.leaves = [("0", sampleDropout), ("1", sampleLinear)] := by
  decide

theorem isDense_sampleSequence : sampleSequence.IsDense where
  showsLeaves := by decide
  leaves := by
    rw [leaves_sampleSequence]
    simpa using ⟨.inr rfl, .inl ⟨.sample, stores_sampleLinear⟩⟩

theorem isDense_sampleLinear : (Module.node sampleLinear []).IsDense where
  showsLeaves := by decide
  leaves := by
    rw [leaves_of_isLeaf rfl]
    simpa using .inl ⟨.sample, stores_sampleLinear⟩

theorem IsDense.extract_keeps_sampleSequence :
    sampleSequence.denseLeaves = [("1", sampleLinear)] ∧
    (∃ net, (Model.tree sampleSequence).extract = .ok net ∧
      List.Forall₂ (fun leaf layer => ∃ s, Keeps leaf layer s) sampleSequence.denseLeaves
        net.layers) ∧
    (Model.tree (.node sampleLinear [])).extract.map Network.unnamed =
      (Model.tree sampleSequence).extract.map Network.unnamed := by
  have hdense : sampleSequence.denseLeaves = [("1", sampleLinear)] := by decide
  obtain ⟨-, hsome, -, hsame⟩ := IsDense.extract_keeps isDense_sampleSequence
  exact ⟨hdense, hsome (by simp [hdense]), hsame _ isDense_sampleLinear (by decide)⟩

end Module

end DenseSketch
