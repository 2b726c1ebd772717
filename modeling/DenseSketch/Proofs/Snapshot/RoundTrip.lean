import DenseSketch.Proofs.Document.Ascii
import DenseSketch.Proofs.Document.Values
import DenseSketch.Proofs.Storage.Written
import DenseSketch.Proofs.Tensor.Nested
import DenseSketch.Snapshot.Basic

/-!
# Saved networks are loaded again

A snapshot is read back layer by layer.  What is loaded from a file that was saved is the network
and the metadata that went into it: names and labels character by character, weights and biases
datum by datum, a missing bias as a missing one.  Only two single surrogates that stand side by side
in a name or a label come back as the one character that they encode.  The snapshots are those of
SPEC_FULL, section 9.4.
-/

namespace DenseSketch.Snapshot

open Document Text

/-! ### Data -/

/-- Single-precision data are read as they are. -/
theorem ofDocument_ofData {xs : List Datum} (hxs : ∀ x ∈ xs, Format.binary32.Holds x) :
    Tensor.ofDocument (ofData xs) = .ok ⟨[xs.length], xs⟩ := by
  have hscalars : ∀ item ∈ xs.map Document.real, item.IsScalar :=
    List.forall_mem_map.2 fun _ _ => trivial
  have hround : (xs.map Document.real).mapM Tensor.leafData = .ok xs := by
    rw [List.mapM_map]
    refine (mapM_eq_pure_map (g := id) fun x hx => ?_).trans (congrArg Except.ok (List.map_id xs))
    exact congrArg Except.ok (hxs x hx).round_eq
  rw [ofData, Tensor.ofDocument_list hscalars, hround]
  rfl

/-- Single-precision data are written so that they can be told apart. -/
theorem restored_ofData {xs : List Datum} (hxs : ∀ x ∈ xs, Format.binary32.Holds x) :
    restored (ofData xs) = ofData xs := by
  rw [ofData, restored_list, List.map_map]
  congr 1
  refine List.map_congr_left fun x hx => ?_
  exact congrArg Document.real (hxs x hx).widen.round_eq

theorem restored_text {s : String} (hs : IsJoined s) : restored (.text s) = .text s :=
  congrArg Document.text (rejoined_eq hs)

/-! ### Members -/

theorem at?_record {kept : List (String × Document)} {key : String} {value : Document}
    (hfound : lookup? key kept = some value) : at? (.record kept) key = .ok value := by
  rw [at?, hfound]

/-! ### Layers -/

/-- The layer that is read back: the surrogates of its name are joined. -/
def rejoinedLayer (layer : Layer) : Layer := { layer with name := restored layer.name }

/-- What a snapshot can hold of a layer: a name that is a text and data of single precision. -/
structure IsStorable (layer : Layer) : Prop where
  name : ∃ s, layer.name = .text s
  parameters : ∀ x ∈ layer.parameters, Format.binary32.Holds x

namespace IsStorable

variable {layer : Layer}

theorem weights (hlayer : IsStorable layer) : ∀ x ∈ layer.weights, Format.binary32.Holds x :=
  fun x hx => hlayer.parameters x (List.mem_append_left _ hx)

theorem bias (hlayer : IsStorable layer) {b : List Datum} (hb : layer.bias = some b) :
    ∀ x ∈ b, Format.binary32.Holds x := by
  intro x hx
  refine hlayer.parameters x (List.mem_append_right _ ?_)
  rw [hb]
  exact hx

theorem rejoined (hlayer : IsStorable layer) : IsStorable (rejoinedLayer layer) := by
  obtain ⟨s, hname⟩ := hlayer.name
  constructor
  case name => exact ⟨Document.rejoined s, congrArg restored hname⟩
  case parameters => exact hlayer.parameters

theorem rejoinedLayer_eq (hlayer : IsStorable layer) (hjoined : IsJoined layer.name.shown) :
    rejoinedLayer layer = layer := by
  obtain ⟨s, hname⟩ := hlayer.name
  rw [hname, shown] at hjoined
  have hrestored : restored layer.name = layer.name := by rw [hname, restored_text hjoined]
  rw [rejoinedLayer, hrestored]

end IsStorable

/-- The parts of a layer make the layer. -/
theorem toLayer_parts {layer : Layer} (hlayer : IsStorable layer) :
    LayerParts.toLayer
      { name := layer.name
        kind := .text Layer.kindName
        inputs := .integer layer.inputs
        outputs := .integer layer.outputs
        weights := ofData layer.weights
        bias := (layer.bias.map ofData).getD .null } = .ok layer := by
  have hpositive : ¬ (layer.inputs : Int) ≤ 0 := by
    have hinputs := layer.inputs_pos
    omega
  have hcreate := Layer.create_self layer (Document.integer layer.inputs).shown
    (Document.integer layer.outputs).shown
  cases hbias : layer.bias with
  | none =>
    rw [hbias] at hcreate
    simp only [LayerParts.toLayer, ofDocument_ofData hlayer.weights, Option.map_none,
      Option.getD_none, toInt, bind, Except.bind, pure, Except.pure, beq_self_eq_true, if_true,
      if_neg hpositive, hcreate]
  | some b =>
    rw [hbias] at hcreate
    have hweights := ofDocument_ofData hlayer.weights
    have htensor := ofDocument_ofData (hlayer.bias hbias)
    rw [ofData] at hweights htensor
    simp only [LayerParts.toLayer, ofData, hweights, htensor, Option.map_some, Option.getD_some,
      Functor.map, Except.map, toInt, bind, Except.bind, beq_self_eq_true,
      if_true, if_neg hpositive, hcreate]

theorem toLayer_restored {layer : Layer} (hlayer : IsStorable layer) :
    toLayer (restored (ofLayer layer)) = .ok (rejoinedLayer layer) := by
  -- The members were sorted, so each one is found by its key and not by its place.
  obtain ⟨s, hname⟩ := hlayer.rejoined.name
  obtain ⟨kept, hkept, hlookup⟩ := exists_restored_record (ofLayer layer).entries
    ["name", "kind", "input_units", "output_units", "weights", "bias"] rfl (by decide) (by decide)
  have hlayerName : lookup? "name" kept = some (rejoinedLayer layer).name := hlookup "name"
  have hkind : lookup? "kind" kept = some (.text Layer.kindName) :=
    (hlookup "kind").trans (congrArg some (restored_text (by decide)))
  have hinputs : lookup? "input_units" kept = some (.integer layer.inputs) := hlookup "input_units"
  have houtputs : lookup? "output_units" kept = some (.integer layer.outputs) :=
    hlookup "output_units"
  have hweights : lookup? "weights" kept = some (ofData layer.weights) :=
    (hlookup "weights").trans (congrArg some (restored_ofData hlayer.weights))
  have hbias : lookup? "bias" kept = some ((layer.bias.map ofData).getD .null) := by
    rw [hlookup]
    change some (restored ((layer.bias.map ofData).getD .null)) = _
    cases hb : layer.bias with
    | none => rfl
    | some b => exact congrArg some (restored_ofData (hlayer.bias hb))
  have hparts := toLayer_parts hlayer.rejoined
  have hshown : Document.text (rejoinedLayer layer).name.shown = (rejoinedLayer layer).name := by
    rw [hname, shown]
  have hrecord : restored (ofLayer layer) = .record kept := hkept
  rw [hrecord]
  simp only [toLayer, at?_record hlayerName, at?_record hinputs, at?_record houtputs,
    at?_record hweights, member?, hkind, hbias, Option.getD_some, toInt, bind, Except.bind, hshown]
  exact hparts

/-! ### Metadata -/

/-- The metadata that are read back: the surrogates of the labels are joined. -/
def rejoinedMetadata (m : Metadata) : Metadata := { m with labels := m.labels.map rejoined }

theorem rejoinedMetadata_eq {m : Metadata} (hlabels : ∀ label ∈ m.labels, IsJoined label) :
    rejoinedMetadata m = m := by
  have hmap : m.labels.map rejoined = m.labels :=
    (List.map_congr_left fun label hlabel => rejoined_eq (hlabels label hlabel)).trans (List.map_id _)
  rw [rejoinedMetadata, hmap]

theorem restored_ofTexts (labels : List String) :
    restored (.ofTexts labels) = .ofTexts (labels.map rejoined) := by
  rw [ofTexts, ofTexts, restored_list, List.map_map, List.map_map]
  rfl

theorem labelsOf_ofTexts (labels : List String) :
    Metadata.labelsOf (.ofTexts labels) = .ok labels := by
  have hshown : (labels.map Document.text).map shown = labels := by
    rw [List.map_map]
    exact List.map_id labels
  exact congrArg Except.ok hshown

theorem ofDocument_name (v : Variant) : Variant.ofDocument (.text v.name) = .ok v := by
  cases v with
  | classification => decide
  | regression => decide

theorem create_metadata (m : Metadata) :
    Metadata.create m.labels m.variant (.integer m.window) = .ok m := by
  obtain ⟨labels, window, variant, hwindow⟩ := m
  simp only [Metadata.create, toInt, bind, Except.bind, Int.toNat_natCast, dif_pos hwindow, pure,
    Except.pure]

theorem toMetadata_restored (m : Metadata) :
    toMetadata (restored (ofMetadata m)) = .ok (rejoinedMetadata m) := by
  obtain ⟨kept, hkept, hlookup⟩ := exists_restored_record (ofMetadata m).entries
    ["output_labels", "sample_window_size", "variant"] rfl (by decide) (by decide)
  have hlisted : lookup? "output_labels" kept = some (.ofTexts (m.labels.map rejoined)) :=
    (hlookup "output_labels").trans (congrArg some (restored_ofTexts m.labels))
  have hwindow : lookup? "sample_window_size" kept = some (.integer m.window) :=
    hlookup "sample_window_size"
  have hvariant : lookup? "variant" kept = some (.text m.variant.name) := by
    refine (hlookup "variant").trans (congrArg some (restored_text ?_))
    cases m.variant with
    | classification => decide
    | regression => decide
  have hrecord : restored (ofMetadata m) = .record kept := hkept
  rw [hrecord]
  have hcreate := create_metadata (rejoinedMetadata m)
  rw [rejoinedMetadata] at hcreate ⊢
  simp only [toMetadata, at?_record hlisted, at?_record hwindow, at?_record hvariant,
    Metadata.ofDocuments, labelsOf_ofTexts, ofDocument_name, hcreate, bind, Except.bind]

/-! ### Snapshots -/

/-- The network that is read back: the surrogates of the names are joined. -/
def rejoinedNetwork (net : Network) : Network where
  layers := net.layers.map rejoinedLayer
  layers_ne_nil := mt List.map_eq_nil_iff.1 net.layers_ne_nil

theorem rejoinedNetwork_eq {net : Network} (hlayers : ∀ layer ∈ net.layers, IsStorable layer)
    (hnames : ∀ layer ∈ net.layers, IsJoined layer.name.shown) : rejoinedNetwork net = net := by
  have hmap : net.layers.map rejoinedLayer = net.layers := by
    refine (List.map_congr_left fun layer hlayer => ?_).trans (List.map_id _)
    exact (hlayers layer hlayer).rejoinedLayer_eq (hnames layer hlayer)
  obtain ⟨layers, hlayersNe⟩ := net
  simp only [rejoinedNetwork, hmap]

theorem layers_restored {layers : List Layer} (hlayers : ∀ layer ∈ layers, IsStorable layer) :
    ((layers.map ofLayer).map restored).mapM toLayer = .ok (layers.map rejoinedLayer) := by
  rw [List.map_map, List.mapM_map]
  refine mapM_eq_pure_map fun layer hlayer => ?_
  exact toLayer_restored (hlayers layer hlayer)

theorem ofDocument_restored {net : Network} {m : Metadata} (createdAt : String)
    (extra : List (String × Document)) (hlayers : ∀ layer ∈ net.layers, IsStorable layer) :
    ofDocument (restored (document net m createdAt extra)) =
      .ok (rejoinedNetwork net, rejoinedMetadata m) := by
  obtain ⟨kept, hkept, hlookup⟩ := exists_restored_record (document net m createdAt extra).entries
    ["schema_version", "kind", "created_utc", "model", "metadata", "extra"] rfl (by decide)
    (by decide)
  obtain ⟨inner, hinner, hinside⟩ := exists_restored_record
    [("layers", .list (net.layers.map ofLayer))] ["layers"] rfl (by decide) (by decide)
  have hversion : lookup? "schema_version" kept = some (.text schemaVersion) :=
    (hlookup "schema_version").trans (congrArg some (restored_text (by decide)))
  have hkind : lookup? "kind" kept = some (.text kind) :=
    (hlookup "kind").trans (congrArg some (restored_text (by decide)))
  have hmodel : lookup? "model" kept = some (.record inner) :=
    (hlookup "model").trans (congrArg some hinner)
  have hentries : lookup? "layers" inner = some (.list ((net.layers.map ofLayer).map restored)) :=
    (hinside "layers").trans (congrArg some (restored_list _))
  have hmetadata : lookup? "metadata" kept = some (restored (ofMetadata m)) := hlookup "metadata"
  have hrecord : restored (document net m createdAt extra) = .record kept := hkept
  have hform : checkForm (.record kept) = .ok () := by
    simp only [checkForm, hkind, hversion, if_true, Option.map_some, Option.getD_some, shown]
  have hcontent : content (.record kept) =
      .ok ((rejoinedNetwork net).layers, rejoinedMetadata m) := by
    simp only [content, at?_record hmodel, at?_record hentries, at?_record hmetadata, items?,
      layers_restored hlayers, toMetadata_restored, bind, Except.bind, pure, Except.pure]
    rfl
  have hnet : Network.create (rejoinedNetwork net).layers = .ok (rejoinedNetwork net) :=
    dif_pos (rejoinedNetwork net).layers_ne_nil
  rw [hrecord]
  simp only [ofDocument, hform, hcontent, namingMissing, hnet, bind, Except.bind, pure, Except.pure]

/-! ### A network that is hard to write -/

/-- Two layers with names that need escapes, and with data that are no numbers, infinite, negative
    zeros and subnormal. -/
def odd : Network where
  layers := [
    { name := .text (String.ofList ['"', '\\', '\n', '\x01', 'é', '😀', charOf 0xdc00, charOf 0xd800])
      inputs := 3
      outputs := 2
      weights := [.nan, .infinite false, .infinite true, .zeroOf true, .finite true 1 (-149), .one]
      bias := none
      inputs_pos := by decide
      outputs_pos := by decide
      weights_length := rfl
      bias_length := by simp },
    { name := .text ""
      inputs := 2
      outputs := 1
      weights := [.finite false 13421773 (-27), .finite false 16777215 104]
      bias := some [.nan]
      inputs_pos := by decide
      outputs_pos := by decide
      weights_length := rfl
      bias_length := by simp }]
  layers_ne_nil := by simp

/-- A label of two lines and one that is empty. -/
def oddMetadata : Metadata := ⟨["a\r\nb,", ""], 7, .regression, by decide⟩

theorem isStorable_odd : ∀ layer ∈ odd.layers, IsStorable layer := by
  intro layer hlayer
  simp only [odd, List.mem_cons, List.not_mem_nil, or_false] at hlayer
  rcases hlayer with rfl | rfl
  · exact ⟨⟨_, rfl⟩, by decide⟩
  · exact ⟨⟨_, rfl⟩, by decide⟩

/-- Its snapshot, with a note of the caller's. -/
def oddDocument : Document :=
  document odd oddMetadata "2026-01-01T00:00:00Z"
    [("note", .list [.integer (-3), .real (.zeroOf true)])]

/-! ### Files -/

theorem checkedText_eq_ok {members : List (String × Document)} {text : String} :
    checkedText members = .ok text ↔ (Document.record members).depth ≤ maxNesting ∧
      (Document.record members).isWritable ∧ fileText (.record members) = text := by
  unfold checkedText
  split
  · next hdeep => simp [Nat.not_le.2 hdeep]
  · next hdeep =>
    split
    · next hwritable => simp [Nat.not_lt.1 hdeep, hwritable]
    · next hwritable => simp [hwritable]

/-- A snapshot is saved where its directory can be made and the text can be written. -/
theorem save_eq_ok {l : Location} {text path : String} {tree saved : Tree} :
    save l text tree = (saved, .ok path) ↔
      ∃ made, tree.makeDirectory l.parent = .ok made ∧ made.write l text = (saved, .ok ()) ∧
        l.text = path := by
  unfold save
  split
  · next fault hmade => simp [hmade]
  · next made hmade =>
    simp only [hmade, Except.ok.injEq, exists_eq_left']
    rcases made.write l text with ⟨written, result⟩
    cases result with
    | error fault => simp [Except.map]
    | ok value => simp [Except.map]

/-- What is loaded has everything that was saved, with the surrogates of names and labels joined. -/
theorem load_of_save {net : Network} {m : Metadata} {createdAt : String}
    {extra : List (String × Document)} {text path : String} {l : Location} {tree saved : Tree}
    (hlayers : ∀ layer ∈ net.layers, IsStorable layer)
    (htext : checkedText (document net m createdAt extra).entries = .ok text)
    (hsave : save l text tree = (saved, .ok path)) :
    load l saved = .ok (rejoinedNetwork net, rejoinedMetadata m) := by
  obtain ⟨hdepth, hwritable, rfl⟩ := checkedText_eq_ok.1 htext
  have hread : Document.read (fileText (document net m createdAt extra)) =
      .ok (restored (document net m createdAt extra)) :=
    read_canonical (hdepth.trans (by decide)) hwritable
  obtain ⟨made, -, hwrite, -⟩ := save_eq_ok.1 hsave
  have hfile : saved.read l = .ok (fileText (document net m createdAt extra)) :=
    Tree.read_of_write hwrite
  simp only [load, hfile, ofText, hread, ofDocument_restored createdAt extra hlayers, bind,
    Except.bind]

/-- **What was saved is loaded.**  The layers come back in their order, each with its name, its unit
    counts, its weights and its bias or none, and the metadata with its labels, window and variant,
    whatever else the snapshot holds and whenever it was made.  That holds for all names and labels,
    up to single surrogates that form a pair: these are joined. -/
theorem load_save {net : Network} {m : Metadata} {createdAt : String}
    {extra : List (String × Document)} {text path : String} {l : Location} {tree saved : Tree}
    (hlayers : ∀ layer ∈ net.layers, IsStorable layer)
    (htext : checkedText (document net m createdAt extra).entries = .ok text)
    (hsave : save l text tree = (saved, .ok path)) :
    load l saved = .ok (rejoinedNetwork net, rejoinedMetadata m) ∧
      ((∀ layer ∈ net.layers, IsJoined layer.name.shown) → (∀ label ∈ m.labels, IsJoined label) →
        load l saved = .ok (net, m)) := by
  have hload := load_of_save hlayers htext hsave
  refine ⟨hload, fun hnames hlabels => ?_⟩
  rw [hload, rejoinedNetwork_eq hlayers hnames, rejoinedMetadata_eq hlabels]

/-- A snapshot that can be written is saved in an empty directory. -/
theorem save_empty (d : Document) :
    ∃ saved, save (.ofText "model_ir.json") (fileText d) {} = (saved, .ok "model_ir.json") :=
  ⟨_, save_eq_ok.2 ⟨{}, rfl,
    Tree.write_eq_ok.2 ⟨["model_ir.json"], by rfl, by decide, isEncodable_canonical d, rfl⟩,
    by decide⟩⟩

theorem load_save_odd : ∃ text saved path,
    checkedText oddDocument.entries = .ok text ∧
      save (.ofText "model_ir.json") text {} = (saved, .ok path) ∧
      load (.ofText "model_ir.json") saved = .ok (odd, oddMetadata) := by
  have htext : checkedText oddDocument.entries = .ok (fileText oddDocument) :=
    checkedText_eq_ok.2 ⟨by decide, by decide, rfl⟩
  obtain ⟨saved, hsave⟩ := save_empty oddDocument
  exact ⟨_, _, _, htext, hsave, (load_save isStorable_odd htext hsave).2 (by decide) (by decide)⟩

/-! ### A pair that is lost -/

/-- Two characters that stand for the surrogates of one. -/
def pair : String := String.ofList [charOf 0xd83d, charOf 0xde00]

theorem rejoined_pair : rejoined pair = "😀" := by decide

/-- One layer of that name. -/
def paired : Network where
  layers := [
    { name := .text pair
      inputs := 1
      outputs := 1
      weights := [.one]
      bias := some [.zero]
      inputs_pos := Nat.one_pos
      outputs_pos := Nat.one_pos
      weights_length := rfl
      bias_length := by simp }]
  layers_ne_nil := by simp

/-- One label that is the pair. -/
def pairedMetadata : Metadata := ⟨[pair], 1, .regression, by decide⟩

theorem isStorable_paired : ∀ layer ∈ paired.layers, IsStorable layer := by
  simp only [paired, List.forall_mem_singleton]
  exact ⟨⟨_, rfl⟩, by decide⟩

/-- What comes back of the pair, as a name and as a label, is the one character. -/
theorem load_save_paired : (∀ layer ∈ paired.layers, IsStorable layer) ∧
    ∃ text saved path net m,
      checkedText (document paired pairedMetadata "" []).entries = .ok text ∧
      save (.ofText "model_ir.json") text {} = (saved, .ok path) ∧
      load (.ofText "model_ir.json") saved = .ok (net, m) ∧
      net.layers.map (·.name.shown) = ["😀"] ∧ m.labels = ["😀"] ∧
      paired.layers.map (·.name.shown) = [pair] ∧ pairedMetadata.labels = [pair] ∧ "😀" ≠ pair := by
  have htext : checkedText (document paired pairedMetadata "" []).entries =
      .ok (fileText (document paired pairedMetadata "" [])) :=
    checkedText_eq_ok.2 ⟨by decide, by decide, rfl⟩
  obtain ⟨saved, hsave⟩ := save_empty (document paired pairedMetadata "" [])
  refine ⟨isStorable_paired, _, saved, _, _, _, htext, hsave,
    load_of_save isStorable_paired htext hsave, ?_, ?_, rfl, rfl, by decide⟩
  · exact congrArg (fun name => [name]) rejoined_pair
  · exact congrArg (fun label => [label]) rejoined_pair

end DenseSketch.Snapshot
