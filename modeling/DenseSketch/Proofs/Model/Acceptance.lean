import DenseSketch.Proofs.Model.Compatibility
import DenseSketch.Proofs.Model.Extraction
import DenseSketch.Proofs.Tensor.Nested

/-!
# Compatible models are extracted

In a model that the scan calls compatible every layer with weights has a kind equal to that of a
dense one, and there is such a layer.  Extraction does not compare this kind, it compares how the
kind is shown.  The two differ for a member of an enumeration of texts, and only for such a layer is
a compatible model refused for its structure.  Apart from that, the tensors alone can go wrong: the
model is extracted if each of them can be converted, has a proper shape and is finite.  The scan is
that of SPEC_FULL, section 9.6, the extraction that of section 4.1.
-/

namespace DenseSketch

/-- The reasons that lie in the structure of a model: a layer with weights of another kind, or no
    layer with weights at all. -/
inductive Fault.IsStructural : Fault → Prop
  | unsupportedKind (layer kind : String) : IsStructural (.unsupportedKind layer kind)
  | emptyModel : IsStructural .emptyModel

theorem Fault.IsOutside.not_isStructural {fault : Fault} (h : fault.IsOutside) :
    ¬ fault.IsStructural := by
  rintro (_ | _) <;> cases h

/-! ### Proper tensors -/

/-- Weights with these axes connect so many inputs with so many outputs: a matrix has both counts, a
    vector feeds one output. -/
inductive Connects : List Nat → Nat → Nat → Prop
  | matrix (inputs outputs : Nat) : Connects [inputs, outputs] inputs outputs
  | vector (inputs : Nat) : Connects [inputs] inputs 1

/-- Weights and a bias that make a layer: a matrix or a vector that is not empty, with a number for
    each pair of an input and an output, a number for each output in the bias, and all of them
    finite. -/
structure IsProper (weights : Tensor) (bias : Option Tensor) (inputs outputs : Nat) : Prop where
  connects : Connects weights.dims inputs outputs
  inputs_pos : 0 < inputs
  outputs_pos : 0 < outputs
  weights_length : weights.data.length = inputs * outputs
  weights_finite : ∀ x ∈ weights.data, x.isFinite
  bias_length : ∀ b ∈ bias, b.data.length = outputs
  bias_finite : ∀ b ∈ bias, ∀ x ∈ b.data, x.isFinite

namespace Materialized

variable {copy : Materialized} {inputs outputs : Nat}

theorem units_eq_ok :
    copy.units = .ok (inputs, outputs) ↔ Connects copy.weights.dims inputs outputs := by
  constructor
  · intro h
    unfold units at h
    split at h
    · next hdims =>
      cases h
      rw [hdims]
      exact .matrix _ _
    · next hdims =>
      cases h
      rw [hdims]
      exact .vector _
    · cases h
  · intro h
    unfold units
    generalize copy.weights.dims = dims at h
    cases h <;> rfl

theorem exists_create_iff {name : Document} {shownInputs shownOutputs : String}
    {weights : List Datum} {bias : Option (List Datum)} :
    (∃ layer, Layer.create name inputs outputs shownInputs shownOutputs weights bias = .ok layer) ↔
      0 < inputs ∧ 0 < outputs ∧ weights.length = inputs * outputs ∧
        ∀ b ∈ bias, b.length = outputs := by
  constructor
  · rintro ⟨layer, h⟩
    unfold Layer.create at h
    split_ifs at h with hinputs houtputs hweights hbias
    exact ⟨hinputs, houtputs, hweights, hbias⟩
  · rintro ⟨hinputs, houtputs, hweights, hbias⟩
    exact ⟨_, Layer.create_self
      ⟨name, inputs, outputs, weights, bias, hinputs, houtputs, hweights, hbias⟩ _ _⟩

/-- A copy becomes a layer exactly if it is a dense one and its tensors are proper. -/
theorem exists_toLayer_iff :
    (∃ layer, copy.toLayer = .ok layer) ↔
      copy.kind = Layer.kindName ∧
        ∃ inputs outputs, IsProper copy.weights copy.bias inputs outputs := by
  have hweights : allFinite copy.weights = true ↔ ∀ x ∈ copy.weights.data, x.isFinite :=
    List.all_eq_true
  have hbias : (copy.bias.any fun b => !allFinite b) = false ↔
      ∀ b ∈ copy.bias, ∀ x ∈ b.data, x.isFinite := by
    simp [Option.any_eq_false, allFinite]
  constructor
  · rintro ⟨layer, h⟩
    simp only [toLayer, bind_eq_ok, refuse_eq_ok, throw_bind, ne_eq, not_not, Prod.exists,
      Bool.not_eq_true', Bool.not_eq_false, Bool.not_eq_true] at h
    obtain ⟨inputs, outputs, hunits, hkind, hfinite, hbiasFinite, hcreate⟩ := h
    obtain ⟨hinputs, houtputs, hlength, hbiasLength⟩ := exists_create_iff.1 ⟨layer, hcreate⟩
    refine ⟨hkind, inputs, outputs, ?_⟩
    constructor
    case connects => exact units_eq_ok.1 hunits
    case inputs_pos => exact hinputs
    case outputs_pos => exact houtputs
    case weights_length => exact hlength
    case weights_finite => exact hweights.1 hfinite
    case bias_length =>
      intro b hb
      exact hbiasLength b.data (Option.mem_map_of_mem _ hb)
    case bias_finite => exact hbias.1 hbiasFinite
  · rintro ⟨hkind, inputs, outputs, hproper⟩
    obtain ⟨layer, hcreate⟩ := exists_create_iff.2 ⟨hproper.inputs_pos, hproper.outputs_pos,
      hproper.weights_length, Option.forall_mem_map.2 hproper.bias_length⟩
    refine ⟨layer, ?_⟩
    simp only [toLayer, units_eq_ok.2 hproper.connects, hkind, hweights.2 hproper.weights_finite,
      hbias.2 hproper.bias_finite, bind, Except.bind]
    exact hcreate

theorem refusedFor_units : RefusedFor (fun fault => ¬ fault.IsStructural) copy.units := by
  unfold units
  split
  · exact .ok _
  · exact .ok _
  · exact .error nofun

theorem refusedFor_create {name : Document} {inputs outputs : Int}
    {shownInputs shownOutputs : String} {weights : List Datum} {bias : Option (List Datum)} :
    RefusedFor (fun fault => ¬ fault.IsStructural)
      (Layer.create name inputs outputs shownInputs shownOutputs weights bias) := by
  unfold Layer.create
  split_ifs
  · exact .ok _
  all_goals exact .error nofun

/-- The refusal of a copy that is of another kind than a dense one. -/
def IsOfOtherKind (copy : Materialized) (fault : Fault) : Prop :=
  copy.kind ≠ Layer.kindName ∧ fault = .unsupportedKind copy.name.shown copy.kind

/-- The only refusal of a copy that lies in the structure of the model is that of another kind. -/
theorem refusedFor_toLayer :
    RefusedFor (fun fault => fault.IsStructural → copy.IsOfOtherKind fault) copy.toLayer := by
  refine .bind (refusedFor_units.mono fun _ hnot h => absurd h hnot) fun (inputs, outputs) _ => ?_
  refine .refuse (fun hkind _ => ⟨hkind, rfl⟩) ?_
  refine .refuse (fun _ => nofun) ?_
  refine .refuse (fun _ => nofun) ?_
  exact refusedFor_create.mono fun _ hnot h => absurd h hnot

/-- A copy of proper tensors is refused for its kind only. -/
theorem IsOfOtherKind.of_toLayer (hproper : IsProper copy.weights copy.bias inputs outputs)
    {fault : Fault} (h : copy.toLayer = .error fault) : copy.IsOfOtherKind fault := by
  have hkind : copy.kind ≠ Layer.kindName := by
    intro hkind
    obtain ⟨layer, hlayer⟩ := exists_toLayer_iff.2 ⟨hkind, inputs, outputs, hproper⟩
    rw [hlayer] at h
    cases h
  refine ⟨hkind, ?_⟩
  simp only [toLayer, units_eq_ok.2 hproper.connects, ne_eq, hkind, not_false_eq_true, if_true,
    bind, Except.bind] at h
  cases h
  rfl

end Materialized

/-! ### Layers that the scan accepts -/

namespace LayerView

variable {view : LayerView} {views : List LayerView} {copies : List Materialized}

/-- The scan has nothing against the layer: it shows no weights, or its kind is equal to that of a
    dense one. -/
def IsAccepted (view : LayerView) : Prop :=
  view.weights = .ok none ∨ ∃ held, view.weights = .ok (some held) ∧ view.IsCalledDense

/-- The kind of a layer with weights is shown as that of a dense one, up to capitals. -/
def IsShownDense (view : LayerView) : Prop :=
  ∀ held kind, view.weights = .ok (some held) → view.kind = .ok kind →
    Text.lower kind.shown = Layer.kindName

/-- The refusal of a layer with weights whose kind is shown as something else. -/
def IsMisshown (view : LayerView) (fault : Fault) : Prop :=
  ∃ held kind, view.weights = .ok (some held) ∧ view.kind = .ok kind ∧
    Text.lower kind.shown ≠ Layer.kindName ∧
    fault = .unsupportedKind view.name.shown (Text.lower kind.shown)

/-- What a layer holds can be converted and makes proper tensors, if it shows weights. -/
def HoldsProper (view : LayerView) : Prop :=
  ∀ held, view.weights = .ok (some held) →
    ∃ weights bias inputs outputs, held.toTensor = .ok weights ∧
      view.bias.mapM Held.toTensor = .ok bias ∧ IsProper weights bias inputs outputs

theorem isAccepted_of_ofView {finding : Finding} (h : Finding.ofView view = .ok finding)
    (hstatus : finding.status ≠ .unsupported) : view.IsAccepted := by
  rw [Finding.ofView, bind_eq_ok] at h
  obtain ⟨weights, hweights, h⟩ := h
  cases weights with
  | none => exact .inl hweights
  | some held =>
    rw [bind_eq_ok] at h
    obtain ⟨kind, hkind, h⟩ := h
    by_cases hdense : Finding.isDense kind
    · exact .inr ⟨held, hweights, kind, hkind, Finding.isDense_iff.1 hdense⟩
    · rw [if_neg hdense] at h
      cases h
      exact absurd rfl hstatus

/-! ### Copies -/

theorem materialize_of_weightless (h : view.weights = .ok none) : view.materialize = .ok none := by
  rw [materialize, h]
  rfl

/-- A layer with weights is copied as it is shown, once its tensors are converted. -/
theorem materialize_of_weights {held : Held} {kind : Kind}
    (hweights : view.weights = .ok (some held)) (hkind : view.kind = .ok kind) :
    view.materialize = held.toTensor >>= fun weights =>
      view.bias.mapM Held.toTensor >>= fun bias =>
        .ok (some ⟨view.name, Text.lower kind.shown, weights, bias⟩) := by
  simp only [materialize, hweights, hkind, bind, Except.bind]
  rfl

theorem IsMisshown.of_materialize {copy : Materialized} {fault : Fault}
    (hcopy : view.materialize = .ok (some copy)) (h : copy.IsOfOtherKind fault) :
    view.IsMisshown fault := by
  obtain ⟨-, hnone⟩ | ⟨held, kind, _, hweights, hkind, hsame, hname, hlower⟩ :=
    materialize_eq_ok hcopy
  · cases hnone
  · obtain rfl := Option.some.inj hsame
    obtain ⟨hother, rfl⟩ := h
    rw [hlower] at hother
    exact ⟨held, kind, hweights, hkind, hother, by rw [hname, hlower]⟩

theorem refusedFor_materialize (h : view.IsAccepted) :
    RefusedFor Fault.IsOutside view.materialize := by
  have hheld : ∀ held : Held, RefusedFor Fault.IsOutside held.toTensor := by
    intro held
    cases held with
    | tensor t => exact .ok t
    | plain d => exact (Tensor.refusedFor_ofDocument d).mono fun _ => Fault.IsOfNumber.isOutside
  rcases h with hnone | ⟨held, hweights, kind, hkind, -⟩
  · rw [materialize_of_weightless hnone]
    exact .ok none
  · rw [materialize_of_weights hweights hkind]
    refine (hheld held).bind fun weights _ => ?_
    refine (RefusedFor.mapM_option view.bias fun bias _ => hheld bias).bind fun bias _ => ?_
    exact .ok _

theorem materializeAll_cons_eq_ok :
    (materializeAll (view :: views)).2 = .ok copies ↔
      ∃ found more, view.materialize = .ok found ∧ (materializeAll views).2 = .ok more ∧
        found.toList ++ more = copies := by
  cases hfound : view.materialize with
  | error fault => simp [materializeAll, hfound]
  | ok found =>
    cases hmore : (materializeAll views).2 <;> simp [materializeAll, hfound, hmore, Except.map]

theorem refusedFor_materializeAll (h : ∀ view ∈ views, view.IsAccepted) :
    RefusedFor Fault.IsOutside (materializeAll views).2 := by
  induction views with
  | nil => exact .ok []
  | cons view rest ih =>
    rw [List.forall_mem_cons] at h
    obtain ⟨hview, hrest⟩ := h
    rw [materializeAll]
    split
    · next fault hfault => exact .error (refusedFor_materialize hview fault hfault)
    · exact (ih hrest).map _

theorem exists_materializeAll_iff :
    (∃ copies, (materializeAll views).2 = .ok copies) ↔
      ∀ view ∈ views, ∃ found, view.materialize = .ok found := by
  induction views with
  | nil => exact ⟨fun _ => List.forall_mem_nil _, fun _ => ⟨[], rfl⟩⟩
  | cons view rest ih =>
    rw [List.forall_mem_cons, ← ih]
    simp only [materializeAll_cons_eq_ok]
    constructor
    · rintro ⟨_, found, more, hfound, hmore, -⟩
      exact ⟨⟨found, hfound⟩, more, hmore⟩
    · rintro ⟨⟨found, hfound⟩, more, hmore⟩
      exact ⟨_, found, more, hfound, hmore, rfl⟩

/-- The copies are those of the layers, nothing else. -/
theorem mem_materializeAll (h : (materializeAll views).2 = .ok copies) {copy : Materialized} :
    copy ∈ copies ↔ ∃ view ∈ views, view.materialize = .ok (some copy) := by
  induction views generalizing copies with
  | nil =>
    cases h
    simp
  | cons view rest ih =>
    obtain ⟨found, more, hfound, hmore, rfl⟩ := materializeAll_cons_eq_ok.1 h
    simp [ih hmore, hfound]

/-- What an accepted layer holds is proper and shown as dense exactly if the layer is copied and its
    copy becomes a layer. -/
theorem IsAccepted.holdsProper_iff (h : view.IsAccepted) :
    view.HoldsProper ∧ view.IsShownDense ↔
      ∃ found, view.materialize = .ok found ∧
        ∀ copy ∈ found, ∃ layer, copy.toLayer = .ok layer := by
  rcases h with hnone | ⟨held, hweights, kind, hkind, -⟩
  · rw [materialize_of_weightless hnone]
    constructor
    · intro _
      exact ⟨none, rfl, nofun⟩
    · intro _
      constructor
      · intro held hweights
        rw [hnone] at hweights
        cases hweights
      · intro held kind hweights
        rw [hnone] at hweights
        cases hweights
  · rw [materialize_of_weights hweights hkind]
    constructor
    · rintro ⟨hproper, hshown⟩
      obtain ⟨weights, bias, inputs, outputs, htensor, hbias, hfits⟩ := hproper held hweights
      refine ⟨some ⟨view.name, Text.lower kind.shown, weights, bias⟩, ?_, ?_⟩
      · rw [htensor, hbias]
        rfl
      · rintro _ ⟨⟩
        exact Materialized.exists_toLayer_iff.2
          ⟨hshown held kind hweights hkind, inputs, outputs, hfits⟩
    · rintro ⟨found, hfound, hlayers⟩
      simp only [bind_eq_ok] at hfound
      obtain ⟨weights, htensor, bias, hbias, hfound⟩ := hfound
      obtain rfl := Except.ok.inj hfound
      obtain ⟨hlower, inputs, outputs, hfits⟩ := Materialized.exists_toLayer_iff.1 (hlayers _ rfl)
      constructor
      · intro other hother
        obtain rfl : held = other := Option.some.inj (Except.ok.inj (hweights.symm.trans hother))
        exact ⟨weights, bias, inputs, outputs, htensor, hbias, hfits⟩
      · intro _ other _ hother
        obtain rfl : kind = other := Except.ok.inj (hkind.symm.trans hother)
        exact hlower

/-- An accepted layer that holds proper tensors is copied, and the copy holds the same. -/
theorem IsAccepted.exists_materialize (h : view.IsAccepted) (hproper : view.HoldsProper) :
    ∃ found, view.materialize = .ok found ∧
      ∀ copy ∈ found, ∃ inputs outputs, IsProper copy.weights copy.bias inputs outputs := by
  rcases h with hnone | ⟨held, hweights, kind, hkind, -⟩
  · exact ⟨none, materialize_of_weightless hnone, nofun⟩
  · obtain ⟨weights, bias, inputs, outputs, htensor, hbias, hfits⟩ := hproper held hweights
    refine ⟨some ⟨view.name, Text.lower kind.shown, weights, bias⟩, ?_, ?_⟩
    · rw [materialize_of_weights hweights hkind, htensor, hbias]
      rfl
    · rintro _ ⟨⟩
      exact ⟨inputs, outputs, hfits⟩

/-- Accepted layers are all copied, and the copies become layers, exactly if what each one holds is
    proper and each one is shown as dense. -/
theorem exists_layers_iff (h : ∀ view ∈ views, view.IsAccepted) :
    (∃ copies, (materializeAll views).2 = .ok copies ∧
        ∃ layers, copies.mapM Materialized.toLayer = .ok layers) ↔
      ∀ view ∈ views, view.HoldsProper ∧ view.IsShownDense := by
  simp only [exists_mapM_eq_ok]
  constructor
  · rintro ⟨copies, hcopies, hlayers⟩ view hview
    obtain ⟨found, hfound⟩ := exists_materializeAll_iff.1 ⟨copies, hcopies⟩ view hview
    refine (h view hview).holdsProper_iff.2 ⟨found, hfound, ?_⟩
    intro copy hcopy
    apply hlayers copy
    rw [mem_materializeAll hcopies]
    exact ⟨view, hview, hfound.trans (congrArg _ hcopy)⟩
  · intro hproper
    obtain ⟨copies, hcopies⟩ := exists_materializeAll_iff.2 fun view hview => by
      obtain ⟨found, hfound, -⟩ := (h view hview).holdsProper_iff.1 (hproper view hview)
      exact ⟨found, hfound⟩
    refine ⟨copies, hcopies, ?_⟩
    intro copy hcopy
    obtain ⟨view, hview, hmade⟩ := (mem_materializeAll hcopies).1 hcopy
    obtain ⟨found, hfound, hlayers⟩ := (h view hview).holdsProper_iff.1 (hproper view hview)
    rw [hmade] at hfound
    exact hlayers copy (Except.ok.inj hfound).symm

/-- The copies of accepted layers are refused for a tensor, which is not proper then. -/
theorem refusedFor_copies (h : ∀ view ∈ views, view.IsAccepted) :
    RefusedFor (fun fault => fault.IsStructural ∨ (∀ view ∈ views, view.HoldsProper) →
      ∃ view ∈ views, view.IsMisshown fault) (materializeAll views).2 := by
  rintro fault hfault (hstructural | hproper)
  · exact absurd hstructural (refusedFor_materializeAll h fault hfault).not_isStructural
  · obtain ⟨copies, hcopies⟩ := exists_materializeAll_iff.2 fun view hview => by
      obtain ⟨found, hfound, -⟩ := (h view hview).exists_materialize (hproper view hview)
      exact ⟨found, hfound⟩
    rw [hcopies] at hfault
    cases hfault

theorem refusedFor_layers (h : ∀ view ∈ views, view.IsAccepted)
    (hcopies : (materializeAll views).2 = .ok copies) :
    RefusedFor (fun fault => fault.IsStructural ∨ (∀ view ∈ views, view.HoldsProper) →
      ∃ view ∈ views, view.IsMisshown fault) (copies.mapM Materialized.toLayer) := by
  refine .mapM fun copy hcopy fault hfault hreason => ?_
  obtain ⟨view, hview, hmade⟩ := (mem_materializeAll hcopies).1 hcopy
  refine ⟨view, hview, .of_materialize hmade ?_⟩
  rcases hreason with hstructural | hproper
  · exact Materialized.refusedFor_toLayer fault hfault hstructural
  · obtain ⟨found, hfound, hfits⟩ := (h view hview).exists_materialize (hproper view hview)
    obtain ⟨inputs, outputs, hfit⟩ := hfits copy (Except.ok.inj (hfound.symm.trans hmade))
    exact .of_toLayer hfit hfault

theorem IsAccepted.denseName?_eq (h : view.IsAccepted) : view.denseName? = view.extractedName? := by
  rcases h with hnone | ⟨held, hweights, kind, hkind, hvalue⟩
  · refine view.denseName?_eq_or.elim (fun hname => hname.trans ?_) id
    simp only [extractedName?, hnone]
  · simp only [denseName?, hkind, Finding.isDense_iff.2 hvalue, if_true]

end LayerView

namespace Model

variable {model : Model} {report : Report} {net : Network}

/-- The scan of a compatible model accepts every layer, and the names of its dense layers, of which
    there is one, are those of the layers with weights. -/
theorem exists_views_of_isCompatible (hscan : model.scan = .ok report)
    (hcompatible : report.isCompatible = true) :
    ∃ views, model.views = .ok views ∧ (∀ view ∈ views, view.IsAccepted) ∧
      report.dense.map (·.layerName) = views.filterMap LayerView.extractedName? ∧
      report.dense ≠ [] := by
  simp only [scan, bind_eq_ok, pure_eq_ok] at hscan
  obtain ⟨views, hviews, findings, hfindings, rfl⟩ := hscan
  rw [Report.isCompatible, Bool.and_eq_true, List.isEmpty_iff, Bool.not_eq_true',
    List.isEmpty_eq_false_iff] at hcompatible
  obtain ⟨hunsupported, hdense⟩ := hcompatible
  have hfound := mapM_eq_ok_iff.1 hfindings
  have haccepted : ∀ view ∈ views, view.IsAccepted := by
    intro view hview
    obtain ⟨finding, hmem, hfinding⟩ := exists_mem_of_mapM_eq_ok hfindings view hview
    refine LayerView.isAccepted_of_ofView hfinding fun hstatus => ?_
    have hlisted : finding ∈ Report.unsupported ⟨model.className, findings⟩ :=
      List.mem_filter.2 ⟨hmem, beq_iff_eq.2 hstatus⟩
    rw [hunsupported] at hlisted
    exact List.not_mem_nil hlisted
  refine ⟨views, hviews, haccepted, ?_, hdense⟩
  rw [List.filterMap_congr fun view hview => (haccepted view hview).denseName?_eq.symm]
  exact LayerView.names_of_scan hfound

theorem extract_eq_of_views {views : List LayerView} (hviews : model.views = .ok views) :
    model.extract = (LayerView.materializeAll views).2 >>= fun copies =>
      copies.mapM Materialized.toLayer >>= Network.create := by
  rw [extract_eq_bind, hviews]
  rfl

/-- **Compatible models are extracted.**  A compatible model is refused for its structure, or though
    all its tensors are proper, only for a layer that calls itself dense and is shown as something
    else.  It is extracted exactly if every layer with weights holds proper tensors and is shown as
    dense, and then it has a layer for each dense one that the scan has found, and at least one. -/
theorem extract_of_isCompatible (hscan : model.scan = .ok report)
    (hcompatible : report.isCompatible = true) :
    ∃ views, model.views = .ok views ∧
      RefusedFor (fun fault => fault.IsStructural ∨ (∀ view ∈ views, view.HoldsProper) →
        ∃ view ∈ views, view.IsMisshown fault) model.extract ∧
      ((∃ net, model.extract = .ok net) ↔
        ∀ view ∈ views, view.HoldsProper ∧ view.IsShownDense) ∧
      ∀ net, model.extract = .ok net →
        net.layers.map (·.name) = report.dense.map (·.layerName) ∧ net.layers ≠ [] := by
  obtain ⟨views, hviews, haccepted, hnames, hdense⟩ :=
    exists_views_of_isCompatible hscan hcompatible
  -- Layers that come of the copies have the names of the dense layers, so there is one of them.
  have hsome : ∀ copies layers, (LayerView.materializeAll views).2 = .ok copies →
      copies.mapM Materialized.toLayer = .ok layers →
        layers.map (·.name) = report.dense.map (·.layerName) ∧ layers ≠ [] := by
    intro copies layers hcopies hlayers
    obtain ⟨hsame, -⟩ := LayerView.names_of_materializeAll hcopies (mapM_eq_ok_iff.1 hlayers)
    rw [← hnames] at hsame
    refine ⟨hsame, ?_⟩
    rintro rfl
    exact hdense (List.map_eq_nil_iff.1 hsame.symm)
  have hcreate : ∀ copies layers, (LayerView.materializeAll views).2 = .ok copies →
      copies.mapM Materialized.toLayer = .ok layers → ∃ net, Network.create layers = .ok net := by
    intro copies layers hcopies hlayers
    exact ⟨_, dif_pos (hsome copies layers hcopies hlayers).2⟩
  have hextract := extract_eq_of_views hviews
  refine ⟨views, hviews, ?_, ?_, ?_⟩
  · rw [hextract]
    refine .bind ?_ fun copies hcopies => .bind ?_ fun layers hlayers => ?_
    · exact LayerView.refusedFor_copies haccepted
    · exact LayerView.refusedFor_layers haccepted hcopies
    · obtain ⟨net, hnet⟩ := hcreate copies layers hcopies hlayers
      rw [hnet]
      exact .ok net
  · rw [← LayerView.exists_layers_iff haccepted]
    simp only [hextract, bind_eq_ok]
    constructor
    · rintro ⟨net, copies, hcopies, layers, hlayers, -⟩
      exact ⟨copies, hcopies, layers, hlayers⟩
    · rintro ⟨copies, hcopies, layers, hlayers⟩
      obtain ⟨net, hnet⟩ := hcreate copies layers hcopies hlayers
      exact ⟨net, copies, hcopies, layers, hlayers, hnet⟩
  · intro net hnet
    simp only [hextract, bind_eq_ok] at hnet
    obtain ⟨copies, hcopies, layers, hlayers, hnet⟩ := hnet
    obtain ⟨hsame, hne⟩ := hsome copies layers hcopies hlayers
    obtain rfl := Except.ok.inj ((dif_pos hne).symm.trans hnet)
    exact ⟨hsame, hne⟩

/-- A list of a fully connected module, a layer of arrays, a layer that answers for itself and an
    item without weights. -/
def mixed : Model :=
  .items "list"
    [.module (.node .sampleLinear []),
      .arrays "Dense" "wide" (.text "Dense") [⟨[2, 1], [.one, .zero]⟩, ⟨[1], [.one]⟩],
      .own "Proto" (.text "out") (.plain (.text "dense")) (some (.list [.list [.real .one]])) none,
      .opaqueItem]

theorem extract_of_isCompatible_mixed : ∃ net, mixed.extract = .ok net ∧
    net.layers.map (·.name) = [.text "0", .text "wide", .text "out"] := by
  obtain ⟨report, hscan, hcompatible, hnames⟩ : ∃ report, mixed.scan = .ok report ∧
      report.isCompatible = true ∧
      report.dense.map (·.layerName) = [.text "0", .text "wide", .text "out"] :=
    ⟨_, rfl, by decide, rfl⟩
  obtain ⟨views, hviews, -, hiff, hkept⟩ := extract_of_isCompatible hscan hcompatible
  have hproper : ∀ view ∈ views, view.HoldsProper ∧ view.IsShownDense := by
    obtain rfl := Except.ok.inj hviews
    refine List.forall_mem_cons.2 ⟨⟨?_, ?_⟩, List.forall_mem_cons.2 ⟨⟨?_, ?_⟩,
      List.forall_mem_cons.2 ⟨⟨?_, ?_⟩, List.forall_mem_cons.2 ⟨⟨nofun, nofun⟩,
        List.forall_mem_nil _⟩⟩⟩⟩
    · rintro _ ⟨⟩
      exact ⟨_, _, 2, 2, rfl, rfl, .matrix 2 2, by decide, by decide, rfl, by decide, by decide,
        by decide⟩
    · rintro _ _ ⟨⟩ ⟨⟩
      decide
    · rintro _ ⟨⟩
      exact ⟨_, _, 2, 1, rfl, rfl, .matrix 2 1, by decide, by decide, rfl, by decide, by decide,
        by decide⟩
    · rintro _ _ ⟨⟩ ⟨⟩
      decide
    · rintro _ ⟨⟩
      exact ⟨_, _, 1, 1, rfl, rfl, .matrix 1 1, by decide, by decide, rfl, by decide, nofun, nofun⟩
    · rintro _ _ ⟨⟩ ⟨⟩
      decide
  obtain ⟨net, hnet⟩ := hiff.2 hproper
  exact ⟨net, hnet, (hkept net hnet).1.trans hnames⟩

/-- A layer that answers with the member of the enumeration of kinds. -/
def enumerated : Model :=
  .items "list"
    [.own "Proto" (.text "out") ⟨.text "dense", "LayerKind.DENSE"⟩
      (some (.list [.list [.real .one]])) none]

/-- The scan calls the model compatible, and its kind is refused. -/
theorem extract_not_of_isCompatible_enumerated :
    ∃ report, enumerated.scan = .ok report ∧ report.isCompatible = true ∧
      enumerated.extract = .error (.unsupportedKind "out" "layerkind.dense") ∧
      ∃ views, enumerated.views = .ok views ∧ ∀ view ∈ views, view.HoldsProper := by
  refine ⟨_, rfl, by decide, rfl, _, rfl, List.forall_mem_singleton.2 ?_⟩
  rintro _ ⟨⟩
  exact ⟨_, _, 1, 1, rfl, rfl, .matrix 1 1, by decide, by decide, rfl, by decide, nofun, nofun⟩

end Model

end DenseSketch
