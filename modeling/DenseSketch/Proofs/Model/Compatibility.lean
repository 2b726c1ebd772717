import DenseSketch.Model.Compatibility
import DenseSketch.Model.Extraction
import DenseSketch.Proofs.Fault.Results
import DenseSketch.Proofs.List.Monadic
import DenseSketch.Proofs.Text.Case

/-!
# The scan and the extraction see the same layers

The scan compares the kind of a layer as it is given, the extraction compares it in lower case.  A
module and a layer of arrays give their kinds in lower case already.  A layer that answers for itself
need not, so the two agree on a model exactly when each such layer with weights spells its kind as
the scan compares it, and when the scan can ask every other module for its trained tensors.
-/

namespace DenseSketch

variable {α β : Type}

/-! ### Lists -/

/-- Two choices from a list of which the second one takes all that the first one takes. -/
theorem filterMap_eq_filterMap_iff {f g : α → Option β} {xs : List α}
    (hsub : ∀ x ∈ xs, f x = none ∨ f x = g x) :
    xs.filterMap f = xs.filterMap g ↔ ∀ x ∈ xs, f x = g x := by
  have hlength : ∀ ys : List α, (∀ y ∈ ys, f y = none ∨ f y = g y) →
      (ys.filterMap f).length ≤ (ys.filterMap g).length := by
    intro ys hys
    induction ys with
    | nil => exact Nat.le_refl 0
    | cons y ys ih =>
      have hrest := ih fun z hz => hys z (by simp [hz])
      rcases hys y (by simp) with hnone | hsame
      · cases hg : g y <;> simp [hnone, hg] <;> omega
      · cases hg : g y <;> simp [hsame, hg, hrest]
  refine ⟨fun heq => ?_, List.filterMap_congr⟩
  induction xs with
  | nil => exact List.forall_mem_nil _
  | cons x xs ih =>
    have hrest : ∀ y ∈ xs, f y = none ∨ f y = g y := fun y hy => hsub y (by simp [hy])
    have hle := hlength xs hrest
    rw [List.forall_mem_cons]
    rcases hsub x (by simp) with hnone | hsame
    · cases hg : g x with
      | none =>
        rw [List.filterMap_cons_none hnone, List.filterMap_cons_none hg] at heq
        exact ⟨hnone, ih hrest heq⟩
      | some b =>
        -- The second choice would be longer by one.
        rw [List.filterMap_cons_none hnone, List.filterMap_cons_some hg] at heq
        rw [heq, List.length_cons] at hle
        omega
    · refine ⟨hsame, ih hrest ?_⟩
      cases hg : g x with
      | none => rwa [List.filterMap_cons_none (hsame.trans hg), List.filterMap_cons_none hg] at heq
      | some b =>
        rw [List.filterMap_cons_some (hsame.trans hg), List.filterMap_cons_some hg] at heq
        exact (List.cons.inj heq).2

theorem Finding.isDense_iff {d : Document} :
    isDense d = true ↔ d = .text Layer.kindName := by
  unfold isDense
  split
  · rw [beq_iff_eq, Document.text.injEq]
  · next hother =>
    constructor
    · exact nofun
    · rintro rfl
      exact absurd rfl (hother _)

namespace LayerView

variable {view : LayerView}

/-! ### Names -/

/-- The name of a layer that is extracted. -/
def extractedName? (view : LayerView) : Option Document :=
  match view.weights with
  | .ok (some _) => some view.name
  | _ => none

/-- The name of a layer that the scan calls dense. -/
def denseName? (view : LayerView) : Option Document :=
  match view.kind with
  | .ok kind => if Finding.isDense kind then view.extractedName? else none
  | .error _ => none

theorem denseName?_eq_or (view : LayerView) :
    view.denseName? = none ∨ view.denseName? = view.extractedName? := by
  unfold denseName?
  split
  · split
    · exact .inr rfl
    · exact .inl rfl
  · exact .inl rfl

/-- What is copied of a layer has its name and its kind in lower case. -/
theorem materialize_eq_ok {found : Option Materialized} (h : view.materialize = .ok found) :
    (view.weights = .ok none ∧ found = none) ∨
      ∃ held kind copy, view.weights = .ok (some held) ∧ view.kind = .ok kind ∧
        found = some copy ∧ copy.name = view.name ∧ copy.kind = Text.lower kind.shown := by
  rw [materialize, bind_eq_ok] at h
  obtain ⟨weights, hweights, h⟩ := h
  cases weights with
  | none =>
    rw [pure_eq_ok] at h
    exact .inl ⟨hweights, h.symm⟩
  | some held =>
    simp only [bind_eq_ok, pure_eq_ok] at h
    obtain ⟨tensor, -, bias, -, kind, hkind, rfl⟩ := h
    exact .inr ⟨held, kind, _, hweights, hkind, rfl, rfl, rfl⟩

end LayerView

theorem Layer.name_of_create {name : Document} {inputs outputs : Int}
    {shownInputs shownOutputs : String} {weights : List Datum} {bias : Option (List Datum)}
    {layer : Layer}
    (h : create name inputs outputs shownInputs shownOutputs weights bias = .ok layer) :
    layer.name = name := by
  unfold create at h
  split_ifs at h
  cases h
  rfl

/-- A copy that becomes a layer is a dense one, and the layer keeps its name. -/
theorem Materialized.toLayer_eq_ok {copy : Materialized} {layer : Layer}
    (h : copy.toLayer = .ok layer) : copy.kind = Layer.kindName ∧ layer.name = copy.name := by
  simp only [toLayer, bind_eq_ok, refuse_eq_ok, throw_bind, ne_eq, not_not] at h
  obtain ⟨_, _, hkind, _, _, hcreate⟩ := h
  exact ⟨hkind, Layer.name_of_create hcreate⟩

namespace LayerView

variable {view : LayerView} {views : List LayerView}

/-! ### Extraction -/

/-- The layers that are extracted have the names of the layers with weights, and each of these
    gives a kind that is dense in lower case. -/
theorem names_of_materializeAll {copies : List Materialized} {layers : List Layer}
    (hcopies : (materializeAll views).2 = .ok copies)
    (hlayers :
      List.Forall₂ (fun copy layer => Materialized.toLayer copy = .ok layer) copies layers) :
    layers.map (·.name) = views.filterMap extractedName? ∧
      ∀ view ∈ views, view.weights = .ok none ∨
        ∃ held kind, view.weights = .ok (some held) ∧ view.kind = .ok kind ∧
          Text.lower kind.shown = Layer.kindName := by
  -- Copies are made from the front and put before those of the rest, so the induction takes both
  -- lists apart together.
  induction views generalizing copies layers with
  | nil =>
    cases hcopies
    cases hlayers
    exact ⟨rfl, List.forall_mem_nil _⟩
  | cons view rest ih =>
    cases hfound : view.materialize with
    | error fault => simp only [materializeAll, hfound] at hcopies; cases hcopies
    | ok found =>
      simp only [materializeAll, hfound] at hcopies
      cases hmore : (materializeAll rest).2 with
      | error fault => rw [hmore] at hcopies; cases hcopies
      | ok more =>
        rw [hmore] at hcopies
        obtain rfl : found.toList ++ more = copies := Except.ok.inj hcopies
        rw [List.forall_mem_cons]
        rcases materialize_eq_ok hfound with
          ⟨hweights, rfl⟩ | ⟨held, kind, copy, hweights, hkind, rfl, hname, hlower⟩
        · obtain ⟨hnames, hkinds⟩ := ih hmore hlayers
          have hskipped : view.extractedName? = none := by simp only [extractedName?, hweights]
          rw [List.filterMap_cons_none hskipped]
          exact ⟨hnames, .inl hweights, hkinds⟩
        · obtain ⟨layer, others, hlayer, hothers, rfl⟩ := List.forall₂_cons_left_iff.1 hlayers
          obtain ⟨hdense, hkept⟩ := Materialized.toLayer_eq_ok hlayer
          obtain ⟨hnames, hkinds⟩ := ih hmore hothers
          have htaken : view.extractedName? = some view.name := by
            simp only [extractedName?, hweights]
          rw [List.filterMap_cons_some htaken, List.map_cons, hnames, hkept, hname]
          exact ⟨rfl, .inr ⟨held, kind, hweights, hkind, hlower.symm.trans hdense⟩, hkinds⟩

/-! ### The scan -/

theorem ofView_of_weightless (h : view.weights = .ok none) :
    Finding.ofView view = Finding.withoutWeights view := by
  rw [Finding.ofView, h]
  rfl

theorem status_of_withoutWeights {finding : Finding}
    (h : Finding.withoutWeights view = .ok finding) :
    finding.status ≠ .dense := by
  unfold Finding.withoutWeights at h
  split at h
  · split at h
    · cases h
    · obtain rfl := Except.ok.inj h
      unfold Finding.ofWeightless
      repeat' split
      all_goals exact nofun
  · obtain rfl := Except.ok.inj h
    exact nofun

/-- The finding on a layer is a dense one exactly when the layer has weights and a kind that is
    dense as it stands, and then it has the name of the layer. -/
theorem denseName?_of_ofView {finding : Finding} (h : Finding.ofView view = .ok finding) :
    view.denseName? = if finding.status == .dense then some finding.layerName else none := by
  rw [Finding.ofView, bind_eq_ok] at h
  obtain ⟨weights, hweights, h⟩ := h
  cases weights with
  | none =>
    rw [if_neg (by simpa using status_of_withoutWeights h)]
    simp only [denseName?, extractedName?, hweights]
    split
    · exact ite_self none
    · rfl
  | some held =>
    rw [bind_eq_ok] at h
    obtain ⟨kind, hkind, h⟩ := h
    simp only [denseName?, extractedName?, hweights, hkind]
    by_cases hdense : Finding.isDense kind
    · rw [if_pos hdense] at h ⊢
      cases h
      rfl
    · rw [if_neg hdense] at h ⊢
      cases h
      rfl

theorem names_of_scan {findings : List Finding}
    (h : List.Forall₂ (fun view finding => Finding.ofView view = .ok finding) views findings) :
    (findings.filter (·.status == .dense)).map (·.layerName) = views.filterMap denseName? := by
  induction h with
  | nil => rfl
  | cons hfinding _ ih =>
    rw [List.filterMap_cons, denseName?_of_ofView hfinding, ← ih, List.filter_cons]
    split_ifs <;> rfl

/-! ### Where both see the same -/

/-- The kind of the layer is equal to that of a dense one. -/
def IsCalledDense (view : LayerView) : Prop :=
  ∃ kind, view.kind = .ok kind ∧ kind.value = .text Layer.kindName

/-- The scan sees the layer as extraction does: a layer that answers for itself spells its kind as
    the scan compares it, and a module without weights lets itself be asked for its trained
    tensors. -/
structure IsRecognized (view : LayerView) : Prop where
  spelled : view.origin = .own → view.weights ≠ .ok none → view.IsCalledDense
  asked : ∀ info, view.origin = .module info → view.weights = .ok none →
    info.hides ["parameters", "named_parameters"] = false

theorem IsRecognized.exists_ofView (h : view.IsRecognized) {weights : Option Held}
    (hweights : view.weights = .ok weights)
    (hkind : weights = none ∨ ∃ kind, view.kind = .ok kind) :
    ∃ finding, Finding.ofView view = .ok finding := by
  cases weights with
  | none =>
    rw [ofView_of_weightless hweights]
    cases horigin : view.origin with
    | module info =>
      simp only [Finding.withoutWeights, horigin, h.asked info horigin hweights]
      exact ⟨_, rfl⟩
    | _ => exact ⟨_, by rw [Finding.withoutWeights, horigin]⟩
  | some held =>
    obtain ⟨kind, hkind⟩ := hkind.resolve_left (Option.some_ne_none held)
    rw [Finding.ofView, hweights, hkind]
    by_cases hdense : Finding.isDense kind
    · exact ⟨_, if_pos hdense⟩
    · exact ⟨_, if_neg hdense⟩

/-- A module that lets itself be scanned can be asked for its trained tensors. -/
theorem hides_of_ofView {finding : Finding} (h : Finding.ofView view = .ok finding)
    {info : ModuleInfo} (horigin : view.origin = .module info)
    (hweights : view.weights = .ok none) :
    info.hides ["parameters", "named_parameters"] = false := by
  rw [ofView_of_weightless hweights, Finding.withoutWeights, horigin] at h
  by_contra hhidden
  rw [Bool.not_eq_false] at hhidden
  simp [hhidden] at h

/-! ### Kinds -/

/-- The kind is in lower case, unless the layer answers for itself. -/
def IsLowered (view : LayerView) : Prop :=
  view.origin = .own ∨
    ∀ kind, view.kind = .ok kind → ∃ text, kind = .plain (.text (Text.lower text))

theorem isLowered_ofModule (name : String) (info : ModuleInfo) :
    (ofModule name info).IsLowered := by
  refine .inr fun kind hkind => ?_
  obtain rfl := Except.ok.inj hkind
  by_cases hlinear : info.isLinear
  · refine ⟨Layer.kindName, ?_⟩
    rw [if_pos hlinear, show Text.lower Layer.kindName = "dense" by decide]
  · exact ⟨info.className, by rw [if_neg hlinear]⟩

theorem isLowered_ofItem (position : Nat) (item : Item) : (ofItem position item).IsLowered := by
  cases item with
  | module m => exact isLowered_ofModule _ _
  | arrays className name given arrays =>
    refine .inr fun kind hkind => ?_
    cases given with
    | text s => exact ⟨s, (Except.ok.inj hkind).symm⟩
    | _ => cases hkind
  | own => exact .inl rfl
  | opaqueItem =>
    refine .inr fun kind hkind => ⟨"pass_through", ?_⟩
    rw [show Text.lower "pass_through" = "pass_through" by decide]
    exact (Except.ok.inj hkind).symm

theorem isLowered_ofItems {position : Nat} {items : List Item} :
    ∀ view ∈ ofItems position items, view.IsLowered := by
  induction items generalizing position with
  | nil => exact List.forall_mem_nil _
  | cons item rest ih => exact List.forall_mem_cons.2 ⟨isLowered_ofItem position item, ih⟩

end LayerView

theorem Model.isLowered_views {model : Model} {views : List LayerView}
    (h : model.views = .ok views) : ∀ view ∈ views, view.IsLowered := by
  unfold Model.views at h
  split at h
  · split at h
    · obtain rfl := Except.ok.inj h
      exact List.forall_mem_map.2 fun leaf _ => LayerView.isLowered_ofModule _ _
    · cases h
  · obtain rfl := Except.ok.inj h
    exact LayerView.isLowered_ofItems
  · split at h
    · obtain rfl := Except.ok.inj h
      exact LayerView.isLowered_ofItems
    · cases h

namespace LayerView

/-- A kind that is dense in lower case is dense as it stands, where a layer that answers for itself
    spells it so. -/
theorem IsRecognized.isDense {view : LayerView} (h : view.IsRecognized) (hlowered : view.IsLowered)
    {held : Held} {kind : Kind} (hweights : view.weights = .ok (some held))
    (hkind : view.kind = .ok kind) (hdense : Text.lower kind.shown = Layer.kindName) :
    Finding.isDense kind = true := by
  rcases hlowered with hown | hlower
  · obtain ⟨called, hcalled, hvalue⟩ := h.spelled hown (by simp [hweights])
    obtain rfl : kind = called := Except.ok.inj (hkind.symm.trans hcalled)
    exact Finding.isDense_iff.2 hvalue
  · obtain ⟨text, rfl⟩ := hlower kind hkind
    have hall : Layer.kindName.toList.all (fun c => decide (Text.IsPlain c)) = true := by decide
    have hplain : ∀ c ∈ Layer.kindName.toList, Text.IsPlain c := fun c hc =>
      of_decide_eq_true (List.all_eq_true.1 hall c hc)
    rw [Finding.isDense_iff, Kind.plain_value, Text.lower_eq_of_lower_lower hplain hdense]

theorem isCalledDense_of_denseName? {view : LayerView} (h : view.denseName? = some view.name) :
    view.IsCalledDense := by
  unfold denseName? at h
  split at h
  · next kind hkind =>
    split at h
    · next hdense => exact ⟨kind, hkind, Finding.isDense_iff.1 hdense⟩
    · cases h
  · cases h

end LayerView

namespace Model

variable {model : Model} {net : Network}

theorem extract_eq_bind (model : Model) :
    model.extract = model.views >>= fun views =>
      (LayerView.materializeAll views).2 >>= Materialized.toNetwork := by
  unfold extract extractWithReport
  cases model.views with
  | error fault => rfl
  | ok views =>
    dsimp only
    split
    · next fault hfault => exact hfault.symm
    · next net hnet => exact hnet.symm

/-- A model that is extracted has copies of its layers, and they are the layers of the network. -/
theorem extract_eq_ok (h : model.extract = .ok net) :
    ∃ views copies, model.views = .ok views ∧ (LayerView.materializeAll views).2 = .ok copies ∧
      List.Forall₂ (fun copy layer => Materialized.toLayer copy = .ok layer) copies net.layers := by
  rw [extract_eq_bind] at h
  simp only [bind_eq_ok, Materialized.toNetwork] at h
  obtain ⟨views, hviews, copies, hcopies, layers, hlayers, hcreate⟩ := h
  unfold Network.create at hcreate
  split at hcreate
  · obtain rfl := Except.ok.inj hcreate
    exact ⟨views, copies, hviews, hcopies, mapM_eq_ok_iff.1 hlayers⟩
  · cases hcreate

/-- The scan of a model that is extracted calls exactly the extracted layers dense, by name and in
    order, if and only if it recognizes every layer of the model. -/
theorem scan_names_eq_iff (hextract : model.extract = .ok net) :
    ∃ views, model.views = .ok views ∧
      ((∃ report, model.scan = .ok report ∧
          report.dense.map (·.layerName) = net.layers.map (·.name)) ↔
        ∀ view ∈ views, view.IsRecognized) := by
  obtain ⟨views, copies, hviews, hcopies, hlayers⟩ := extract_eq_ok hextract
  obtain ⟨hnames, hkinds⟩ := LayerView.names_of_materializeAll hcopies hlayers
  have hscan : ∀ report, model.scan = .ok report ↔
      ∃ findings, views.mapM Finding.ofView = .ok findings ∧
        Report.mk model.className findings = report := by
    intro report
    simp only [scan, hviews, bind_eq_ok, pure_eq_ok, Except.ok.injEq, exists_eq_left']
  refine ⟨views, hviews, ?_, ?_⟩
  · rintro ⟨report, hreport, hsame⟩
    obtain ⟨findings, hfindings, rfl⟩ := (hscan report).1 hreport
    -- The scan picks from the extracted names only, so equal lists are equal layer by layer.
    have hdense := (filterMap_eq_filterMap_iff fun view _ => view.denseName?_eq_or).1
      ((LayerView.names_of_scan (mapM_eq_ok_iff.1 hfindings)).symm.trans (hsame.trans hnames))
    intro view hview
    obtain ⟨finding, hfinding⟩ := exists_mapM_eq_ok.1 ⟨findings, hfindings⟩ view hview
    refine ⟨fun _ hweights => ?_, fun info horigin hweights =>
      LayerView.hides_of_ofView hfinding horigin hweights⟩
    obtain hnone | ⟨held, kind, hheld, -⟩ := hkinds view hview
    · exact absurd hnone hweights
    · have hextracted : view.extractedName? = some view.name := by
        simp only [LayerView.extractedName?, hheld]
      exact LayerView.isCalledDense_of_denseName? ((hdense view hview).trans hextracted)
  · intro hrecognized
    obtain ⟨findings, hfindings⟩ := exists_mapM_eq_ok.2 fun view hview => by
      obtain hnone | ⟨held, kind, hheld, hkind, -⟩ := hkinds view hview
      · exact (hrecognized view hview).exists_ofView hnone (.inl rfl)
      · exact (hrecognized view hview).exists_ofView hheld (.inr ⟨kind, hkind⟩)
    refine ⟨_, (hscan _).2 ⟨findings, hfindings, rfl⟩,
      (LayerView.names_of_scan (mapM_eq_ok_iff.1 hfindings)).trans (.trans ?_ hnames.symm)⟩
    refine (filterMap_eq_filterMap_iff fun view _ => view.denseName?_eq_or).2 fun view hview => ?_
    obtain hnone | ⟨held, kind, hheld, hkind, hdense⟩ := hkinds view hview
    · have hskipped : view.extractedName? = none := by simp only [LayerView.extractedName?, hnone]
      exact view.denseName?_eq_or.elim (·.trans hskipped.symm) id
    · have hlowered := isLowered_views hviews view hview
      simp only [LayerView.denseName?, hkind,
        (hrecognized view hview).isDense hlowered hheld hkind hdense, if_true]

/-- A layer that answers for itself and gives this kind, and an item without weights. -/
def answering (kind : String) : Model :=
  .items "list"
    [.own "Proto" (.text "out") (.plain (.text kind)) (some (.list [.list [.real .one]])) none,
      .opaqueItem]

theorem scan_names_eq_iff_answering : ∃ net, (answering "dense").extract = .ok net ∧
    ∃ report, (answering "dense").scan = .ok report ∧
      report.dense.map (·.layerName) = net.layers.map (·.name) := by
  obtain ⟨net, hextract⟩ : ∃ net, (answering "dense").extract = .ok net := ⟨_, rfl⟩
  obtain ⟨views, hviews, hiff⟩ := scan_names_eq_iff hextract
  refine ⟨net, hextract, hiff.2 ?_⟩
  obtain rfl := Except.ok.inj hviews
  refine List.forall_mem_cons.2 ⟨⟨?_, nofun⟩, List.forall_mem_cons.2 ⟨⟨?_, nofun⟩, ?_⟩⟩
  · intro _ _
    exact ⟨_, rfl, rfl⟩
  · exact nofun
  · exact List.forall_mem_nil _

/-- A kind with a capital letter is extracted as a dense one, and the scan does not call it so. -/
theorem scan_names_ne_answering : ∃ net, (answering "Dense").extract = .ok net ∧
    ¬ ∃ report, (answering "Dense").scan = .ok report ∧
      report.dense.map (·.layerName) = net.layers.map (·.name) := by
  refine ⟨_, rfl, ?_⟩
  rintro ⟨report, hreport, hsame⟩
  obtain rfl := Except.ok.inj hreport
  exact absurd hsame nofun

end Model

end DenseSketch
