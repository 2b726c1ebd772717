import DenseSketch.Proofs.ForwardPass.Exact
import DenseSketch.Proofs.Plan.Positions
import DenseSketch.Proofs.Sample
import DenseSketch.Proofs.Table.Rows

/-!
# A plan computes what the reference computes

The steps of a plan, run over buffers and tables that are only known by name, leave the outputs of
the network behind.  The argument goes from layer to layer: what the last step wrote is what the
reference passes on, and the buffer it wrote is the one that the next step reads.  The steps are
those that the Forward-Pass Emitter draws on (SPEC_FULL, section 4.2), the reference is that of
section 9.5.
-/

namespace DenseSketch

/-! ### Tables -/

section Tables

variable {α : Type} (A : Arithmetic α)

/-- The tables of a layer are found under their names. -/
structure Layer.IsStored (tables : Arrays α) (index : Nat) (layer : Layer) : Prop where
  weights : lookup? (Table.tableName index .weights) tables = some (layer.weights.map A.ofDatum)
  bias : ∀ b ∈ layer.bias, lookup? (Table.tableName index .bias) tables = some (b.map A.ofDatum)

theorem Layer.names_flashTables (index : Nat) (layer : Layer) :
    (layer.flashTables A index).map Prod.fst = layer.tableNames index := by
  simp [flashTables, tableNames, Function.comp_def]

theorem Network.names_flashTables (net : Network) :
    (net.flashTables A).map Prod.fst = net.tableNames := by
  simp only [flashTables, tableNames, List.map_flatMap, Layer.names_flashTables]

theorem Network.isStored_flashTables (net : Network) {index : Nat} {layer : Layer}
    (hlayer : (layer, index) ∈ net.layers.zipIdx) :
    layer.IsStored A (net.flashTables A) index := by
  have hkeys : ((net.flashTables A).map Prod.fst).Nodup := by
    rw [net.names_flashTables A]
    exact net.nodup_tableNames
  have hfound : ∀ entry ∈ layer.flashTables A index,
      lookup? entry.1 (net.flashTables A) = some entry.2 := fun entry hentry =>
    lookup?_eq_some_of_mem hkeys (List.mem_flatMap.2 ⟨(layer, index), hlayer, hentry⟩)
  constructor
  · exact hfound _ (List.mem_cons_self ..)
  · intro b hb
    refine hfound (Table.tableName index .bias, b.map A.ofDatum) (List.mem_cons_of_mem _ ?_)
    exact List.mem_map_of_mem (Option.mem_toList.2 hb)

end Tables

/-! ### Steps -/

section Steps

variable {exp : ℚ → ℚ} {special : Datum → ℚ} {tables buffers : Arrays ℚ} {variant : Variant}
  {flashReader : Document} {stage : Plan.Stage} {x : List ℚ} {index : Nat} {layer : Layer}

/-- The step of a layer applies its activation to what the reference has before the activation. -/
theorem Plan.run_denseStep (variant : Variant) (flashReader : Document) (isFinal : Bool)
    (hstored : layer.IsStored (.exact exp special) tables index)
    (hfound : lookup? stage.buffer buffers = some x) (hx : x.length = layer.inputs) :
    (Step.dense (denseStep variant flashReader index isFinal stage layer)).run (.exact exp special)
        tables buffers =
      some (put (if isFinal then outputBuffer else hiddenBuffer index)
        ((layer.sums (.exact exp special) x).map
          ((Activation.ofPosition isFinal variant).apply (.exact exp special))) buffers) := by
  have hbias : (layer.bias.map fun _ => Table.tableName index .bias).mapM
      (fun table => lookup? table tables) =
        some (layer.bias.map fun b => b.map (Arithmetic.exact exp special).ofDatum) := by
    cases hcase : layer.bias with
    | none => simp
    | some b => simp [hstored.bias b (by simp [hcase])]
  have hlengths : ∀ b ∈ layer.bias.map fun b => b.map (Arithmetic.exact exp special).ofDatum,
      b.length = layer.outputs := by
    intro b hb
    obtain ⟨b', hb', rfl⟩ := Option.mem_map.1 hb
    rw [List.length_map]
    exact layer.bias_length b' hb'
  have hrun := DenseStep.run_eq_some (.exact exp special)
    (denseStep variant flashReader index isFinal stage layer) hfound hstored.weights hbias hx
    (by rw [List.length_map]; exact layer.weights_length) hlengths
  simp only [DenseStep.sumFrom_layer exp special hx] at hrun
  rw [Layer.sums, List.map_map]
  exact hrun

/-- The last layer: its step and what stands behind it do what the reference does at the end. -/
theorem Plan.run_last (variant : Variant) (flashReader : Document)
    (hstored : layer.IsStored (.exact exp special) tables index)
    (hfound : lookup? stage.buffer buffers = some x) (hx : x.length = layer.inputs) :
    ∃ final y,
      Plan.run (.exact exp special) tables
        (.dense (denseStep variant flashReader index true stage layer) ::
          finish variant (denseStep variant flashReader index true stage layer)) buffers =
        some final ∧
      lookup? outputBuffer final = some y ∧
      Network.activate (.exact exp special) variant (layer.sums (.exact exp special) x) =
        .ok y := by
  have hstep := run_denseStep variant flashReader true hstored hfound hx
  cases variant with
  | classification =>
    obtain ⟨first, rest, hsums⟩ : ∃ first rest, layer.sums (.exact exp special) x = first :: rest :=
      List.exists_cons_of_length_pos (by simpa using layer.outputs_pos)
    have hwritten : lookup? outputBuffer (put outputBuffer (first :: rest) buffers) =
        some (first :: rest) := lookup?_put_self ..
    have hsoftmax := SoftmaxStep.run_eq_some (.exact exp special)
      ⟨layer.name.shown ++ "_softmax", outputBuffer, outputSymbol⟩ hwritten
    have hlinear : (Activation.ofPosition true .classification).apply (.exact exp special) = id :=
      rfl
    rw [hlinear, List.map_id, hsums] at hstep
    refine ⟨_, SoftmaxStep.parts (.exact exp special) first rest, ?_,
      lookup?_put_self outputBuffer _ (put outputBuffer (first :: rest) buffers), ?_⟩
    · rw [Plan.run, List.foldlM_cons, hstep]
      simpa only [finish, List.foldlM_cons, List.foldlM_nil, Step.run, Option.bind_eq_bind,
        Option.bind_some, Option.pure_def, Option.bind_fun_some, denseStep, if_true, hwritten]
        using hsoftmax
    · rw [hsums]
      exact SoftmaxStep.softmax_exact exp special first rest
  | regression =>
    refine ⟨_, (layer.sums (.exact exp special) x).map (Arithmetic.exact exp special).sigmoid, ?_,
      lookup?_put_self outputBuffer _ buffers, rfl⟩
    rw [Plan.run, List.foldlM_cons, hstep]
    rfl

/-- What runs through the layers: each step reads the buffer that was written last, and that buffer
    holds what the reference passes on. -/
theorem Plan.run_ofLayers (variant : Variant) (flashReader : Document) (rest : List Layer)
    (hchain : Network.checkFrom layer rest = .ok ()) (hunits : layer.inputs = stage.units)
    (hstored : ∀ entry ∈ (layer :: rest).zipIdx index,
      entry.1.IsStored (.exact exp special) tables entry.2)
    (hfound : lookup? stage.buffer buffers = some x) (hx : x.length = layer.inputs) :
    ∃ plan final y,
      ofLayers variant flashReader index stage (layer :: rest) = .ok plan ∧
      Plan.run (.exact exp special) tables plan.steps buffers = some final ∧
      lookup? outputBuffer final = some y ∧
      (Network.logitsFrom (.exact exp special) x (layer :: rest)).bind
        (Network.activate (.exact exp special) variant) = .ok y := by
  have hhere : layer.IsStored (.exact exp special) tables index :=
    hstored (layer, index) (by simp)
  induction rest generalizing layer index stage buffers x with
  | nil =>
    obtain ⟨final, y, hrun, hy, hactivate⟩ := run_last variant flashReader hhere hfound hx
    refine ⟨_, final, y, ofLayers_last hunits, hrun, hy, ?_⟩
    rw [Network.logitsFrom, Layer.linear_exact exp special hx]
    exact hactivate
  | cons next rest ih =>
    obtain ⟨hneighbours, hrest⟩ := Network.checkFrom_cons.1 hchain
    have hlater : ∀ entry ∈ (next :: rest).zipIdx (index + 1),
        entry.1.IsStored (.exact exp special) tables entry.2 := by
      intro entry hentry
      exact hstored entry (by rw [List.zipIdx_cons]; exact List.mem_cons_of_mem _ hentry)
    have hstep := run_denseStep variant flashReader false hhere hfound hx
    let passed := (layer.sums (.exact exp special) x).map (Arithmetic.exact exp special).relu
    have hpassed : passed.length = next.inputs := by simp [passed, hneighbours]
    let reached : Stage := ⟨hiddenBuffer index, layer.outputs, hiddenSymbol index⟩
    have hreached : lookup? reached.buffer (put (hiddenBuffer index) passed buffers) =
        some passed := lookup?_put_self ..
    obtain ⟨plan, final, y, hplan, hrun, hy, hreference⟩ := ih hrest hneighbours.symm hlater
      hreached hpassed (hlater (next, index + 1) (by simp))
    refine ⟨_, final, y, by rw [ofLayers_hidden hunits, hplan]; rfl, ?_, hy, ?_⟩
    · rw [Activation.ofPosition_hidden] at hstep
      rw [Plan.run, List.foldlM_cons, hstep]
      exact hrun
    · rw [Network.logitsFrom, Layer.linear_exact exp special hx]
      · exact hreference
      · simp

end Steps

/-- A network whose layers chain: the plan, run over the network's tables and an input of the right
    length, leaves in the buffer `outputs` what the reference computes.  Any function stands for the
    exponential. -/
theorem Plan.run_refines_forward (exp : ℚ → ℚ) (special : Datum → ℚ) (net : Network)
    (variant : Variant) (flashReader : Document) (x : List ℚ) (hchain : net.checkChain = .ok ())
    (hx : x.length = net.inputs) :
    ∃ plan final y,
      ofNetwork net variant flashReader = .ok plan ∧
      Plan.run (.exact exp special) (net.flashTables (.exact exp special)) plan.steps
        [(inputBuffer, x)] = some final ∧
      lookup? outputBuffer final = some y ∧
      net.forward (.exact exp special) variant x = .ok y := by
  obtain ⟨layer, rest, hlayers⟩ := List.exists_cons_of_ne_nil net.layers_ne_nil
  have hfirst : net.inputs = layer.inputs := by simp [Network.inputs, Network.first, hlayers]
  have hrest : Network.checkFrom layer rest = .ok () := by
    simpa only [Network.checkChain, hlayers] using hchain
  have hstored : ∀ entry ∈ (layer :: rest).zipIdx 0,
      entry.1.IsStored (.exact exp special) (net.flashTables (.exact exp special)) entry.2 :=
    fun entry hentry => net.isStored_flashTables (.exact exp special) (hlayers ▸ hentry)
  let start : Stage := ⟨inputBuffer, net.inputs, inputSymbol⟩
  have hstart : lookup? start.buffer [(inputBuffer, x)] = some x := by simp [start, lookup?]
  obtain ⟨plan, final, y, hplan, hrun, hy, hreference⟩ :=
    run_ofLayers variant flashReader rest hrest hfirst.symm hstored hstart (hx.trans hfirst)
  refine ⟨plan, final, y, by rw [ofNetwork, hlayers]; exact hplan, hrun, hy, ?_⟩
  rw [Network.forward, if_neg (by simp [hx]), hlayers]
  exact hreference

/-- The sample classifier on a dark frame.  Only the exponential of zero is taken. -/
theorem Plan.run_refines_forward_sample :
    Network.sample.checkChain = .ok () ∧ [0, 0, 0, 0, 0].length = Network.sample.inputs ∧
    ∃ plan final y,
      ofNetwork .sample .classification (.text "read") = .ok plan ∧
      Plan.run (.exact (fun _ => 1) fun _ => 0)
        (Network.sample.flashTables (.exact (fun _ => 1) fun _ => 0)) plan.steps
        [(inputBuffer, [0, 0, 0, 0, 0])] = some final ∧
      lookup? outputBuffer final = some y ∧
      Network.sample.forward (.exact (fun _ => 1) fun _ => 0) .classification [0, 0, 0, 0, 0] =
        .ok y :=
  ⟨rfl, rfl, run_refines_forward (fun _ => 1) (fun _ => 0) .sample .classification (.text "read")
    [0, 0, 0, 0, 0] rfl rfl⟩

end DenseSketch
