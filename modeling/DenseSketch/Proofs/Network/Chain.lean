import DenseSketch.Proofs.Inference.Layers
import DenseSketch.Proofs.Plan.Positions
import DenseSketch.Proofs.Project.Refusals
import DenseSketch.Proofs.Workbench.Stages

/-!
# Layers that chain

Whether each layer reads as many values as the one in front of it yields is found out in three
places: the check of a network compares neighbours, the plan compares each layer with what has been
written last, and the reference multiplies and may find a vector that does not fit.  All three stop
at the same layer, and where they do not stop every input of the right length has outputs.  This is
the chain invariant of SPEC_FULL, section 3.
-/

namespace DenseSketch

variable {α : Type}

/-! ### The first break -/

namespace Network

/-- The layers chain up to the one at position `k`, which is `previous`, and `next` behind it reads
    another number of values. -/
inductive BreaksAt : List Layer → Nat → Layer → Layer → Prop
  | here {previous next : Layer} {rest : List Layer} (hunits : previous.outputs ≠ next.inputs) :
    BreaksAt (previous :: next :: rest) 0 previous next
  | later {layer second previous next : Layer} {rest : List Layer} {k : Nat}
    (hunits : layer.outputs = second.inputs) (hbreak : BreaksAt (second :: rest) k previous next) :
    BreaksAt (layer :: second :: rest) (k + 1) previous next

theorem checkFrom_eq_ok_or_breaksAt (layer : Layer) (rest : List Layer) :
    checkFrom layer rest = .ok () ∨ ∃ k previous next, BreaksAt (layer :: rest) k previous next := by
  induction rest generalizing layer with
  | nil => exact .inl rfl
  | cons second rest ih =>
    by_cases hunits : layer.outputs = second.inputs
    · rcases ih second with hchain | ⟨k, previous, next, hbreak⟩
      · exact .inl (checkFrom_cons.2 ⟨hunits, hchain⟩)
      · exact .inr ⟨k + 1, previous, next, hbreak.later hunits⟩
    · exact .inr ⟨0, layer, second, .here hunits⟩

variable (A : Arithmetic α) {x : List α}

theorem logitsFrom_cons_cons (layer second : Layer) (rest : List Layer) :
    logitsFrom A x (layer :: second :: rest) =
      layer.linear A x >>= fun y => logitsFrom A (y.map A.relu) (second :: rest) :=
  rfl

theorem logitsFrom_of_length_ne {layer : Layer} (rest : List Layer)
    (hx : x.length ≠ layer.inputs) :
    logitsFrom A x (layer :: rest) = .error (.vector (.rows x.length layer.inputs)) := by
  have hlinear := layer.linear_of_length_ne A hx
  cases rest with
  | nil => exact hlinear
  | cons second rest =>
    rw [logitsFrom_cons_cons, hlinear]
    rfl

namespace BreaksAt

variable {layer previous next : Layer} {rest : List Layer} {k : Nat}

/-- The check of a network names the layers on both sides of the break. -/
theorem checkFrom_eq (h : BreaksAt (layer :: rest) k previous next) :
    checkFrom layer rest =
      .error (.chain
        (.neighbours previous.name.shown previous.outputs next.name.shown next.inputs)) := by
  induction k generalizing layer rest with
  | zero =>
    obtain ⟨hunits⟩ := h
    rw [checkFrom, if_neg hunits]
  | succ k ih =>
    obtain _ | ⟨hunits, hbreak⟩ := h
    rw [checkFrom, if_pos hunits, ih hbreak]

/-- The plan stops at the layer behind the break; what has been written last comes from the layer in
    front of it. -/
theorem ofLayers_eq (variant : Variant) (flashReader : Document) {index : Nat} {stage : Plan.Stage}
    (h : BreaksAt (layer :: rest) k previous next) (hstage : layer.inputs = stage.units) :
    Plan.ofLayers variant flashReader index stage (layer :: rest) =
      .error (.chain (.stage next.name.shown next.inputs previous.outputs)) := by
  -- Up to the break the stage has as many units as the next layer reads.
  induction k generalizing layer rest index stage with
  | zero =>
    obtain ⟨hunits⟩ := h
    rw [Plan.ofLayers_hidden hstage, Plan.ofLayers, if_pos (Ne.symm hunits)]
    rfl
  | succ k ih =>
    obtain _ | ⟨hunits, hbreak⟩ := h
    rw [Plan.ofLayers_hidden hstage, ih hbreak hunits.symm]
    rfl

/-- The reference finds that the values of the layer in front of the break do not fit. -/
theorem logitsFrom_eq {A : Arithmetic α} {x : List α}
    (h : BreaksAt (layer :: rest) k previous next) (hx : x.length = layer.inputs) :
    logitsFrom A x (layer :: rest) = .error (.vector (.rows previous.outputs next.inputs)) := by
  -- In front of the break the values of a layer are as many as the next one reads.
  induction k generalizing layer rest x with
  | zero =>
    obtain ⟨y, hlinear, hy⟩ := layer.exists_linear_eq_ok A hx
    have hpassed : (y.map A.relu).length = layer.outputs := by rw [List.length_map, hy]
    obtain ⟨hunits⟩ := h
    rw [logitsFrom_cons_cons, hlinear, ← hpassed]
    exact logitsFrom_of_length_ne A _ (hpassed ▸ hunits)
  | succ k ih =>
    obtain ⟨y, hlinear, hy⟩ := layer.exists_linear_eq_ok A hx
    obtain _ | ⟨hunits, hbreak⟩ := h
    rw [logitsFrom_cons_cons, hlinear]
    exact ih hbreak (by rw [List.length_map, hy, hunits])

end BreaksAt

/-! ### Layers without a break -/

/-- The linear parts of layers that chain compose. -/
theorem exists_foldlM_linear_eq_ok {layer : Layer} {rest : List Layer}
    (hchain : checkFrom layer rest = .ok ()) (hx : x.length = layer.inputs) :
    ∃ y, (layer :: rest).foldlM (fun x layer => layer.linear A x) x = .ok y ∧
      y.length = ((layer :: rest).getLast (by simp)).outputs := by
  induction rest generalizing layer x with
  | nil =>
    obtain ⟨y, hlinear, hy⟩ := layer.exists_linear_eq_ok A hx
    exact ⟨y, by rw [List.foldlM_cons, hlinear]; rfl, hy⟩
  | cons second rest ih =>
    obtain ⟨hunits, hrest⟩ := checkFrom_cons.1 hchain
    obtain ⟨passed, hlinear, hpassed⟩ := layer.exists_linear_eq_ok A hx
    obtain ⟨y, hy, hlength⟩ := ih hrest (hpassed.trans hunits)
    refine ⟨y, ?_, hlength⟩
    rw [List.foldlM_cons, hlinear]
    exact hy

/-- So do the layers with the activations between them. -/
theorem exists_logitsFrom_eq_ok {layer : Layer} {rest : List Layer}
    (hchain : checkFrom layer rest = .ok ()) (hx : x.length = layer.inputs) :
    ∃ y, logitsFrom A x (layer :: rest) = .ok y ∧
      y.length = ((layer :: rest).getLast (by simp)).outputs := by
  induction rest generalizing layer x with
  | nil => exact layer.exists_linear_eq_ok A hx
  | cons second rest ih =>
    obtain ⟨hunits, hrest⟩ := checkFrom_cons.1 hchain
    obtain ⟨passed, hlinear, hpassed⟩ := layer.exists_linear_eq_ok A hx
    obtain ⟨y, hy, hlength⟩ := ih hrest (x := passed.map A.relu) <| by
      rw [List.length_map, hpassed, hunits]
    refine ⟨y, ?_, hlength⟩
    rw [logitsFrom_cons_cons, hlinear]
    exact hy

/-- The last activation keeps the number of values; only a softmax of no values is refused. -/
theorem exists_activate_eq_ok (variant : Variant) {y : List α}
    (hy : 0 < y.length) : ∃ z, activate A variant y = .ok z ∧ z.length = y.length := by
  cases variant with
  | regression => exact ⟨y.map A.sigmoid, rfl, List.length_map _⟩
  | classification =>
    obtain ⟨first, rest, rfl⟩ := List.exists_cons_of_length_pos hy
    refine ⟨_, rfl, ?_⟩
    rw [List.length_map, List.length_map]

variable (net : Network)

theorem checkChain_eq_ok_or_breaksAt :
    net.checkChain = .ok () ∨ ∃ k previous next, BreaksAt net.layers k previous next := by
  obtain ⟨layer, rest, hlayers⟩ := List.exists_cons_of_ne_nil net.layers_ne_nil
  rw [checkChain, hlayers]
  exact checkFrom_eq_ok_or_breaksAt layer rest

theorem exists_composed_eq_ok (hchain : net.checkChain = .ok ()) (hx : x.length = net.inputs) :
    ∃ y, net.layers.foldlM (fun x layer => layer.linear A x) x = .ok y ∧
      y.length = net.outputs := by
  obtain ⟨layers, hne⟩ := net
  obtain ⟨layer, rest, rfl⟩ := List.exists_cons_of_ne_nil hne
  exact exists_foldlM_linear_eq_ok A hchain hx

theorem outputs_pos : 0 < net.outputs := net.last.outputs_pos

theorem exists_forward_eq_ok (variant : Variant) (hchain : net.checkChain = .ok ())
    (hx : x.length = net.inputs) :
    ∃ y, net.forward A variant x = .ok y ∧ y.length = net.outputs := by
  obtain ⟨y, hy, hlength⟩ : ∃ y, logitsFrom A x net.layers = .ok y ∧ y.length = net.outputs := by
    obtain ⟨layers, hne⟩ := net
    obtain ⟨layer, rest, rfl⟩ := List.exists_cons_of_ne_nil hne
    exact exists_logitsFrom_eq_ok A hchain hx
  obtain ⟨z, hz, hcount⟩ := exists_activate_eq_ok A variant (hlength ▸ net.outputs_pos)
  refine ⟨z, ?_, hcount.trans hlength⟩
  rw [forward, if_neg (not_not.2 hx), hy]
  exact hz

end Network

/-! ### Whole networks -/

namespace Project

variable (p : Project) (bench : Workbench)

theorem plan_of_breaksAt {k : Nat} {previous next : Layer}
    (hbreak : Network.BreaksAt p.network.layers k previous next) :
    p.plan = .error (.chain (.stage next.name.shown next.inputs previous.outputs)) := by
  obtain ⟨layer, rest, hlayers⟩ := List.exists_cons_of_ne_nil p.network.layers_ne_nil
  have hfirst : p.network.inputs = layer.inputs := by
    simp [Network.inputs, Network.first, hlayers]
  rw [hlayers] at hbreak
  rw [plan, Plan.ofNetwork, hlayers]
  exact hbreak.ofLayers_eq _ _ hfirst.symm

theorem checkChain_of_plan {plan : Plan} (hplan : p.plan = .ok plan) :
    p.network.checkChain = .ok () := by
  rcases p.network.checkChain_eq_ok_or_breaksAt with hchain | ⟨k, previous, next, hbreak⟩
  · exact hchain
  · cases hplan.symm.trans (p.plan_of_breaksAt hbreak)

theorem steps_ne_nil {plan : Plan} (hplan : p.plan = .ok plan) : plan.steps ≠ [] := by
  have hsteps := Plan.ofNetwork_eq p.network p.metadata.variant p.flashReader
    (p.checkChain_of_plan hplan)
  cases hplan.symm.trans hsteps
  have hlayers := p.network.length_layers_pos
  refine List.append_ne_nil_of_left_ne_nil ?_ _
  rw [← List.length_pos_iff, List.length_map, Network.denseSteps, List.length_map,
    List.length_zipIdx]
  exact hlayers

/-- The check of a network and the plan find the same break, and the reference stops there, too. -/
theorem refused_of_breaksAt {k : Nat} {previous next : Layer}
    (hbreak : Network.BreaksAt p.network.layers k previous next) :
    p.network.checkChain =
      .error (.chain
        (.neighbours previous.name.shown previous.outputs next.name.shown next.inputs)) ∧
    Job.runOn p.buildPlan bench =
      (.error (.chain (.stage next.name.shown next.inputs previous.outputs)), bench) ∧
    ∀ (α : Type) (A : Arithmetic α) (variant : Variant) (x : List α),
      x.length = p.network.inputs →
        p.network.forward A variant x = .error (.vector (.rows previous.outputs next.inputs)) := by
  refine ⟨?_, runOn_buildPlan_of_plan_error (p.plan_of_breaksAt hbreak) bench, ?_⟩
  all_goals
    obtain ⟨layer, rest, hlayers⟩ := List.exists_cons_of_ne_nil p.network.layers_ne_nil
    rw [hlayers] at hbreak
  · rw [Network.checkChain, hlayers]
    exact hbreak.checkFrom_eq
  · intro α A variant x hx
    have hfirst : p.network.inputs = layer.inputs := by
      simp [Network.inputs, Network.first, hlayers]
    rw [Network.forward, if_neg (not_not.2 hx), hlayers, hbreak.logitsFrom_eq (hx.trans hfirst)]
    rfl

theorem runOn_buildPlan_ne_chain {plan : Plan} (hplan : p.plan = .ok plan) (cause : ChainFault) :
    (Job.runOn p.buildPlan bench).1 ≠ .error (.chain cause) := by
  cases hpins : p.pins with
  | ok pins =>
    rw [runOn_buildPlan hplan hpins]
    exact nofun
  | error fault =>
    -- Behind the plan only the pins are looked for, and no chain bears on them.
    rw [runOn_buildPlan_of_pins_error hplan hpins]
    rintro ⟨⟩
    rcases p.refusedFor_pins _ hpins with ⟨_, hboard⟩ | hother | hother
    · cases hboard
    · cases hother
    · cases hother

/-- **The two checks of the chain agree.**  The stage for the plan finds layers that do not chain
    exactly if the check of the network does.  Both stop at the first layer that reads another
    number of values than the one in front of it yields; the stage leaves the workbench as it was,
    and the reference has no values that fit this layer.  Where neither stops, the layers compose
    for every input of the right length, and the reference yields a value for each output of the
    network. -/
theorem buildPlan_refuses_chain_iff :
    ((∃ cause, (Job.runOn p.buildPlan bench).1 = .error (.chain cause)) ↔
      ∃ cause, p.network.checkChain = .error (.chain cause)) ∧
    (∀ cause, p.network.checkChain = .error (.chain cause) →
      ∃ k previous next, Network.BreaksAt p.network.layers k previous next ∧
        cause = .neighbours previous.name.shown previous.outputs next.name.shown next.inputs ∧
        Job.runOn p.buildPlan bench =
          (.error (.chain (.stage next.name.shown next.inputs previous.outputs)), bench) ∧
        ∀ (α : Type) (A : Arithmetic α) (variant : Variant) (x : List α),
          x.length = p.network.inputs →
          p.network.forward A variant x =
            .error (.vector (.rows previous.outputs next.inputs))) ∧
    ((∀ cause, p.network.checkChain ≠ .error (.chain cause)) →
      ∀ (α : Type) (A : Arithmetic α) (variant : Variant) (x : List α),
        x.length = p.network.inputs →
        (∃ y, p.network.layers.foldlM (fun x layer => layer.linear A x) x = .ok y ∧
          y.length = p.network.outputs) ∧
        ∃ y, p.network.forward A variant x = .ok y ∧ y.length = p.network.outputs) := by
  rcases p.network.checkChain_eq_ok_or_breaksAt with hchain | ⟨k, previous, next, hbreak⟩
  · have hplan := Plan.ofNetwork_eq p.network p.metadata.variant p.flashReader hchain
    refine ⟨?_, ?_, fun _ α A variant x hx => ?_⟩
    · refine iff_of_false ?_ ?_
      · rintro ⟨cause, hrefused⟩
        exact p.runOn_buildPlan_ne_chain bench hplan cause hrefused
      · rintro ⟨cause, hrefused⟩
        cases hchain.symm.trans hrefused
    · intro cause hrefused
      cases hchain.symm.trans hrefused
    · exact ⟨p.network.exists_composed_eq_ok A hchain hx,
        p.network.exists_forward_eq_ok A variant hchain hx⟩
  · obtain ⟨hcheck, hbuild, hforward⟩ := p.refused_of_breaksAt bench hbreak
    refine ⟨iff_of_true ⟨_, by rw [hbuild]⟩ ⟨_, hcheck⟩, ?_, fun hnever => ?_⟩
    · intro cause hrefused
      rw [hcheck] at hrefused
      cases hrefused
      exact ⟨k, previous, next, hbreak, rfl, hbuild, hforward⟩
    · exact absurd hcheck (hnever _)

end Project

end DenseSketch
