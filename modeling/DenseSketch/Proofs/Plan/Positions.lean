import DenseSketch.Plan
import DenseSketch.Proofs.Number.Decimal
import DenseSketch.Proofs.Text.Lines
import Mathlib.Data.List.Nodup

/-!
# The steps of a plan

The plan of a network, first layer by layer and then by the positions of its layers.
-/

/-!
## Plans, layer by layer

How the plan of some layers comes from the plan of the layers behind the first one.
-/

namespace DenseSketch

theorem Network.checkFrom_cons {previous next : Layer} {rest : List Layer} :
    Network.checkFrom previous (next :: rest) = .ok () ↔
      previous.outputs = next.inputs ∧ Network.checkFrom next rest = .ok () := by
  by_cases h : previous.outputs = next.inputs <;> simp [Network.checkFrom, h]

@[simp]
theorem Activation.ofPosition_hidden (variant : Variant) : ofPosition false variant = .relu := by
  cases variant <;> rfl

namespace Plan

variable {variant : Variant} {flashReader : Document} {index : Nat} {stage : Stage} {layer : Layer}

theorem ofLayers_last (hunits : layer.inputs = stage.units) :
    ofLayers variant flashReader index stage [layer] =
      .ok ⟨.dense (denseStep variant flashReader index true stage layer) ::
        finish variant (denseStep variant flashReader index true stage layer), []⟩ := by
  simp [ofLayers, hunits]

theorem ofLayers_hidden (hunits : layer.inputs = stage.units) (next : Layer) (rest : List Layer) :
    ofLayers variant flashReader index stage (layer :: next :: rest) =
      (ofLayers variant flashReader (index + 1)
        ⟨hiddenBuffer index, layer.outputs, hiddenSymbol index⟩ (next :: rest)).map
          fun plan =>
            ⟨.dense (denseStep variant flashReader index false stage layer) :: plan.steps,
              (hiddenSymbol index, layer.outputs) :: plan.unitDefines⟩ := by
  rw [ofLayers]
  simp only [hunits, ne_eq, not_true_eq_false, if_false, List.isEmpty_cons]
  rfl

end Plan

end DenseSketch

/-!
## Steps by position

The plan of a network whose layers chain, without a recursion: step `k` reads what stands in front
of layer `k` and writes what stands behind it.  The places between the layers are numbered, and each
one has its own buffer and its own symbol.
-/

namespace DenseSketch

theorem map_zipIdx_eq_map_range {α β : Type} (xs : List α) {f : α × Nat → β} {g : Nat → β}
    (hnumber : ∀ entry, f entry = g entry.2) :
    xs.zipIdx.map f = (List.range xs.length).map g := by
  have hnumbers : xs.zipIdx.map Prod.snd = List.range xs.length := by
    rw [List.zipIdx_map_snd, List.range_eq_range']
  rw [← hnumbers, List.map_map]
  exact List.map_congr_left fun entry _ => hnumber entry

namespace Plan

/-- The name of the place in front of layer `k` out of `count`: the first and the last place have
    names of their own. -/
def nameAt (first last : String) (hidden : Nat → String) (count k : Nat) : String :=
  if k = 0 then first else if k = count then last else hidden (k - 1)

/-- The buffer in front of layer `k` out of `count`; behind the last layer it holds the outputs. -/
def bufferAt : Nat → Nat → String := nameAt inputBuffer outputBuffer hiddenBuffer

/-- The symbol of the size of that buffer. -/
def symbolAt : Nat → Nat → String := nameAt inputSymbol outputSymbol hiddenSymbol

/-- The step of layer `k` out of `count`. -/
def stepAt (variant : Variant) (flashReader : Document) (count k : Nat) (layer : Layer) :
    DenseStep :=
  denseStep variant flashReader k (k + 1 == count)
    ⟨bufferAt count k, layer.inputs, symbolAt count k⟩ layer

/-- What stands behind the steps of the layers, the last of which is given. -/
def ending (variant : Variant) (layer : Layer) : List Step :=
  match variant with
  | .classification => [.softmax ⟨layer.name.shown ++ "_softmax", outputBuffer, outputSymbol⟩]
  | .regression => []

variable (variant : Variant) (flashReader : Document) (count k : Nat) (layer : Layer)

/-! ### Names -/

theorem nameAt_inj {first last : String} {hidden : Nat → String} (hends : first ≠ last)
    (hfirst : ∀ m, hidden m ≠ first) (hlast : ∀ m, hidden m ≠ last)
    (hhidden : ∀ {i j}, hidden i = hidden j → i = j) {count i j : Nat} (hi : i ≤ count)
    (hj : j ≤ count) (hsame : nameAt first last hidden count i = nameAt first last hidden count j) :
    i = j := by
  unfold nameAt at hsame
  by_cases hi0 : i = 0 <;> by_cases hj0 : j = 0
  · rw [hi0, hj0]
  · rw [if_pos hi0, if_neg hj0] at hsame
    split at hsame
    · exact absurd hsame hends
    · exact absurd hsame.symm (hfirst _)
  · rw [if_neg hi0, if_pos hj0] at hsame
    split at hsame
    · exact absurd hsame.symm hends
    · exact absurd hsame (hfirst _)
  · rw [if_neg hi0, if_neg hj0] at hsame
    by_cases hic : i = count <;> by_cases hjc : j = count
    · rw [hic, hjc]
    · rw [if_pos hic, if_neg hjc] at hsame
      exact absurd hsame.symm (hlast _)
    · rw [if_neg hic, if_pos hjc] at hsame
      exact absurd hsame (hlast _)
    · rw [if_neg hic, if_neg hjc] at hsame
      have := hhidden hsame
      omega

theorem symbolAt_inj {count i j : Nat} (hi : i ≤ count) (hj : j ≤ count)
    (hsame : symbolAt count i = symbolAt count j) : i = j :=
  nameAt_inj (by decide) (by simp [hiddenSymbol, inputSymbol, ← String.toList_inj])
    (by simp [hiddenSymbol, outputSymbol, ← String.toList_inj])
    (by simp [hiddenSymbol, ← String.toList_inj]) hi hj hsame

theorem symbolAt_self {count : Nat} (hcount : 0 < count) : symbolAt count count = outputSymbol := by
  simp [symbolAt, nameAt, Nat.pos_iff_ne_zero.1 hcount]

/-! ### The plan -/

/-- The plan of layers that chain and are the last ones out of `count`. -/
theorem ofLayers_eq {count k : Nat} {layer : Layer} {rest : List Layer}
    (hchain : Network.checkFrom layer rest = .ok ()) (hcount : k + (rest.length + 1) = count) :
    ofLayers variant flashReader k ⟨bufferAt count k, layer.inputs, symbolAt count k⟩
        (layer :: rest) =
      .ok ⟨(((layer :: rest).zipIdx k).map fun entry =>
          .dense (stepAt variant flashReader count entry.2 entry.1)) ++
          ending variant ((layer :: rest).getLast (by simp)),
        (((layer :: rest).zipIdx k).dropLast.map fun entry =>
          (symbolAt count (entry.2 + 1), entry.1.outputs))⟩ := by
  induction rest generalizing k layer with
  | nil =>
    have hlast : denseStep variant flashReader k true
        ⟨bufferAt count k, layer.inputs, symbolAt count k⟩ layer =
          stepAt variant flashReader count k layer := by
      simp [stepAt, ← hcount]
    have hbuffer : (stepAt variant flashReader count k layer).outputBuffer = outputBuffer := by
      simp [stepAt, denseStep, ← hcount]
    have hsymbol : (stepAt variant flashReader count k layer).outSymbol = outputSymbol := by
      simp [stepAt, denseStep, ← hcount]
    have hfinish : finish variant (stepAt variant flashReader count k layer) =
        ending variant layer := by
      cases variant with
      | classification => simp only [finish, ending, hbuffer, hsymbol]; rfl
      | regression => rfl
    rw [ofLayers_last rfl, hlast, hfinish]
    simp
  | cons next rest ih =>
    obtain ⟨hneighbours, hrest⟩ := Network.checkFrom_cons.1 hchain
    have hlt : k + 1 < count := by
      rw [← hcount, List.length_cons]
      omega
    have hhere : denseStep variant flashReader k false
        ⟨bufferAt count k, layer.inputs, symbolAt count k⟩ layer =
          stepAt variant flashReader count k layer := by
      rw [stepAt, beq_eq_false_iff_ne.2 (Nat.ne_of_lt hlt)]
    have hbuffer : bufferAt count (k + 1) = hiddenBuffer k := by
      simp [bufferAt, nameAt, Nat.ne_of_lt hlt]
    have hsymbol : symbolAt count (k + 1) = hiddenSymbol k := by
      simp [symbolAt, nameAt, Nat.ne_of_lt hlt]
    have hnext := ih (k := k + 1) hrest (by rw [← hcount, List.length_cons]; omega)
    rw [hbuffer, ← hneighbours, hsymbol] at hnext
    rw [ofLayers_hidden rfl, hhere, hnext]
    simp [Except.map, List.zipIdx_cons, hsymbol]

end Plan

namespace Network

/-- The steps of the layers of a network. -/
def denseSteps (net : Network) (variant : Variant) (flashReader : Document) : List DenseStep :=
  net.layers.zipIdx.map fun entry =>
    Plan.stepAt variant flashReader net.layers.length entry.2 entry.1

/-- The symbols of the widths between the layers. -/
def hiddenDefines (net : Network) : List (String × Nat) :=
  net.layers.zipIdx.dropLast.map fun entry =>
    (Plan.symbolAt net.layers.length (entry.2 + 1), entry.1.outputs)

theorem length_layers_pos (net : Network) : 0 < net.layers.length :=
  List.length_pos_iff.2 net.layers_ne_nil

end Network

/-- The plan of a network whose layers chain. -/
theorem Plan.ofNetwork_eq (net : Network) (variant : Variant) (flashReader : Document)
    (hchain : net.checkChain = .ok ()) :
    ofNetwork net variant flashReader =
      .ok ⟨(net.denseSteps variant flashReader).map .dense ++ ending variant net.last,
        net.hiddenDefines⟩ := by
  obtain ⟨layer, rest, hlayers⟩ := List.exists_cons_of_ne_nil net.layers_ne_nil
  have hrest : Network.checkFrom layer rest = .ok () := by
    simpa only [Network.checkChain, hlayers] using hchain
  have hfirst : net.inputs = layer.inputs := by simp [Network.inputs, Network.first, hlayers]
  have hcount : 0 + (rest.length + 1) = net.layers.length := by simp [hlayers]
  have hplan := ofLayers_eq variant flashReader hrest hcount
  rw [ofNetwork, hfirst, Network.denseSteps, Network.hiddenDefines, Network.last]
  simp only [hlayers, List.map_map] at hplan ⊢
  exact hplan

/-! ### Wiring -/

namespace Network

variable (net : Network) (variant : Variant) (flashReader : Document)

end Network

end DenseSketch
