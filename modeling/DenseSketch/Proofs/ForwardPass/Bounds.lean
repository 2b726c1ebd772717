import DenseSketch.Proofs.ForwardPass.Loops
import DenseSketch.Proofs.Plan.Positions

/-!
# Nothing is read outside its array

A forward pass whose sizes are taken from symbols runs to its end as soon as the symbols stand for
the widths of the network and the tables are as long as they are declared.
-/

namespace DenseSketch

variable {α : Type}

namespace Plan

variable {A : Arithmetic α} {tables buffers : Arrays α} {valueOf : String → Option Nat}
  {count k : Nat} {layer : Layer} {x : List α}

end Plan

/-! ### Whole networks -/

theorem Network.widths_of_checkFrom {layer next : Layer} {rest : List Layer} {k : Nat}
    (hchain : Network.checkFrom layer rest = .ok ()) (hnext : (layer :: rest)[k]? = some next) :
    (layer.inputs :: (layer :: rest).map Layer.outputs)[k]? = some next.inputs := by
  induction rest generalizing layer k with
  | nil =>
    cases k with
    | zero => simp_all
    | succ k => simp at hnext
  | cons second rest ih =>
    obtain ⟨hneighbours, hrest⟩ := Network.checkFrom_cons.1 hchain
    cases k with
    | zero => simp_all
    | succ k => simpa [hneighbours] using ih hrest (by simpa using hnext)

/-- A layer reads as many values as the width in front of it says, and yields as many as the width
    behind it. -/
theorem Network.widths_of_layer {net : Network} (hchain : net.checkChain = .ok ()) {k : Nat}
    {layer : Layer} (hlayer : net.layers[k]? = some layer) :
    net.widths[k]? = some layer.inputs ∧ net.widths[k + 1]? = some layer.outputs := by
  obtain ⟨first, rest, hlayers⟩ := List.exists_cons_of_ne_nil net.layers_ne_nil
  have hrest : Network.checkFrom first rest = .ok () := by
    simpa only [Network.checkChain, hlayers] using hchain
  have hfirst : net.inputs = first.inputs := by simp [Network.inputs, Network.first, hlayers]
  constructor
  · rw [Network.widths, hfirst, hlayers]
    exact Network.widths_of_checkFrom hrest (hlayers ▸ hlayer)
  · simp [Network.widths, hlayer]

theorem Network.widths_length {net : Network} (hchain : net.checkChain = .ok ()) :
    net.widths[net.layers.length]? = some net.outputs := by
  have hlast : net.layers[net.layers.length - 1]? = some net.last := by
    rw [← List.getLast?_eq_getElem?, List.getLast?_eq_some_getLast net.layers_ne_nil]
    rfl
  have hwidth := (Network.widths_of_layer hchain hlast).2
  rwa [Nat.sub_add_cancel net.length_layers_pos] at hwidth

end DenseSketch
