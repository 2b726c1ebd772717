import DenseSketch.Tensor
import DenseSketch.Document.Display

/-!
# Dense layers

A dense layer is a matrix of weights, stored row by row with one row for each input, and perhaps a
bias for each output.  The type holds the proof that the counts fit.  It is the layer of the data
model (SPEC_FULL, section 3).
-/

namespace DenseSketch

/-- A fully connected layer in single precision.  Its name is usually a text; whatever it is, it is
    shown. -/
structure Layer where
  name : Document
  inputs : Nat
  outputs : Nat
  weights : List Datum
  bias : Option (List Datum)
  inputs_pos : 0 < inputs
  outputs_pos : 0 < outputs
  weights_length : weights.length = inputs * outputs
  bias_length : ∀ b ∈ bias, b.length = outputs

namespace Layer

def kindName : String := "dense"

/-- A layer of given unit counts, which a refusal shows as `shownInputs` and `shownOutputs`. -/
def create (name : Document) (inputs outputs : Int) (shownInputs shownOutputs : String)
    (weights : List Datum) (bias : Option (List Datum)) : Except Fault Layer :=
  if hi : 0 < inputs.toNat then
    if ho : 0 < outputs.toNat then
      if hw : weights.length = inputs.toNat * outputs.toNat then
        if hb : ∀ b ∈ bias, b.length = outputs.toNat then
          .ok ⟨name, inputs.toNat, outputs.toNat, weights, bias, hi, ho, hw, hb⟩
        else
          .error (.shape (.biasCount name.shown (bias.getD []).length outputs.toNat))
      else
        .error (.shape (.weightCount name.shown weights.length inputs.toNat outputs.toNat))
    else .error (.shape (.units name.shown shownInputs shownOutputs))
  else .error (.shape (.units name.shown shownInputs shownOutputs))

theorem create_self (layer : Layer) (shownInputs shownOutputs : String) :
    create layer.name layer.inputs layer.outputs shownInputs shownOutputs layer.weights
      layer.bias = .ok layer := by
  obtain ⟨name, inputs, outputs, weights, bias, hinputs, houtputs, hweights, hbias⟩ := layer
  simp only [create, Int.toNat_natCast, dif_pos hinputs, dif_pos houtputs, dif_pos hweights,
    dif_pos hbias]

def parameterCount (layer : Layer) : Nat :=
  layer.weights.length + (layer.bias.getD []).length

/-- The weights row by row, one row for each input. -/
def rows (layer : Layer) : List (List Datum) :=
  Block.rowsOf layer.outputs layer.inputs layer.weights

def parameters (layer : Layer) : List Datum :=
  layer.weights ++ layer.bias.getD []

end Layer

/-- The parts of a layer as they come from outside; a bias of null is none. -/
structure LayerParts where
  name : Document
  kind : Document
  inputs : Document
  outputs : Document
  weights : Document
  bias : Document

def LayerParts.toLayer (parts : LayerParts) : Except Fault Layer := do
  let weights ← Tensor.ofDocument parts.weights
  let bias ← match parts.bias with
    | .null => pure none
    | given => some <$> Tensor.ofDocument given
  match parts.kind with
  | .text kind => if kind == Layer.kindName then pure () else throw .badValue
  | _ => throw .badValue
  let shownInputs := parts.inputs.shown
  let shownOutputs := parts.outputs.shown
  let inputs ← parts.inputs.toInt
  if inputs ≤ 0 then throw (.shape (.units parts.name.shown shownInputs shownOutputs))
  let outputs ← parts.outputs.toInt
  Layer.create parts.name inputs outputs shownInputs shownOutputs weights.data (bias.map (·.data))

end DenseSketch
