import DenseSketch.Model.View
import DenseSketch.Network.Basic

/-!
# Extracting a network

Extraction copies the weights of every layer that has some and then builds the network from the
copies.  A layer without weights adds nothing; a layer with weights has to be a dense one.  This is
the second half of the Weight Extractor (SPEC_FULL, section 4.1): the copies of the weights, and the
network that is built of them.
-/

namespace DenseSketch

/-- The copied tensors of a layer. -/
structure Materialized where
  name : Document
  kind : String
  weights : Tensor
  bias : Option Tensor

namespace Materialized

def allFinite (t : Tensor) : Bool := t.data.all Datum.isFinite

/-- Inputs and outputs by the shape of the weights: a matrix has both, a vector feeds one output. -/
def units (m : Materialized) : Except Fault (Nat × Nat) :=
  match m.weights.dims with
  | [inputs, outputs] => .ok (inputs, outputs)
  | [inputs] => .ok (inputs, 1)
  | dims => .error (.shape (.rank m.name.shown dims))

/-- The layer, once its shape, its kind and its values have been checked in this order. -/
def toLayer (m : Materialized) : Except Fault Layer := do
  let (inputs, outputs) ← m.units
  if m.kind ≠ Layer.kindName then throw (.unsupportedKind m.name.shown m.kind)
  if !allFinite m.weights then throw (.nonFinite (.weights m.name.shown))
  if m.bias.any fun b => !allFinite b then throw (.nonFinite (.bias m.name.shown))
  Layer.create m.name inputs outputs (toString inputs) (toString outputs) m.weights.data
    (m.bias.map (·.data))

def toNetwork (layers : List Materialized) : Except Fault Network := do
  Network.create (← layers.mapM toLayer)

end Materialized

namespace LayerView

def materialize (view : LayerView) : Except Fault (Option Materialized) := do
  match ← view.weights with
  | none => return none
  | some weights =>
    let weights ← weights.toTensor
    let bias ← view.bias.mapM Held.toTensor
    return some ⟨view.name, Text.lower (← view.kind).shown, weights, bias⟩

/-- What is reported of a layer that has been copied or skipped. -/
def reportLine (view : LayerView) : Option Materialized → String
  | none => s!"  {view.name.shown}: no learnable weights, skipped"
  | some m =>
    let shownKind := match view.kind with
      | .ok kind => kind.shown
      | .error _ => m.kind
    let shownBias := match m.bias with
      | some b => s!", bias={shownDims b.dims}"
      | none => ""
    s!"  {view.name.shown}: {shownKind}, weights={shownDims m.weights.dims}{shownBias}"

/-- Copies all layers up to the first one that is refused: the report, and the copies. -/
def materializeAll : List LayerView → List String × Except Fault (List Materialized)
  | [] => ([], .ok [])
  | view :: rest =>
    match view.materialize with
    | .error fault => ([], .error fault)
    | .ok found =>
      let (lines, more) := materializeAll rest
      (view.reportLine found :: lines, more.map fun layers => found.toList ++ layers)

end LayerView

namespace Model

def extractWithReport (model : Model) : List String × Except Fault Network :=
  let head := "[Extract] Reading layers from " ++ model.className
  match model.views with
  | .error fault => ([head], .error fault)
  | .ok views =>
    let (lines, copies) := LayerView.materializeAll views
    match copies.bind Materialized.toNetwork with
    | .error fault => (head :: lines, .error fault)
    | .ok net =>
      let summary := s!"[Extract] {net.layers.length} dense layers ({net.shape}), " ++
        s!"{net.parameterCount} parameters"
      (head :: lines ++ [summary], .ok net)

def extract (model : Model) : Except Fault Network := model.extractWithReport.2

end Model

end DenseSketch
