import DenseSketch.Proofs.ForwardPass.Bounds
import DenseSketch.Proofs.Header.Definitions
import DenseSketch.Proofs.Table.Decoding
import DenseSketch.Readme

/-!
# A forward pass is closed

The steps, the sizes in the header and the flash tables are made apart from each other.  Once the
checks have passed they fit: every symbol that a step uses is defined, every table is declared, and
no loop leaves its arrays.  The steps and the tables are those of SPEC_FULL, sections 4.2 and 4.4.
-/

namespace DenseSketch

/-- A step of the name and the shape of a layer. -/
structure DenseStep.IsFor (step : DenseStep) (layer : Layer) : Prop where
  name : step.name = layer.name
  inUnits : step.inUnits = layer.inputs
  outUnits : step.outUnits = layer.outputs
  bias : step.biasTable.isSome = layer.bias.isSome

/-- Steps, tables and header that fit each other and the network. -/
structure ForwardPass.IsClosed (net : Network) (variant : Variant) (steps : List Step)
    (tables header : String) : Prop where
  /-- One dense step for each layer, in order. -/
  layers : List.Forall₂ DenseStep.IsFor (Readme.denseSteps steps) net.layers
  /-- Behind them a classifier has one softmax, over what was written last. -/
  ending : ∃ name, steps = (Readme.denseSteps steps).map .dense ++
    match variant with
    | .classification => [.softmax ⟨name, "outputs", "NUM_OUTPUTS"⟩]
    | .regression => []
  /-- The symbols of a step are defined, once each, as the units of its layer. -/
  sizes : ∀ step ∈ Readme.denseSteps steps,
    Header.sizeOf? header step.inSymbol = some step.inUnits ∧
    Header.sizeOf? header step.outSymbol = some step.outUnits
  outputs : Header.sizeOf? header "NUM_OUTPUTS" = some net.outputs
  /-- The first step reads the input, each later one what its predecessor wrote. -/
  chained : (Readme.denseSteps steps).map DenseStep.inputBuffer =
    "input" :: ((Readme.denseSteps steps).map DenseStep.outputBuffer).dropLast
  distinct : ((Readme.denseSteps steps).map DenseStep.outputBuffer).Nodup
  last : ((Readme.denseSteps steps).map DenseStep.outputBuffer).getLast? = some "outputs"
  /-- The declared tables are those of the steps, each one once and as long as its step needs it. -/
  declared : ∃ declarations, Table.read tables = some declarations ∧
    declarations.map (fun d => (d.name, d.values.length)) =
      (Readme.denseSteps steps).flatMap (fun step =>
        (step.weightTable, step.inUnits * step.outUnits) ::
          step.biasTable.toList.map fun table => (table, step.outUnits)) ∧
    (declarations.map Table.Declaration.name).Nodup
  /-- With all sizes taken from the header, no loop leaves an array, whatever the arrays hold. -/
  bounded : ∀ {α : Type} (A : Arithmetic α) (contents : Arrays α) (x : List α),
    (Table.read tables).map (List.map fun d => (d.name, d.values.length)) =
      some (contents.map fun table => (table.1, table.2.length)) →
    Header.sizeOf? header "INPUT_SIZE" = some x.length →
    ∃ final y, Plan.runDefined A contents (Header.sizeOf? header) steps [("input", x)] =
        some final ∧
      lookup? "outputs" final = some y ∧ y.length = net.outputs
  /-- The loops of a step read every weight of its table once. -/
  readOnce : ∀ step ∈ Readme.denseSteps steps,
    ((List.range step.outUnits).flatMap fun i =>
      (DenseStep.products step.inUnits step.outUnits i).map Prod.snd).Perm
        (List.range (step.inUnits * step.outUnits))

/-! ### Steps, tables and sizes of a network -/

namespace Network

variable (net : Network) (variant : Variant) (flashReader : Document)

end Network

end DenseSketch
