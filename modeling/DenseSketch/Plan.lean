import DenseSketch.Table.Basic
import DenseSketch.Board

/-!
# Forward-pass plans

A plan lists the steps of one prediction in the order in which the sketch takes them.  A step names
the buffers it reads and writes, the tables it draws on and the symbols of its sizes; the first one
reads the input window, each later one what its predecessor wrote.  These are the emit specs of the
Forward-Pass Emitter (SPEC_FULL, section 4.2).
-/

namespace DenseSketch

/-- The function that a dense step puts around each sum. -/
inductive Activation where
  | relu
  | sigmoid
  | linear
  deriving DecidableEq, Repr

namespace Activation

def name : Activation → String
  | .relu => "relu"
  | .sigmoid => "sigmoid"
  | .linear => "linear"

def expression : Activation → String
  | .relu => "max(0.0f, sum)"
  | .sigmoid => "1.0f / (1.0f + expf(-sum))"
  | .linear => "sum"

/-- Hidden layers are rectified; a classifier keeps its last sums, a regressor squashes them. -/
def ofPosition (isFinal : Bool) : Variant → Activation
  | .classification => if isFinal then .linear else .relu
  | .regression => if isFinal then .sigmoid else .relu

end Activation

structure DenseStep where
  index : Nat
  name : Document
  inputBuffer : String
  outputBuffer : String
  inUnits : Nat
  outUnits : Nat
  inSymbol : String
  outSymbol : String
  weightTable : String
  biasTable : Option String
  flashReader : Document
  isFinal : Bool
  activation : Activation

/-- A step that turns a buffer into probabilities, in place. -/
structure SoftmaxStep where
  name : String
  buffer : String
  sizeSymbol : String
  deriving DecidableEq, Repr

inductive Step where
  | dense (step : DenseStep)
  | softmax (step : SoftmaxStep)

/-- The steps, and the sizes of the buffers between them by symbol. -/
structure Plan where
  steps : List Step
  unitDefines : List (String × Nat)

namespace Plan

def inputBuffer : String := "input"

def outputBuffer : String := "outputs"

def outputSymbol : String := "NUM_OUTPUTS"

def inputSymbol : String := "INPUT_SIZE"

def hiddenSymbol (index : Nat) : String := s!"HIDDEN_UNITS_{index + 1}"

def hiddenBuffer (index : Nat) : String := s!"h{index + 1}"

/-- What a step finds: the buffer that was written last, its width and the symbol of the width. -/
structure Stage where
  buffer : String
  units : Nat
  symbol : String

def denseStep (variant : Variant) (flashReader : Document) (index : Nat) (isFinal : Bool)
    (stage : Stage) (layer : Layer) : DenseStep where
  index := index
  name := layer.name
  inputBuffer := stage.buffer
  outputBuffer := if isFinal then outputBuffer else hiddenBuffer index
  inUnits := layer.inputs
  outUnits := layer.outputs
  inSymbol := stage.symbol
  outSymbol := if isFinal then outputSymbol else hiddenSymbol index
  weightTable := Table.tableName index .weights
  biasTable := layer.bias.map fun _ => Table.tableName index .bias
  flashReader := flashReader
  isFinal := isFinal
  activation := .ofPosition isFinal variant

/-- What stands behind the last dense step: a classifier normalizes its outputs. -/
def finish (variant : Variant) (step : DenseStep) : List Step :=
  match variant with
  | .classification => [.softmax ⟨step.name.shown ++ "_softmax", step.outputBuffer, step.outSymbol⟩]
  | .regression => []

def ofLayers (variant : Variant) (flashReader : Document) (index : Nat) (stage : Stage) :
    List Layer → Except Fault Plan
  | [] => .ok ⟨[], []⟩
  | layer :: rest =>
    if layer.inputs ≠ stage.units then
      .error (.chain (.stage layer.name.shown layer.inputs stage.units))
    else
      let isFinal := rest.isEmpty
      let step := denseStep variant flashReader index isFinal stage layer
      if isFinal then .ok ⟨.dense step :: finish variant step, []⟩
      else do
        let next := ⟨step.outputBuffer, step.outUnits, step.outSymbol⟩
        let plan ← ofLayers variant flashReader (index + 1) next rest
        return ⟨.dense step :: plan.steps, (step.outSymbol, step.outUnits) :: plan.unitDefines⟩

def ofNetwork (net : Network) (variant : Variant) (flashReader : Document) : Except Fault Plan :=
  ofLayers variant flashReader 0 ⟨inputBuffer, net.inputs, inputSymbol⟩ net.layers

end Plan

end DenseSketch
