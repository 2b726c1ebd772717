import DenseSketch.Inference.Dense
import DenseSketch.Inference.Activation
import DenseSketch.Inference.Window
import DenseSketch.Message.Frame
import DenseSketch.Network.Basic
import DenseSketch.Sensor

/-!
# Reference inference

Runs a network with the meaning that its sketch gives it: hidden layers pass on positive values, the
last layer ends in a softmax or in the logistic function, and every prediction comes with the
message that the board would send.  This is the reference inference of SPEC_FULL, section 9.5.
-/

namespace DenseSketch

variable {α : Type}

namespace Layer

def matrix (A : Arithmetic α) (layer : Layer) : Block α :=
  ⟨[layer.inputs, layer.outputs], layer.weights.map A.ofDatum⟩

def biasBlock (A : Arithmetic α) (layer : Layer) : Option (Block α) :=
  layer.bias.map fun b => .vector (b.map A.ofDatum)

/-- The layer without its activation. -/
def linear (A : Arithmetic α) (layer : Layer) (x : List α) : Except Fault (List α) := do
  let y ← A.dense (.vector x) (layer.matrix A) (layer.biasBlock A)
  return y.data

end Layer

namespace Network

/-- The values of the last layer before its activation. -/
def logitsFrom (A : Arithmetic α) (x : List α) : List Layer → Except Fault (List α)
  | [] => .ok x
  | [layer] => layer.linear A x
  | layer :: rest => do
    let y ← layer.linear A x
    logitsFrom A (y.map A.relu) rest

def activate (A : Arithmetic α) (variant : Variant) (y : List α) : Except Fault (List α) :=
  match variant with
  | .classification => A.softmax y
  | .regression => .ok (y.map A.sigmoid)

def forward (A : Arithmetic α) (net : Network) (variant : Variant) (x : List α) :
    Except Fault (List α) :=
  if x.length ≠ net.inputs then .error (.window (.input x.length net.inputs))
  else do
    let y ← logitsFrom A x net.layers
    activate A variant y

end Network

/-- One prediction: the outputs, the message and, for a classifier, the winning class; for a
    regressor, the duty cycles. -/
structure Prediction where
  outputs : List Datum
  message : String
  winner : Option (Nat × String)
  duties : List Int

def predict (net : Network) (m : Metadata) (x : List Datum) : Except Fault Prediction := do
  let outputs ← net.forward .binary32 m.variant x
  match m.variant with
  | .classification =>
    let index ← argmax Datum.lt outputs
    match m.labels[index]? with
    | none => throw .outOfBounds
    | some label =>
      let message := Message.frameClassification label (outputs[index]?.getD .nan)
      return ⟨outputs, message, some (index, label), []⟩
  | .regression =>
    let message ← Message.frameRegression outputs
    return ⟨outputs, message, none, outputs.map pwmDuty⟩

def isDue (window : Window Datum) (count : Nat) (every : Document) : Except Fault Bool :=
  if window.isFilled then do (Quantity.whole count).isMultiple (← every.quantity)
  else .ok false

/-- Feeds frames to a window that has seen `count` of them. -/
def predictFrom (net : Network) (m : Metadata) (sensor : Sensor) (every : Document)
    (window : Window Datum) (count : Nat) : List Document → Except Fault (List Prediction)
  | [] => .ok []
  | frame :: rest => do
    let normalized ← sensor.normalization.apply (← Tensor.ofDocument frame)
    let window ← window.push normalized.data
    let here ← if ← isDue window (count + 1) every then
        (fun p => [p]) <$> predict net m window.values
      else pure []
    let more ← predictFrom net m sensor every window (count + 1) rest
    return here ++ more

/-- Feeds raw frames through a window and predicts after every `every` frames once it is filled. -/
def predictStream (net : Network) (m : Metadata) (sensor : Sensor) (every : Document)
    (frames : List Document) : Except Fault (List Prediction) := do
  let window ← Window.filledWith Datum.zero m.window (← sensor.frameSize)
  predictFrom net m sensor every window 0 frames

end DenseSketch
