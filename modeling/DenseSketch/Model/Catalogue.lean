import DenseSketch.Model.Module

/-!
# The usual classes

The classes that models are usually built from: which of them are activations, which carry trained
tensors, and the shapes of these in the smallest instance.
-/

namespace DenseSketch.Catalogue

/-- A class with the shapes of its own trained tensors by name. -/
structure Entry where
  className : String
  isActivation : Bool
  parameters : List (String × List Nat)

def plain (className : String) : Entry := ⟨className, false, []⟩

def activation (className : String) : Entry := ⟨className, true, []⟩

def weighted (className : String) (weight : List Nat) (bias : Option (List Nat)) : Entry :=
  ⟨className, false,
    ("weight", weight) :: match bias with
      | some dims => [("bias", dims)]
      | none => []⟩

/-- A class whose trained tensors have names of their own. -/
def recurrent (className parameter : String) (isActivation : Bool) : Entry :=
  ⟨className, isActivation, [(parameter, [1])]⟩

def entries : List Entry :=
  [weighted "BatchNorm1d" [4] (some [4]), weighted "Bilinear" [2, 2, 2] (some [2]),
    weighted "Conv1d" [2, 1, 3] (some [2]), weighted "Conv2d" [2, 1, 3, 3] (some [2]),
    plain "Dropout", activation "ELU", weighted "Embedding" [5, 3] none, plain "Flatten",
    activation "GELU", recurrent "GRU" "weight_ih_l0" false,
    weighted "GroupNorm" [4] (some [4]), activation "Hardswish", activation "Hardtanh",
    plain "Identity", recurrent "LSTM" "weight_ih_l0" false,
    recurrent "LSTMCell" "weight_ih" false, weighted "LayerNorm" [4] (some [4]),
    activation "LeakyReLU", activation "LogSigmoid", activation "LogSoftmax", plain "MaxPool1d",
    activation "Mish", recurrent "MultiheadAttention" "in_proj_weight" true,
    ⟨"PReLU", true, [("weight", [1])]⟩, plain "PixelShuffle",
    recurrent "RNN" "weight_ih_l0" false, activation "ReLU", activation "ReLU6",
    activation "SiLU", activation "Sigmoid", activation "Softmax", activation "Softplus",
    activation "Softsign", activation "Tanh", activation "Tanhshrink", activation "Threshold",
    plain "ZeroPad1d"]

def find? (className : String) : Option Entry :=
  entries.find? (·.className == className)

def halves (dims : List Nat) : Tensor :=
  ⟨dims, List.replicate (Block.sizeOf dims) (.finite false 1 (-1))⟩

/-- The projection inside an attention module, a fully connected layer. -/
def projection (identity : Nat) : Module :=
  .node
    { identity := identity
      className := "NonDynamicallyQuantizableLinear"
      isLinear := true
      isActivation := false
      parameters := [("weight", halves [4, 4]), ("bias", halves [4])]
      buffers := [] } []

/-- The counter of a batch normalization, which a state may leave out. -/
def counterName : String := "num_batches_tracked"

/-- The running statistics of a batch normalization over some channels, which are not trained. -/
def statistics (channels : Nat) : List (String × Tensor) :=
  [("running_mean", halves [channels]), ("running_var", halves [channels]),
    (counterName, halves [])]

/-- An instance of a class.  A normalization without its affine part has no trained tensors. -/
def instantiate (entry : Entry) (identity : Nat) (isAffine : Bool) : Module :=
  let normalizes := entry.className == "BatchNorm1d" || entry.className == "LayerNorm"
  .node
    { identity := identity
      className := entry.className
      isLinear := false
      isActivation := entry.isActivation
      parameters :=
        if normalizes && !isAffine then [] else entry.parameters.map fun p => (p.1, halves p.2)
      buffers := if entry.className == "BatchNorm1d" then statistics 4 else []
      optional := [counterName] }
    (if entry.className == "MultiheadAttention" then [("out_proj", projection (identity + 1))]
      else [])

end DenseSketch.Catalogue
