import DenseSketch.Document.Arithmetic
import DenseSketch.Model.Catalogue
import DenseSketch.Model.Constructor
import DenseSketch.Model.Members

/-!
# Instances of the usual classes

A class that a model file imports is made with the arguments that are given.  They decide on the
shapes of its tensors; where an instance starts out with the same numbers every time, it has these.
-/

namespace DenseSketch

abbrev Arguments := List (String × Document)

namespace Arguments

def valueOr (args : Arguments) (name : String) (default : Document) : Document :=
  (lookup? name args).getD default

/-- Is the argument true?  One that is left out is. -/
def isOn (args : Arguments) (name : String) : Bool :=
  (args.valueOr name (.truth true)).isTruthy

def axis : Document → Except Fault Nat
  | .integer n => if n < 0 then .error .tensorMismatch else .ok n.toNat
  | _ => .error .wrongType

def count (args : Arguments) (name : String) : Except Fault Nat :=
  axis (args.valueOr name .null)

/-- The argument as one number for every axis, or a list of them. -/
def counts (args : Arguments) (name : String) (rank : Nat) : Except Fault (List Nat) :=
  match args.valueOr name .null with
  | .list items => items.mapM axis
  | item => do return List.replicate rank (← axis item)

end Arguments

namespace Catalogue

def filled (x : Datum) (dims : List Nat) : Tensor :=
  ⟨dims, List.replicate (Block.sizeOf dims) (Format.binary32.round x)⟩

/-- A weight and a bias by their shapes, the bias only if it is asked for. -/
def weightAndBias (args : Arguments) (weight bias : List Nat) : List (String × Tensor) :=
  ("weight", halves weight) :: if args.isOn "bias" then [("bias", halves bias)] else []

def scaleAndShift (dims : List Nat) : List (String × Tensor) :=
  [("weight", filled .one dims), ("bias", filled .zero dims)]

def convolutionTensors (args : Arguments) (rank : Nat) : Except Fault (List (String × Tensor)) := do
  let inputs ← args.count "in_channels"
  let outputs ← args.count "out_channels"
  let groups ← Arguments.axis (args.valueOr "groups" (.integer 1))
  if groups = 0 || inputs % groups ≠ 0 || outputs % groups ≠ 0 then throw .badValue
  let kernel ← args.counts "kernel_size" rank
  return weightAndBias args (outputs :: inputs / groups :: kernel) [outputs]

def groupTensors (args : Arguments) : Except Fault (List (String × Tensor)) := do
  let channels ← (args.valueOr "num_channels" .null).quantity
  let groups ← (args.valueOr "num_groups" .null).quantity
  if !(← channels.isMultiple groups) then throw .badValue
  let dims := [← args.count "num_channels"]
  return if args.isOn "affine" then scaleAndShift dims else []

def trainedTensors (className : String) (args : Arguments) :
    Except Fault (List (String × Tensor)) := do
  match className with
  | "Linear" =>
    let inputs ← args.count "in_features"
    let outputs ← args.count "out_features"
    return weightAndBias args [outputs, inputs] [outputs]
  | "Bilinear" =>
    let first ← args.count "in1_features"
    let second ← args.count "in2_features"
    let outputs ← args.count "out_features"
    if first = 0 then throw .badValue
    return weightAndBias args [outputs, first, second] [outputs]
  | "Embedding" =>
    return [("weight", halves [← args.count "num_embeddings", ← args.count "embedding_dim"])]
  | "Conv1d" => convolutionTensors args 1
  | "Conv2d" => convolutionTensors args 2
  | "Conv3d" => convolutionTensors args 3
  | "BatchNorm1d" | "BatchNorm2d" | "BatchNorm3d" =>
    let dims := [← args.count "num_features"]
    return if args.isOn "affine" then scaleAndShift dims else []
  | "LayerNorm" =>
    let dims ← args.counts "normalized_shape" 1
    if !args.isOn "elementwise_affine" then return []
    return (scaleAndShift dims).take (if args.isOn "bias" then 2 else 1)
  | "GroupNorm" => groupTensors args
  | "PReLU" =>
    let dims := [← Arguments.axis (args.valueOr "num_parameters" (.integer 1))]
    let start ← (args.valueOr "init" (.real (.finite false 1 (-2)))).toNumber
    return [("weight", filled start dims)]
  | name => return (((find? name).map Entry.parameters).getD []).map fun p => (p.1, halves p.2)

def keptTensors (className : String) (args : Arguments) :
    Except Fault (List (String × Tensor)) := do
  if ["BatchNorm1d", "BatchNorm2d", "BatchNorm3d"].contains className &&
      args.isOn "track_running_stats" then
    return statistics (← args.count "num_features")
  else return []

def checkShare (args : Arguments) : Except Fault Unit := do
  let share := args.valueOr "p" (.integer 0)
  if (← share.isNegative) || (← Document.isBelow (.integer 1) share) then throw .badValue

def make (className : String) (args : Arguments) : Except Fault Module := do
  match Constructor.find? className with
  | some c => c.check (args.map (·.1))
  | none => pure ()
  if Constructor.isDropout className then checkShare args
  let parameters ← trainedTensors className args
  let buffers ← keptTensors className args
  return .node
    { identity := 0
      className := className
      isLinear := className == Base.linear.name
      isActivation := Constructor.isActivation className
      parameters := parameters
      buffers := buffers
      optional := [counterName] }
    (if className == "MultiheadAttention" then [("out_proj", projection 1)] else [])

end Catalogue

end DenseSketch
