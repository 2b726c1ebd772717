import DenseSketch.Proofs.Model.Acceptance

/-!
# The first layer that is refused

A copied layer goes through six checks, one after the other.  It becomes a layer if it passes all of
them; otherwise the first check that it fails says why it is refused.  Copies become a network if
there is one and each of them becomes a layer; otherwise the first copy that fails is reported, and
what stands behind it does not count.  The causes are those of `build_model_ir` in SPEC_FULL,
section 4.1.
-/

namespace DenseSketch

namespace Materialized

variable {copy : Materialized} {layers : List Materialized}

/-! ### Checks -/

/-- The checks that a copy goes through. -/
inductive Check where
  | rank
  | kind
  | weights
  | bias
  | units
  | biasCount

namespace Check

/-- The order of the checks. -/
def all : List Check := [rank, kind, weights, bias, units, biasCount]

end Check

/-- The inputs, by the first axis of the weights. -/
def inputs (copy : Materialized) : Nat := copy.weights.dims.getD 0 0

/-- The outputs, by the second axis of the weights; without one there is one output. -/
def outputs (copy : Materialized) : Nat := copy.weights.dims.getD 1 1

/-- The copy passes the check. -/
def Passes (copy : Materialized) : Check → Prop
  | .rank => copy.weights.dims.length = 1 ∨ copy.weights.dims.length = 2
  | .kind => copy.kind = Layer.kindName
  | .weights => ∀ x ∈ copy.weights.data, x.isFinite
  | .bias => ∀ b ∈ copy.bias, ∀ x ∈ b.data, x.isFinite
  | .units => ∀ n ∈ copy.weights.dims, n ≠ 0
  | .biasCount => ∀ b ∈ copy.bias, b.data.length = copy.outputs

instance (copy : Materialized) : DecidablePred copy.Passes
  | .rank => inferInstanceAs (Decidable (_ ∨ _))
  | .kind => inferInstanceAs (Decidable (_ = _))
  | .weights => inferInstanceAs (Decidable (∀ x ∈ copy.weights.data, x.isFinite))
  | .bias => inferInstanceAs (Decidable (∀ b ∈ copy.bias, ∀ x ∈ b.data, x.isFinite))
  | .units => inferInstanceAs (Decidable (∀ n ∈ copy.weights.dims, n ≠ 0))
  | .biasCount => inferInstanceAs (Decidable (∀ b ∈ copy.bias, b.data.length = copy.outputs))

/-- What is said of a copy that fails the check. -/
def faultOf (copy : Materialized) : Check → Fault
  | .rank => .shape (.rank copy.name.shown copy.weights.dims)
  | .kind => .unsupportedKind copy.name.shown copy.kind
  | .weights => .nonFinite (.weights copy.name.shown)
  | .bias => .nonFinite (.bias copy.name.shown)
  | .units => .shape (.units copy.name.shown (toString copy.inputs) (toString copy.outputs))
  | .biasCount =>
    .shape (.biasCount copy.name.shown ((copy.bias.map (·.data)).getD []).length copy.outputs)

/-- The copy passes all checks. -/
def IsSound (copy : Materialized) : Prop := ∀ check, copy.Passes check

/-- The layer of a copy: its name, its counts and its scalars, those of the weights row by row with
    a row for each input. -/
structure Makes (copy : Materialized) (layer : Layer) : Prop where
  name : layer.name = copy.name
  connects : Connects copy.weights.dims layer.inputs layer.outputs
  weights : layer.weights = copy.weights.data
  entries : ∀ i < layer.inputs, ∀ j < layer.outputs,
    layer.weights[i * layer.outputs + j]? =
      Block.scalarAt? copy.weights.dims copy.weights.data ([i, j].take copy.weights.dims.length)
  bias : layer.bias = copy.bias.map (·.data)

/-! ### One copy -/

/-- What is reported of copies that make no network: that there are none, or the first check that
    the first unsound copy fails. -/
inductive Reports (layers : List Materialized) : Fault → Prop
  | empty (hlayers : layers = []) : Reports layers .emptyModel
  | first {copy : Materialized} {check : Check} (hcopy : IsFirstWithout IsSound layers copy)
    (hcheck : IsFirstWithout copy.Passes Check.all check) : Reports layers (copy.faultOf check)

end Materialized

end DenseSketch
