import DenseSketch.Number.FixedPlaces
import DenseSketch.Document.Arithmetic
import DenseSketch.Network.Basic
import DenseSketch.Variant
import DenseSketch.Text.Basic

/-!
# Flash tables

Each layer has a table of weights and, if it has a bias, a table of biases.  A table is a
declaration with its literals in rows of fixed length, a comma after every literal but the last.

A literal is a decimal with six places and a suffix.  The exact binary value is rounded with halves
away from zero, and zero never carries a sign.  This is the Weight Serializer (SPEC_FULL, section
4.4).
-/

namespace DenseSketch.Table

/-! ### Float literals -/

def literalStyle : FixedStyle := ⟨6, .awayFromZero, false⟩

def literal (x : Datum) : Except Fault String :=
  if x.isFinite then .ok (String.ofList (literalStyle.text x ++ ['f']))
  else .error (.nonFinite (.value x))

/-! ### Tables -/

inductive Role where
  | weights
  | bias
  deriving DecidableEq, Repr

def Role.ofName (name : String) : Except Fault Role :=
  if name == "weights" then .ok .weights
  else if name == "bias" then .ok .bias
  else .error (.setting (.tableRole name))

def suffixedName (suffix : String) : Role → String
  | .weights => "weights_dense_" ++ suffix
  | .bias => "bias_dense_" ++ suffix

/-- The name of the table of a layer: the layer's number is the suffix. -/
def tableName (index : Nat) (role : Role) : String :=
  suffixedName (toString index) role

def valuesPerLine : Variant → Nat
  | .classification => 10
  | .regression => 8

/-- The rows of literals as lines: every line but the last ends with a comma. -/
def rowLines : List (List String) → List String
  | [] => []
  | [row] => ["  " ++ commaSeparated row]
  | row :: rest => ("  " ++ commaSeparated row ++ ",") :: rowLines rest

/-- Literals as the lines between the braces of a table.  The number of literals a line is checked
    first; that it is a whole number only matters behind the literals. -/
def layout (perLine : Document) (literals : Except Fault (List String)) :
    Except Fault (List String) := do
  if ← perLine.isNotPositive then throw (.setting (.valuesPerLine perLine.shown))
  let literals ← literals
  let width ← perLine.wholeNumber
  return rowLines (Text.chunks width.toNat literals)

def bodyLines (values : List Datum) (perLine : Document) : Except Fault (List String) :=
  layout perLine (values.mapM literal)

/-- The lines around the body of a declaration; an empty qualifier is left out. -/
def tableLines (name : String) (body : Except Fault (List String)) (qualifier : Document) :
    Except Fault (List String) := do
  let shownQualifier := if qualifier.isTruthy then " " ++ qualifier.shown else ""
  return ["const float " ++ name ++ "[]" ++ shownQualifier ++ " = \x7b"] ++ (← body) ++ ["\x7d;"]

def layerComment (suffix : String) (layer : Layer) : String :=
  s!"// Layer {suffix}: {layer.name.shown} ({layer.inputs} -> {layer.outputs})"

def layerLines (suffix : String) (layer : Layer) (perLine qualifier : Document) :
    Except Fault (List String) := do
  let table (role : Role) (values : List Datum) :=
    tableLines (suffixedName suffix role) (bodyLines values perLine) qualifier
  let weights ← table .weights layer.weights
  match layer.bias with
  | none => return layerComment suffix layer :: weights
  | some bias =>
    let bias ← table .bias bias
    return layerComment suffix layer :: weights ++ "" :: bias

/-- The tables of layers numbered from `index` on, an empty line between two layers. -/
def layersLines (perLine qualifier : Document) (index : Nat) :
    List Layer → Except Fault (List String)
  | [] => .ok []
  | [layer] => layerLines (toString index) layer perLine qualifier
  | layer :: rest => do
    let here ← layerLines (toString index) layer perLine qualifier
    let more ← layersLines perLine qualifier (index + 1) rest
    return here ++ "" :: more

def networkLines (net : Network) (perLine qualifier : Document) :
    Except Fault (List String) :=
  layersLines perLine qualifier 0 net.layers

/-- The flash bytes of all tables: four for each value. -/
def sizeInBytes (net : Network) : Nat := 4 * net.parameterCount

end DenseSketch.Table
