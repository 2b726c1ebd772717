import DenseSketch.Message.Label
import DenseSketch.Network.Metadata
import DenseSketch.Number.FixedPlaces

/-!
# Prediction messages

One line reports one prediction: a class and its confidence in percent with two places, or the tag
and every value, moved into the unit interval, with three places.  This is the grammar of the
Protocol Framer (SPEC_FULL, section 4.3).
-/

namespace DenseSketch.Message

/-- Confidences have two places; a half goes to the even neighbour. -/
def confidenceStyle : FixedStyle := ⟨2, .toEven, true⟩

/-- Regression values have three places; a half goes to the even neighbour. -/
def valueStyle : FixedStyle := ⟨3, .toEven, true⟩

def hundred : Datum := Format.binary64.ofInt 100

def frameClassification (label : String) (probability : Datum) : String :=
  let confidence := confidenceStyle.text (Format.binary64.mul probability hundred)
  label ++ "," ++ String.ofList confidence ++ "\n"

def valueField (value : Datum) : String :=
  String.ofList (valueStyle.text value.clampUnit)

def frameRegression (values : List Datum) : Except Fault String :=
  if values.isEmpty then .error (.vector .emptyRegression)
  else .ok (",".intercalate (regressionTag :: values.map valueField) ++ "\n")

/-- The bytes of the longest message: a label with `,100.00` and the line end, or the tag with
    `,1.000` for each output and the line end. -/
def maxLength (m : Metadata) : Except Fault Nat :=
  match m.variant with
  | .classification =>
    if !m.labels.all Text.isEncodable then .error .unencodable
    else
      match (m.labels.map String.utf8ByteSize).max? with
      | some longest => .ok (longest + 8)
      | none => .error .badValue
  | .regression => .ok (m.outputCount * 6 + 2)

def exampleProbability : Datum := Format.binary64.nearest false 925 1000

/-- A message as a network with this metadata sends it. -/
def exampleMessage (m : Metadata) : Except Fault String :=
  match m.variant with
  | .classification =>
    match m.labels with
    | label :: _ => .ok (frameClassification label exampleProbability)
    | [] => .error .outOfBounds
  | .regression => frameRegression (List.replicate m.outputCount (.finite false 1 (-1)))

end DenseSketch.Message
