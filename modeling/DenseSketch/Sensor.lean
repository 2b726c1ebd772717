import DenseSketch.Board
import DenseSketch.Tensor

/-!
# Sensors

A sensor profile says how a sketch reads one frame, one value for each channel, and how the raw
values are brought into the range of the network, both as expressions of the sketch and as a
function on tensors.  The registered profiles are those of SPEC_FULL, section 9.1.
-/

namespace DenseSketch

inductive Normalization where
  /-- Every value is clipped to [-4, 4] and divided by 4. -/
  | motion
  /-- Four colour values are scaled to [0, 1], and a proximity is turned round. -/
  | color
  deriving DecidableEq, Repr

/-- What a sketch needs to know of a sensor.  The values are usually texts and lists of texts;
    whatever they are, a sketch shows them. -/
structure Sensor where
  name : Document
  displayName : Document
  family : Document
  channels : Document
  beginCall : Document
  readyCondition : Document
  rawDeclaration : Document
  readStatements : Document
  channelExpressions : Document
  normalizationSummary : Document
  normalization : Normalization

namespace Sensor

def frameSize (sensor : Sensor) : Except Fault Nat := sensor.channels.length

/-- The whole frames in a window; a sensor without channels has none to count. -/
def framesIn (sensor : Sensor) (window : Document) : Except Fault Document := do
  let size ← sensor.frameSize
  return (← (← window.quantity).floorQuotient (.whole size)).toDocument

/-- How a field of a sensor is shown: a list in parentheses. -/
def shownField : Document → String
  | .list items => tupleText (Document.literalItems items)
  | d => d.shown

def familyKey (sensor : Sensor) : FamilyKey :=
  match sensor.family with
  | .list items =>
    if items.all Document.isKey then .unnamed (shownField sensor.family) else .unusable
  | d => d.familyKey

def motionChannels : List String := ["ax", "ay", "az", "gx", "gy", "gz", "mx", "my", "mz"]

def imu : Sensor where
  name := .text "imu"
  displayName := .text "9-axis IMU (accelerometer, gyroscope, magnetometer)"
  family := .text "imu"
  channels := .ofTexts motionChannels
  beginCall := .text "IMU.begin()"
  readyCondition := .text
    "IMU.accelerationAvailable() && IMU.gyroscopeAvailable() && IMU.magneticFieldAvailable()"
  rawDeclaration := .text ("float " ++ commaSeparated motionChannels ++ ";")
  readStatements := .ofTexts
    ["IMU.readAcceleration(ax, ay, az);", "IMU.readGyroscope(gx, gy, gz);",
      "IMU.readMagneticField(mx, my, mz);"]
  channelExpressions := .ofTexts
    (motionChannels.map fun c => s!"constrain({c}, -4.0f, 4.0f) / 4.0f")
  normalizationSummary := .text "each axis clipped to [-4, 4] and divided by 4, giving [-1, 1]"
  normalization := .motion

def color : Sensor where
  name := .text "color"
  displayName := .text "APDS9960 color and proximity sensor"
  family := .text "color"
  channels := .ofTexts ["r", "g", "b", "c", "p"]
  beginCall := .text "APDS.begin()"
  readyCondition := .text "APDS.colorAvailable() && APDS.proximityAvailable()"
  rawDeclaration := .text "int r, g, b, c, p;"
  readStatements := .ofTexts ["APDS.readColor(r, g, b, c);", "p = APDS.readProximity();"]
  channelExpressions := .ofTexts
    ((["r", "g", "b", "c"].map fun c => s!"constrain({c}, 0, 4097) / 4097.0f") ++
      ["1.0f - constrain(p, 0, 255) / 255.0f"])
  normalizationSummary := .text
    ("red, green, blue and clear scaled from [0, 4097] to [0, 1]; " ++
      "proximity inverted so that 1 means touching")
  normalization := .color

def registry : List (String × Sensor) := [("color", color), ("imu", imu)]

def names : List String := registry.map (·.1)

def defaultName : String := "imu"

def ofDocument (d : Document) : Except Fault Sensor := do
  let name ← canonicalName d
  match lookup? name registry with
  | some sensor => return sensor
  | none => throw (.setting (.sensor d.shown names))

end Sensor

/-! ### Normalization -/

namespace Normalization

def whole (n : Nat) : Datum := Format.binary32.ofInt n

/-- A value clipped to `[low, high]` and divided by `high`. -/
def scaled (low high x : Datum) : Datum :=
  Format.binary32.div (Datum.clip low high x) high

def motionValue (x : Datum) : Datum := scaled (whole 4).neg (whole 4) x

def colorValue (x : Datum) : Datum := scaled .zero (whole 4097) x

/-- A proximity value: the nearer, the larger. -/
def proximityValue (x : Datum) : Datum :=
  Format.binary32.sub .one (scaled .zero (whole 255) x)

/-- Colour values of a frame.  A single value could be spread over four places, but only a vector
    with a fifth value has a proximity. -/
def colorFrame (frame : Tensor) : Except Fault Tensor :=
  match frame.dims with
  | [] => .error .outOfBounds
  | [_] =>
    match frame.data with
    | r :: g :: b :: c :: p :: _ =>
      .ok (.vector [colorValue r, colorValue g, colorValue b, colorValue c, proximityValue p])
    | [_] | [_, _, _, _] => .error .outOfBounds
    | _ => .error .badValue
  | dims =>
    let last := dims.getLast?.getD 0
    if dims.dropLast.all (· == 1) && (last == 1 || last == 4) then .error .outOfBounds
    else .error .badValue

def apply : Normalization → Tensor → Except Fault Tensor
  | .motion, frame => .ok ⟨frame.dims, frame.data.map motionValue⟩
  | .color, frame => colorFrame frame

end Normalization

end DenseSketch
