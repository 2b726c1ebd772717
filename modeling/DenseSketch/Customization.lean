import DenseSketch.Project
import DenseSketch.Document.Display

/-!
# Customized settings

Boards, sensors and transports that differ from a known one in some fields, and settings in which
some options are set.  Each is described by a document that names what is different; a field or an
option that does not exist has no place there.  These are the arguments of the generator (SPEC_FULL,
section 9.1).
-/

namespace DenseSketch

namespace Document

/-- The items of a list as they are shown, or the characters of a text. -/
def shownItemsOf : Document → List String
  | .list items => items.map shown
  | .text s => s.toList.map fun c => String.ofList [c]
  | _ => []

/-- The members that a description names: null and what else is empty names none. -/
def namedMembers (d : Document) : Except Fault (List (String × Document)) :=
  match d with
  | .record members => .ok members
  | d => if d.isTruthy then .error .wrongType else .ok []

def checkRecord : Document → Except Fault Unit
  | .record _ => .ok ()
  | _ => .error .noSuchMember

end Document

/-! ### Boards -/

def Capabilities.librariesOf : Document → Except Fault (List (String × List Document))
  | .record members => members.mapM fun m => do return (m.1, ← m.2.items?)
  | _ => .error .noSuchMember

def Capabilities.replace (caps : Capabilities) (key : String) (value : Document) :
    Except Fault Capabilities :=
  match key with
  | "flash_qualifier" => .ok { caps with flashQualifier := value }
  | "flash_read_macro" => .ok { caps with flashReader := value }
  | "first_pwm_pin" => .ok { caps with firstPwmPin := value }
  | "pwm_pin_count" => .ok { caps with pwmPinCount := value }
  | "flash_bytes" => .ok { caps with flashBytes := value }
  | "ram_bytes" => .ok { caps with ramBytes := value }
  | "sensor_libraries" => do
    return { caps with sensorLibraries := ← librariesOf value }
  | "transport_header" => .ok { caps with transportHeader := value }
  | "transport_library" => .ok { caps with transportLibrary := value }
  | _ => .error .wrongType

def Board.customized (d : Document) : Except Fault Board := do
  d.checkRecord
  let base ← Board.ofDocument ((d.member? "base").getD (.text Board.defaultName))
  let changes ← ((d.member? "capabilities").getD .null).namedMembers
  let caps ← changes.foldlM (fun caps m => caps.replace m.1 m.2) base.capabilities
  return {
    name := (d.member? "name").getD base.name
    displayName := (d.member? "display_name").getD base.displayName
    qualifiedName := (d.member? "fqbn").getD base.qualifiedName
    capabilities := caps }

/-! ### Sensors -/

/-- A sensor with one field replaced; its normalization is not shown anywhere. -/
def Sensor.replace (s : Sensor) (key : String) (value : Document) : Except Fault Sensor :=
  match key with
  | "name" => .ok { s with name := value }
  | "display_name" => .ok { s with displayName := value }
  | "family" => .ok { s with family := value }
  | "channels" => .ok { s with channels := value }
  | "begin_call" => .ok { s with beginCall := value }
  | "ready_condition" => .ok { s with readyCondition := value }
  | "raw_declaration" => .ok { s with rawDeclaration := value }
  | "read_statements" => .ok { s with readStatements := value }
  | "channel_expressions" => .ok { s with channelExpressions := value }
  | "normalization_summary" => .ok { s with normalizationSummary := value }
  | "normalize" => .ok s
  | _ => .error .wrongType

def Sensor.customized (d : Document) : Except Fault Sensor := do
  d.checkRecord
  let base ← Sensor.ofDocument ((d.member? "base").getD (.text Sensor.defaultName))
  let changes ← ((d.member? "fields").getD .null).namedMembers
  changes.foldlM (fun s m => s.replace m.1 m.2) base

/-! ### Transports -/

def Transport.replace (t : Transport) (key : String) (value : Document) :
    Except Fault Transport :=
  match key with
  | "service_uuid" => .ok { t with serviceUuid := value }
  | "tx_uuid" => .ok { t with txUuid := value }
  | "rx_uuid" => .ok { t with rxUuid := value }
  | "device_name" => .ok { t with deviceName := value }
  | "tx_capacity" => .ok { t with txCapacity := value }
  | "rx_capacity" => .ok { t with rxCapacity := value }
  | _ => .error .wrongType

/-- The transport that a document describes: that of a variant with overrides, of which null changes
    nothing, or the usual one with fields replaced. -/
def Transport.customized (d : Document) : Except Fault Transport := do
  d.checkRecord
  match d.member? "for_variant" with
  | some variant =>
    let base := Transport.forVariant (← Variant.ofDocument variant)
    let overrides ← ((d.member? "overrides").getD .null).namedMembers
    (overrides.filter fun m => !m.2.isNull).foldlM (fun t m => t.replace m.1 m.2) base
  | none =>
    let fields ← ((d.member? "fields").getD .null).namedMembers
    fields.foldlM (fun t m => t.replace m.1 m.2) Transport.standard

/-! ### Settings -/

namespace Settings

/-- Settings with one plain option set.  Board, sensor and transport are described apart. -/
def replace (s : Settings) (key : String) (value : Document) : Except Fault Settings :=
  match key with
  | "target" | "sensor" | "transport" => .ok s
  | "target_name" => .ok { s with boardName := value }
  | "sensor_name" => .ok { s with sensorName := value }
  | "sample_interval_ms" => .ok { s with sampleInterval := value }
  | "prediction_interval_ms" => .ok { s with predictionInterval := value }
  | "baud_rate" => .ok { s with baudRate := value }
  | "generated_at" => .ok { s with generatedAt := value }
  | "output_dir" =>
    match value with
    | .null => .ok { s with outputDirectory := none }
    | .text path => .ok { s with outputDirectory := some path }
    | _ => .error .wrongType
  | "verbose" => .ok { s with verbose := value.isTruthy }
  | _ => .error .wrongType

/-- Settings with the board, the sensor and the transport that a document describes. -/
def withParts (s : Settings) (d : Document) : Except Fault Settings := do
  let board ← (d.given? "target").mapM Board.customized
  let sensor ← (d.given? "sensor").mapM Sensor.customized
  let transport ← (d.given? "transport").mapM Transport.customized
  return { s with board := board, sensor := sensor, transport := transport }

def withOptions (s : Settings) (d : Document) : Except Fault Settings :=
  d.entries.foldlM (fun s m => s.replace m.1 m.2) s

end Settings

end DenseSketch
