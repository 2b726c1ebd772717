import DenseSketch.Draft
import DenseSketch.Sketch.Code

/-!
# The skeleton of a sketch

The parts that every sketch has: the banner, the included headers, the declarations of the
functions, the hooks, the set-up and the main loop.  The hooks are those of SPEC_FULL, section 4.2.
-/

namespace DenseSketch.Sketch

open Code

def banner (p : Project) (title labelKind message : String) : Code :=
  line s!"// {title}" ++
    (match p.banner with
      | some stamp => line s!"// Generated: {stamp}"
      | none => []) ++
    ofTexts
      [s!"// Board: {p.board.displayName.shown}",
        s!"// Sensor: {Sensor.shownField p.sensor.displayName}",
        s!"// {labelKind}: {commaSeparated p.metadata.labels}",
        s!"// Message: {message}"]

def includes (p : Project) (sensorHeader : Document) : Code :=
  ofTexts
    [s!"#include <{sensorHeader.shown}>",
      s!"#include <{p.board.capabilities.transportHeader.shown}>",
      s!"#include \"{Project.headerName}\""]

def prototypes : Code :=
  ofTexts
    ["void onSensorUnavailable();",
      "void onTransportUnavailable();",
      "void onCommand(const String& command);",
      "void sendMessage(const char* message);",
      "void predict();",
      "void reportPrediction(float* values);"]

def hooks (p : Project) : Code :=
  line "// Called when the sensor fails to start. Replace to recover instead of halting." ++
    block "void onSensorUnavailable()"
      (ofTexts
        ["Serial.println(\"Failed to initialize " ++ Sensor.shownField p.sensor.displayName ++
          "!\");",
          "while (1);"]) "" ++
    blank ++
    line "// Called when BLE fails to start. Replace to run without a transport." ++
    block "void onTransportUnavailable()"
      (ofTexts ["Serial.println(\"Failed to initialize BLE!\");", "while (1);"]) "" ++
    blank ++
    line "// Called with every string written to the RX characteristic." ++
    block "void onCommand(const String& command)"
      (ofTexts ["Serial.print(\"Command: \");", "Serial.println(command);"]) ""

/-- The set-up: `prepare` stands before the radio is started, `announce` at the end. -/
def setup (p : Project) (prepare announce : Code) : Code :=
  block "void setup()"
    (ofTexts
        [s!"Serial.begin({p.baudRate});", "while (!Serial && millis() < 3000);"] ++
      blank ++
      block s!"if (!{Sensor.shownField p.sensor.beginCall})" (line "onSensorUnavailable();") "" ++
      blank ++ prepare ++
      block "if (!beginTransport())" (line "onTransportUnavailable();") "" ++
      blank ++ announce) ""

/-- The main loop samples all the time and serves a connection while there is one. -/
def mainLoop : Code :=
  block "void loop()"
    (line "BLEDevice central = BLE.central();" ++
      blank ++
      block "if (central)"
        (ofTexts
            ["Serial.print(\"Connected to: \");", "Serial.println(central.address());"] ++
          blank ++
          block "while (central.connected())"
            (ofTexts ["pollTransport();", "processContinuous();"]) "" ++
          blank ++
          line "Serial.println(\"Disconnected\");") " else \x7b" ++
      [.code 1 "processContinuous();", .code 0 "\x7d"]) ""

end DenseSketch.Sketch
