import DenseSketch.Draft
import DenseSketch.Message.Frame

/-!
# The description of a sketch

The description tells a user what the network is, how its outputs are reported and how the sketch is
put on the board.  It is the file `README.md` of the Artifact Assembler (SPEC_FULL, section 4.5).
-/

namespace DenseSketch.Readme

structure Row where
  index : Nat
  name : Document
  inUnits : Nat
  outUnits : Nat
  activation : String
  parameters : Nat

def denseSteps (steps : List Step) : List DenseStep :=
  steps.filterMap fun
    | .dense step => some step
    | .softmax _ => none

/-- The buffers that softmax steps normalize in place. -/
def softmaxBuffers (steps : List Step) : List String :=
  steps.filterMap fun
    | .dense _ => none
    | .softmax step => some step.buffer

def rows (net : Network) (steps : List Step) : List Row :=
  (denseSteps steps).zip net.layers |>.map fun (step, layer) =>
    { index := step.index
      name := step.name
      inUnits := step.inUnits
      outUnits := step.outUnits
      activation :=
        if (softmaxBuffers steps).contains step.outputBuffer then "softmax"
        else step.activation.name
      parameters := layer.parameterCount }

def rowLine (r : Row) : String :=
  s!"| {r.index} | {r.name.shown} | {r.inUnits} | {r.outUnits} | {r.activation} | " ++
    s!"{r.parameters} |"

def heading (title : String) : List String :=
  [title, String.ofList (List.replicate title.length '-'), ""]

def summary (p : Project) (s : Project.Surroundings) : List String :=
  [s!"# {s.title}", ""] ++
    (match p.banner with
      | some stamp => [s!"Generated: {stamp}", ""]
      | none => []) ++
    [s!"This package runs a {p.metadata.variant.name} model on the {p.board.displayName.shown}.",
      s!"It samples the {Sensor.shownField p.sensor.displayName} every {p.sampleInterval} ms, " ++
        "keeps the most",
      s!"recent {s.windowFrames.shown} frames in a sliding window and runs a prediction every",
      s!"{p.predictionInterval} ms once the window has been filled.",
      ""]

def files (p : Project) : List String :=
  heading "Files" ++
    [s!"- `{p.sketchName}`: sketch with sampling, forward pass and BLE reporting",
      s!"- `{Project.headerName}`: weight tables (flash resident), layer sizes and output labels",
      s!"- `{Project.readmeName}`: this file",
      ""]

def architecture (p : Project) (d : Draft) (s : Project.Surroundings)
    (channels : List String) : List String :=
  heading "Model architecture" ++
    ["| Layer | Name | Inputs | Outputs | Activation | Parameters |",
      "|-------|------|--------|---------|------------|------------|"] ++
    (rows p.network d.steps).map rowLine ++
    ["",
      s!"- Input: {p.network.inputs} values ({s.windowFrames.shown} frames x {s.frameSize} " ++
        s!"channels: {commaSeparated channels})",
      s!"- Normalization: {Sensor.shownField p.sensor.normalizationSummary}",
      s!"- Total parameters: {p.network.parameterCount} ({d.tableBytes} bytes of flash; " ++
        s!"the board has {p.board.capabilities.flashBytes.shown} bytes of flash and " ++
        s!"{p.board.capabilities.ramBytes.shown} bytes of RAM)",
      ""]

def classLines (index : Nat) : List String → List String
  | [] => []
  | label :: rest => s!"{index}. {label}" :: classLines (index + 1) rest

def pinLine (output : String × Document) : String :=
  s!"- **{output.1}**: pin {output.2.shown} (PWM 0-255)"

def outputs (p : Project) (d : Draft) : List String :=
  match p.metadata.variant with
  | .classification =>
    heading "Classes" ++ classLines 0 p.metadata.labels ++
      ["", "The class with the highest probability is reported; ties go to the class listed first."]
  | .regression =>
    heading "Outputs" ++
      ["Each output is a value in [0, 1] written to a PWM pin as `round(value * 255)`:", ""] ++
      (p.metadata.labels.zip d.pins).map pinLine ++
      ["", "Change the `OUTPUT_PINS` array in the sketch to use other pins."]

def hardware (p : Project) (libraries : List Document) : List String :=
  [""] ++ heading "Hardware and libraries" ++
    [s!"- {p.board.displayName.shown} (`{p.board.qualifiedName.shown}`)"] ++
    libraries.map (fun library => s!"- Arduino library: {library.shown}") ++ [""]

def installation (p : Project) : List String :=
  heading "Installation" ++
    [s!"1. Open `{p.sketchName}` in the Arduino IDE " ++
        s!"(keep `{Project.headerName}` in the same folder)",
      "2. Install the libraries listed above from the Library Manager",
      s!"3. Select the board **{p.board.displayName.shown}**",
      s!"4. Upload; the serial monitor runs at {p.baudRate} baud",
      ""]

def messageForm (form exampleText explanation : String) : List String :=
  ["```", form, "```", "", "Example:", "", "```", exampleText, "```", "", explanation, ""]

def protocol (p : Project) (exampleText : String) : List String :=
  heading "BLE protocol" ++
    [s!"The board advertises as `{p.transport.deviceName.shown}` with a UART-style service:",
      "",
      s!"- Service: `{p.transport.serviceUuid.shown}`",
      s!"- TX (notify, predictions): `{p.transport.txUuid.shown}`",
      s!"- RX (write, commands): `{p.transport.rxUuid.shown}`",
      "",
      "One newline-terminated message is sent after every prediction:",
      ""] ++
    match p.metadata.variant with
    | .classification =>
      messageForm "<label>,<confidence>" exampleText
        "`confidence` is the winning probability in percent with two decimals."
    | .regression =>
      messageForm "R,<v1>,<v2>,...,<vN>" exampleText
        "`R` marks a regression report. Every value has three decimals and lies in [0.000, 1.000]."

def customization : List String :=
  heading "Customization hooks" ++
    ["- `onSensorUnavailable()`: sensor failed to start (halts by default)",
      "- `onTransportUnavailable()`: BLE failed to start (halts by default)",
      "- `onCommand(command)`: called with every string written to the RX characteristic",
      "",
      "To change the prediction rate, edit `PREDICTION_INTERVAL` in the sketch."]

def lines (p : Project) (d : Draft) (s : Project.Surroundings) (channels : List String)
    (libraries : List Document) (exampleText : String) : List String :=
  summary p s ++ files p ++ architecture p d s channels ++ outputs p d ++ hardware p libraries ++
    installation p ++ protocol p exampleText ++ customization

def withoutLineFeeds (message : String) : String :=
  String.ofList ((message.toList.reverse.dropWhile (· == '\n')).reverse)

end DenseSketch.Readme

namespace DenseSketch.Project

def readme (p : Project) (d : Draft) : Except Fault String := do
  let libraries ← p.board.requiredLibraries p.sensor.familyKey
  let message ← Message.exampleMessage p.metadata
  let s ← p.surroundings
  let channels ← p.sensor.channels.texts
  return Text.unlines (Readme.lines p d s channels libraries (Readme.withoutLineFeeds message))

end DenseSketch.Project
