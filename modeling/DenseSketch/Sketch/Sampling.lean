import DenseSketch.Draft
import DenseSketch.Sketch.Code

/-!
# The sampling part of a sketch

The sliding window of frames, how one frame is read and normalized, and when frames are taken and
predictions made.  The buffer and the two clocks are those of SPEC_FULL, section 4.2.
-/

namespace DenseSketch.Sketch

open Code

def samplingState (p : Project) (s : Project.Surroundings) (channels : List String) : Code :=
  line ("// Sliding input window: " ++ s.windowFrames.shown ++ " frames x " ++
      toString s.frameSize ++ " channels (" ++ commaSeparated channels ++ ")") ++
    ofTexts
      ["const int SAMPLE_SIZE = INPUT_SIZE;",
        s!"const int FRAME_SIZE = {s.frameSize};",
        "const int WINDOW_FRAMES = SAMPLE_SIZE / FRAME_SIZE;",
        "float sampleBuffer[SAMPLE_SIZE];",
        "unsigned long lastSampleTime = 0;",
        s!"const unsigned long SAMPLE_INTERVAL = {p.sampleInterval}; // ms"] ++
    blank ++
    ofTexts
      ["unsigned long lastPrediction = 0;",
        s!"const unsigned long PREDICTION_INTERVAL = {p.predictionInterval}; // ms",
        "bool bufferFilled = false;",
        "int framesCollected = 0;"]

def channelStatements (k : Nat) : List String → Code
  | [] => []
  | expression :: rest => line s!"frame[{k}] = {expression};" ++ channelStatements (k + 1) rest

def readFrame (sensor : Sensor) (reading : Project.FrameReading) : Code :=
  line ("// Read one frame and normalize it: " ++
      Sensor.shownField sensor.normalizationSummary) ++
    block "bool readFrame(float* frame)"
      (line (Sensor.shownField sensor.rawDeclaration) ++
        blank ++
        block s!"if (!({Sensor.shownField sensor.readyCondition}))" (line "return false;") "" ++
        blank ++
        ofTexts reading.statements ++
        blank ++
        channelStatements 0 reading.expressions ++
        line "return true;") ""

def pushFrame : Code :=
  line "// Drop the oldest frame and append the newest one" ++
    block "void pushFrame(const float* frame)"
      (block "for (int i = 0; i < SAMPLE_SIZE - FRAME_SIZE; i++)"
          (line "sampleBuffer[i] = sampleBuffer[i + FRAME_SIZE];") "" ++
        block "for (int k = 0; k < FRAME_SIZE; k++)"
          (line "sampleBuffer[SAMPLE_SIZE - FRAME_SIZE + k] = frame[k];") "" ++
        blank ++
        block "if (!bufferFilled && ++framesCollected >= WINDOW_FRAMES)"
          (ofTexts
            ["bufferFilled = true;",
              "Serial.println(\"Buffer ready - starting predictions\");"]) "") ""

def processContinuous : Code :=
  block "void processContinuous()"
    (line "unsigned long now = millis();" ++
      blank ++
      block "if (now - lastSampleTime >= SAMPLE_INTERVAL)"
        (ofTexts ["lastSampleTime = now;", "float frame[FRAME_SIZE];"] ++
          block "if (readFrame(frame))" (line "pushFrame(frame);") "") "" ++
      blank ++
      block "if (bufferFilled && now - lastPrediction >= PREDICTION_INTERVAL)"
        (ofTexts ["lastPrediction = now;", "predict();"]) "") ""

def sampling (p : Project) (s : Project.Surroundings) (reading : Project.FrameReading) : Code :=
  samplingState p s reading.channels ++ blank ++ readFrame p.sensor reading ++ blank ++
    pushFrame ++ blank ++ processContinuous

end DenseSketch.Sketch
