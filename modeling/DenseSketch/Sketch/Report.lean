import DenseSketch.Draft
import DenseSketch.Sketch.Code

/-!
# Reporting predictions

How a sketch turns outputs into a message: a classifier looks for the first largest probability, a
regressor drives one pin for each value.  The grammar is that of SPEC_FULL, section 4.3, the pins
and their duty cycles are those of section 4.2.
-/

namespace DenseSketch.Sketch

open Code

def messageBuffer : Code := line "char message[TX_CAPACITY + 1];"

def sendStatements : Code := ofTexts ["Serial.print(message);", "sendMessage(message);"]

def classReport : Code :=
  line "// Report the most probable class; ties go to the lowest index" ++
    block "void reportPrediction(float* probs)"
      (ofTexts ["int pred = 0;", "float maxConf = probs[0];"] ++
        block "for (int i = 1; i < NUM_OUTPUTS; i++)"
          (block "if (probs[i] > maxConf)"
            (ofTexts ["maxConf = probs[i];", "pred = i;"]) "") "" ++
        blank ++
        messageBuffer ++
        line ("snprintf(message, sizeof(message), \"%s,%.2f\\n\", OUTPUT_LABELS[pred], " ++
          "maxConf * 100.0f);") ++
        blank ++
        sendStatements) ""

def dutyFunction : Code :=
  line "// Duty cycle for a value in [0, 1]: round(clamp(value, 0, 1) * 255)" ++
    block "int pwmDuty(float value)"
      (line "return (int)lroundf(constrain(value, 0.0f, 1.0f) * 255.0f);") ""

def valueReport : Code :=
  dutyFunction ++
    blank ++
    line "// Drive one PWM pin per output and report every value" ++
    block "void reportPrediction(float* values)"
      (messageBuffer ++
        line "int len = snprintf(message, sizeof(message), \"R\");" ++
        block "for (int i = 0; i < NUM_OUTPUTS; i++)"
          (ofTexts
            ["float value = constrain(values[i], 0.0f, 1.0f);",
              "analogWrite(OUTPUT_PINS[i], pwmDuty(value));",
              "len += snprintf(message + len, sizeof(message) - len, \",%.3f\", value);"]) "" ++
        line "snprintf(message + len, sizeof(message) - len, \"\\n\");" ++
        blank ++
        sendStatements) ""

def pinDeclaration (pins : List Document) : Code :=
  line "// PWM output pins, one per output" ++
    line ("const int OUTPUT_PINS[NUM_OUTPUTS] = \x7b" ++ commaSeparated (pins.map Document.shown) ++
      "\x7d;")

def classAnnouncement (deviceName : String) : Code :=
  ofTexts
      [s!"Serial.println(\"Classifier ready - device: {deviceName}\");",
        "Serial.print(\"Classes: \");"] ++
    block "for (int i = 0; i < NUM_OUTPUTS; i++)"
      (ofTexts
        ["Serial.print(OUTPUT_LABELS[i]);",
          "if (i < NUM_OUTPUTS - 1) Serial.print(\", \");"]) "" ++
    line "Serial.println();"

def valueAnnouncement (deviceName : String) : Code :=
  ofTexts
    [s!"Serial.println(\"Regressor ready - device: {deviceName}\");",
      "Serial.print(\"Outputs: \");",
      "Serial.println(NUM_OUTPUTS);"]

/-- A regressor switches its pins off before the radio starts. -/
def pinSetup : Code :=
  block "for (int i = 0; i < NUM_OUTPUTS; i++)"
    (ofTexts ["pinMode(OUTPUT_PINS[i], OUTPUT);", "analogWrite(OUTPUT_PINS[i], 0);"]) "" ++
    blank

end DenseSketch.Sketch
