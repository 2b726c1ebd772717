import DenseSketch.Plan
import DenseSketch.Sketch.Code

/-!
# The forward pass of a sketch

The steps of a plan as loops: a dense step sums up weighted values for each output, a softmax step
changes a buffer in place.  The loops are those of SPEC_FULL, section 4.2.
-/

namespace DenseSketch.Sketch

open Code

def loopOver (index symbol : String) (body : Code) : Code :=
  block s!"for (int {index} = 0; {index} < {symbol}; {index}++)" body ""

/-- The start of a sum: the bias, or zero where the layer has none. -/
def sumStart (step : DenseStep) : String :=
  match step.biasTable with
  | some table => s!"float sum = {step.flashReader.shown}(&{table}[i]);"
  | none => "float sum = 0.0f;"

def denseCode (step : DenseStep) : Code :=
  blank ++
    line ("// Layer " ++ toString step.index ++ ": " ++ step.name.shown ++ " (" ++
      toString step.inUnits ++ " -> " ++ toString step.outUnits ++ ", " ++
      step.activation.name ++ ")") ++
    line s!"float {step.outputBuffer}[{step.outSymbol}];" ++
    loopOver "i" step.outSymbol
      (line (sumStart step) ++
        loopOver "j" step.inSymbol
          (line ("sum += " ++ step.inputBuffer ++ "[j] * " ++ step.flashReader.shown ++ "(&" ++
            step.weightTable ++ "[j * " ++ step.outSymbol ++ " + i]);")) ++
        line s!"{step.outputBuffer}[i] = {step.activation.expression};")

def softmaxCode (step : SoftmaxStep) : Code :=
  let b := step.buffer
  let n := step.sizeSymbol
  blank ++
    ofTexts
      [s!"// Softmax over {n} logits, maximum subtracted first", s!"float maxLogit = {b}[0];"] ++
    block s!"for (int i = 1; i < {n}; i++)"
      (line s!"if ({b}[i] > maxLogit) maxLogit = {b}[i];") "" ++
    line "float sumExp = 0.0f;" ++
    loopOver "i" n
      (ofTexts [s!"{b}[i] = expf({b}[i] - maxLogit);", s!"sumExp += {b}[i];"]) ++
    loopOver "i" n (line s!"{b}[i] /= sumExp;")

def stepCode : Step → Code
  | .dense step => denseCode step
  | .softmax step => softmaxCode step

def forwardPass (steps : List Step) : Code :=
  block "void predict()"
    (line s!"const float* {Plan.inputBuffer} = sampleBuffer;" ++
      steps.flatMap stepCode ++
      blank ++
      line s!"reportPrediction({Plan.outputBuffer});") ""

end DenseSketch.Sketch
