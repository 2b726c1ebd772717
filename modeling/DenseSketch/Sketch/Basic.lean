import DenseSketch.Sketch.Skeleton
import DenseSketch.Transport
import DenseSketch.Sketch.Sampling
import DenseSketch.Sketch.ForwardPass
import DenseSketch.Sketch.Report

/-!
# Sketches

The whole sketch of a project, by variant.  This is the program of the Forward-Pass Emitter
(SPEC_FULL, section 4.2), put together from its four parts.
-/

namespace DenseSketch.Sketch

open Code

def classifier (p : Project) (d : Draft) (s : Project.Surroundings)
    (reading : Project.FrameReading) : Code :=
  banner p s.title "Classes" "<label>,<confidence> with confidence in percent (two decimals)" ++
    blank ++
    includes p s.sensorHeader ++ blank ++
    prototypes ++ blank ++
    bluetooth p.transport ++ blank ++
    sampling p s reading ++ blank ++
    hooks p ++ blank ++
    setup p [] (classAnnouncement p.transport.deviceName.shown) ++ blank ++
    mainLoop ++ blank ++
    forwardPass d.steps ++ blank ++
    classReport

def regressor (p : Project) (d : Draft) (s : Project.Surroundings)
    (reading : Project.FrameReading) : Code :=
  banner p s.title "Outputs" "R,<v1>,...,<vN> with each value in [0, 1] (three decimals)" ++
    blank ++
    includes p s.sensorHeader ++ blank ++
    prototypes ++ blank ++
    pinDeclaration d.pins ++ blank ++
    bluetooth p.transport ++ blank ++
    sampling p s reading ++ blank ++
    hooks p ++ blank ++
    setup p pinSetup (valueAnnouncement p.transport.deviceName.shown) ++ blank ++
    mainLoop ++ blank ++
    forwardPass d.steps ++ blank ++
    valueReport

end DenseSketch.Sketch

namespace DenseSketch.Project

def sketchCode (p : Project) (d : Draft) : Except Fault Code := do
  let s ← p.surroundings
  let reading ← p.frameReading
  match p.metadata.variant with
  | .classification => return Sketch.classifier p d s reading
  | .regression => return Sketch.regressor p d s reading

def sketch (p : Project) (d : Draft) : Except Fault String :=
  (p.sketchCode d).map Code.render

end DenseSketch.Project
