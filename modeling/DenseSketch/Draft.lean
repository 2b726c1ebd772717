import DenseSketch.Plan
import DenseSketch.Project

/-!
# Drafts

What the stages of a compilation have worked out so far: the plan, the pins of the outputs and the
size of the tables.  The files are rendered from a project and a draft.  It belongs to the Artifact
Assembler (SPEC_FULL, section 4.5).
-/

namespace DenseSketch

/-- Results of the stages; empty and zero before they have run. -/
structure Draft where
  steps : List Step := []
  unitDefines : List (String × Nat) := []
  pins : List Document := []
  tableBytes : Nat := 0

namespace Project

def plan (p : Project) : Except Fault Plan :=
  Plan.ofNetwork p.network p.metadata.variant p.flashReader

/-- The pins of the outputs; a classifier drives none. -/
def pins (p : Project) : Except Fault (List Document) :=
  match p.metadata.variant with
  | .classification => .ok []
  | .regression => p.board.pwmPins (.integer p.metadata.outputCount)

def tables (p : Project) : Except Fault (List String) :=
  Table.networkLines p.network (.integer (Table.valuesPerLine p.metadata.variant))
    p.board.flashQualifier

/-- What all files draw on beside the project and the draft. -/
structure Surroundings where
  title : String
  /-- The header of the sensor's library. -/
  sensorHeader : Document
  /-- The number of frames in a window. -/
  windowFrames : Document
  /-- The number of values in a frame. -/
  frameSize : Nat

/-- Finds what all files draw on, one thing after the other. -/
def surroundings (p : Project) : Except Fault Surroundings := do
  let title ← p.title
  let sensorHeader ← match ← p.board.sensorLibrary p.sensor.familyKey with
    | header :: _ => pure header
    | [] => throw .outOfBounds
  let windowFrames ← p.sensor.framesIn (.integer p.metadata.window)
  return ⟨title, sensorHeader, windowFrames, ← p.sensor.frameSize⟩

/-- What only the sketch draws on: how a frame is read. -/
structure FrameReading where
  channels : List String
  /-- The statements that read the raw values. -/
  statements : List String
  /-- The expressions of the normalized values. -/
  expressions : List String

def frameReading (p : Project) : Except Fault FrameReading := do
  let channels ← p.sensor.channels.texts
  let statements ← p.sensor.readStatements.items?
  let expressions ← p.sensor.channelExpressions.items?
  return ⟨channels, statements.map Document.shown, expressions.map Document.shown⟩

end Project

end DenseSketch
