import DenseSketch.Network.Basic
import DenseSketch.Network.Metadata
import DenseSketch.Board
import DenseSketch.Sensor
import DenseSketch.Transport
import DenseSketch.Storage.Location

/-!
# Projects

A project is a network with its metadata and everything a sketch for it has to know: the board, the
sensor, the transport and the intervals.  Settings that contradict each other are refused when the
project is made.  It is the configuration of SPEC_FULL, section 9.1.
-/

namespace DenseSketch

/-- The settings of a project as they are given; null stands for the default. -/
structure Settings where
  board : Option Board := none
  boardName : Document := .null
  sensor : Option Sensor := none
  sensorName : Document := .null
  transport : Option Transport := none
  sampleInterval : Document := .integer 20
  predictionInterval : Document := .integer 100
  baudRate : Document := .integer 115200
  generatedAt : Document := .null
  outputDirectory : Option String := none
  verbose : Bool := false
  snapshotDirectory : String := ""
  /-- The time that a saved snapshot carries. -/
  createdAt : String := ""
  /-- The time that is reported for each stage. -/
  elapsed : String := ""

/-- A network and all that its sketch depends on. -/
structure Project where
  network : Network
  metadata : Metadata
  board : Board
  sensor : Sensor
  transport : Transport
  sampleInterval : Int
  predictionInterval : Int
  baudRate : Int
  /-- The time stamp of the banner, if there is to be one. -/
  banner : Option String
  outputDirectory : Option String
  verbose : Bool
  /-- Where snapshots are exported to; empty if they are not. -/
  snapshotDirectory : String
  createdAt : String
  elapsed : String

namespace Settings

def nameOr (default : String) (name : Document) : Document :=
  if name.isTruthy then name else .text default

/-- The board that is given, named or taken by default. -/
def chosenBoard (s : Settings) : Except Fault Board :=
  match s.board with
  | some board => if s.boardName.isNull then .ok board else .error (.setting .boardTwice)
  | none => Board.ofDocument (nameOr Board.defaultName s.boardName)

def chosenSensor (s : Settings) : Except Fault Sensor :=
  match s.sensor with
  | some sensor => if s.sensorName.isNull then .ok sensor else .error (.setting .sensorTwice)
  | none => Sensor.ofDocument (nameOr Sensor.defaultName s.sensorName)

def stamp (d : Document) : Option String :=
  if d.isTruthy then some d.shown else none

end Settings

namespace Project

def create (network : Network) (metadata : Metadata) (s : Settings) : Except Fault Project := do
  let board ← s.chosenBoard
  board.check
  let sensor ← s.chosenSensor
  if !(← board.supports sensor.familyKey) then
    throw (.board (.unsupportedSensor board.name.shown (Sensor.shownField sensor.family)))
  if ← s.sampleInterval.isNotPositive then throw (.setting .intervals)
  if ← s.predictionInterval.isNotPositive then throw (.setting .intervals)
  return {
    network := network
    metadata := metadata
    board := board
    sensor := sensor
    transport := s.transport.getD (.forVariant metadata.variant)
    sampleInterval := ← s.sampleInterval.toInt
    predictionInterval := ← s.predictionInterval.toInt
    baudRate := ← s.baudRate.toInt
    banner := Settings.stamp s.generatedAt
    outputDirectory := s.outputDirectory
    verbose := s.verbose
    snapshotDirectory := Text.strip s.snapshotDirectory
    createdAt := s.createdAt
    elapsed := s.elapsed }

def sketchName (p : Project) : String :=
  match p.metadata.variant with
  | .classification => "gesture_model.ino"
  | .regression => "regression_model.ino"

def headerName : String := "model_data.h"

def readmeName : String := "README.md"

/-- The macro that reads a float from flash. -/
def flashReader (p : Project) : Document := p.board.capabilities.flashReader

/-- The title of the sketch and of its description; only a sensor with a text for a name has one. -/
def title (p : Project) : Except Fault String :=
  let kind := match p.metadata.variant with
    | .classification => "Classifier"
    | .regression => "Regression Model"
  match p.sensor.name with
  | .text name => .ok s!"BLE {Text.upper name} {kind}"
  | _ => .error .noSuchMember

end Project

end DenseSketch
