import DenseSketch.CommandLine.Options
import DenseSketch.Pipeline

/-!
# Generating from the command line

What a program finds around it and how it ends, and the smaller one of two programs: it turns a
snapshot into a sketch and leaves every fault to its caller.
-/

namespace DenseSketch.CommandLine

/-! ### Surroundings -/

/-- What a program finds around it. -/
structure Surroundings where
  workingDirectory : String
  /-- Where snapshots are exported to; empty if they are not. -/
  snapshotDirectory : String
  /-- The time that saved snapshots carry. -/
  createdAt : String
  /-- The time that is reported for each stage. -/
  elapsed : String

inductive Ending where
  | success
  /-- The input is refused. -/
  | failure
  /-- The command line is. -/
  | misuse
  deriving DecidableEq, Repr

def Ending.code : Ending → Nat
  | .success => 0
  | .failure => 1
  | .misuse => 2

def defaultOutput : String := "generated"

def Surroundings.settings (around : Surroundings) : Settings :=
  { verbose := true
    snapshotDirectory := around.snapshotDirectory
    createdAt := around.createdAt
    elapsed := around.elapsed }

/-! ### The program -/

def generateGrammar : Grammar where
  rules :=
    [⟨"-h", .help⟩, ⟨"--help", .help⟩, ⟨"--snapshot", .text⟩, ⟨"--output", .text⟩,
      ⟨"--target", .oneOf Board.names⟩, ⟨"--sensor", .oneOf Sensor.names⟩]
  alternatives := ["--snapshot"]

def generateGiven (around : Surroundings) (given : Given) : Work Ending := do
  let location ← Job.ofExcept (Location.ofDocument (given.latestOr "--snapshot" .null))
  let (net, m) ← Job.ofExcept (Snapshot.load location (← get).tree)
  let settings :=
    { around.settings with
      boardName := given.latestOr "--target" (.text Board.defaultName)
      sensorName := given.latestOr "--sensor" (.text Sensor.defaultName) }
  let p ← Job.ofExcept (Project.create net m settings)
  discard (p.writeAll (given.latestOr "--output" (.text defaultOutput)))
  return .success

/-- The program: reads the command line and generates what it names. -/
def generate (around : Surroundings) (arguments : List String) : Work Ending :=
  match generateGrammar.read arguments with
  | .error .help => return .success
  | .error .misuse => return .misuse
  | .ok given => generateGiven around given

end DenseSketch.CommandLine
