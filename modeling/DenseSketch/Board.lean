import DenseSketch.Document.Mapping
import DenseSketch.Variant

/-!
# Boards

A board is known by what a sketch relies on: how flash is declared and read, which pins can dim an
output, and which libraries drive its sensors and its radio.  These are plain values, usually texts
and whole numbers; whatever they are, a sketch shows them.  The registered boards are those of
SPEC_FULL, section 9.1.
-/

namespace DenseSketch

structure Capabilities where
  flashQualifier : Document
  flashReader : Document
  firstPwmPin : Document
  pwmPinCount : Document
  flashBytes : Document
  ramBytes : Document
  /-- For each sensor family what drives it: a header, and a library. -/
  sensorLibraries : List (String × List Document)
  transportHeader : Document
  transportLibrary : Document

structure Board where
  name : Document
  displayName : Document
  /-- The fully qualified name by which the development tools know the board. -/
  qualifiedName : Document
  capabilities : Capabilities

inductive FamilyKey where
  | named (name : String)
  /-- No text, so that no library is filed under it; how it is shown. -/
  | unnamed (shown : String)
  /-- Nothing that can be looked up. -/
  | unusable
  deriving DecidableEq, Repr

def Document.familyKey : Document → FamilyKey
  | .text name => .named name
  | d => if d.isKey then .unnamed d.shown else .unusable

/-- The pins of `count` outputs, one after the other. -/
def outputPins (count first : Document) : Except Fault (List Document) := do
  if ← count.isNegative then throw (.board (.negativeOutputs count.shown))
  let n ← count.wholeNumber
  (List.range n.toNat).mapM fun (i : Nat) => do
    return (← (← first.quantity).add (.whole i)).toDocument

namespace Board

/-- What both boards offer beside their sensors. -/
def nanoCapabilities (sensorLibraries : List (String × List Document)) : Capabilities where
  flashQualifier := .text "PROGMEM"
  flashReader := .text "pgm_read_float_near"
  firstPwmPin := .integer 2
  pwmPinCount := .integer 12
  flashBytes := .integer (1024 * 1024)
  ramBytes := .integer (256 * 1024)
  sensorLibraries := sensorLibraries
  transportHeader := .text "ArduinoBLE.h"
  transportLibrary := .text "ArduinoBLE"

def colorLibrary : List Document := [.text "Arduino_APDS9960.h", .text "Arduino_APDS9960"]

def nano33ble : Board where
  name := .text "nano33ble"
  displayName := .text "Arduino Nano 33 BLE Sense"
  qualifiedName := .text "arduino:mbed_nano:nano33ble"
  capabilities := nanoCapabilities
    [("imu", [.text "Arduino_LSM9DS1.h", .text "Arduino_LSM9DS1"]), ("color", colorLibrary)]

/-- The second revision: the same processor and pins, another motion sensor. -/
def nano33bleRev2 : Board where
  name := .text "nano33ble_rev2"
  displayName := .text "Arduino Nano 33 BLE Sense Rev2"
  qualifiedName := .text "arduino:mbed_nano:nano33ble"
  capabilities := nanoCapabilities
    [("imu", [.text "Arduino_BMI270_BMM150.h", .text "Arduino_BMI270_BMM150"]),
      ("color", colorLibrary)]

def registry : List (String × Board) :=
  [("nano33ble", nano33ble), ("nano33ble_rev2", nano33bleRev2)]

def names : List String := registry.map (·.1)

def defaultName : String := "nano33ble"

def ofDocument (d : Document) : Except Fault Board := do
  let name ← canonicalName d
  match lookup? name registry with
  | some board => return board
  | none => throw (.setting (.board d.shown names))

def missing (board : Board) : List String :=
  let caps := board.capabilities
  (if caps.flashReader.isNull then ["capabilities.flash_read_macro"] else []) ++
    (if caps.firstPwmPin.isNull then ["capabilities.first_pwm_pin"] else []) ++
    (if caps.pwmPinCount.isNull then ["capabilities.pwm_pin_count"] else [])

def check (board : Board) : Except Fault Unit :=
  if board.missing.isEmpty then .ok ()
  else .error (.board (.missingCapabilities board.name.shown board.missing))

/-- The qualifier of flash tables; an empty text where the board has none. -/
def flashQualifier (board : Board) : Document :=
  let qualifier := board.capabilities.flashQualifier
  if qualifier.isTruthy then qualifier else .text ""

def families (board : Board) : List String :=
  (board.capabilities.sensorLibraries.map (·.1)).mergeSort fun a b => decide (a ≤ b)

def sensorLibrary (board : Board) (family : FamilyKey) : Except Fault (List Document) :=
  let refuse (shown : String) :=
    .error (.board (.noSensor board.name.shown shown board.families))
  match family with
  | .unusable => .error .wrongType
  | .unnamed shown => refuse shown
  | .named name => (lookup? name board.capabilities.sensorLibraries).elim (refuse name) .ok

def supports (board : Board) (family : FamilyKey) : Except Fault Bool :=
  match family with
  | .unusable => .error .wrongType
  | .unnamed _ => .ok false
  | .named name => .ok (lookup? name board.capabilities.sensorLibraries).isSome

/-- The pins of `count` dimmed outputs, from the first such pin on. -/
def pwmPins (board : Board) (count : Document) : Except Fault (List Document) := do
  let offered := board.capabilities.pwmPinCount
  if ← offered.isBelow count then
    throw (.board (.pins board.name.shown offered.shown count.shown))
  outputPins count board.capabilities.firstPwmPin

def requiredLibraries (board : Board) (family : FamilyKey) : Except Fault (List Document) := do
  match ← board.sensorLibrary family with
  | [_, library] => return [library, board.capabilities.transportLibrary]
  | _ => throw .badValue

end Board

end DenseSketch
