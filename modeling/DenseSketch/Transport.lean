import DenseSketch.Sketch.Code
import DenseSketch.Variant

/-!
# Transports

The identifiers and capacities of the serial service over Bluetooth that carries the messages: plain
values that a sketch shows as they are.  Its part of the sketch has one characteristic for messages
to the host and one for commands from it.  The constants are those of SPEC_FULL, section 6.
-/

namespace DenseSketch

structure Transport where
  serviceUuid : Document
  txUuid : Document
  rxUuid : Document
  deviceName : Document
  txCapacity : Document
  rxCapacity : Document

namespace Transport

def standard : Transport where
  serviceUuid := .text "6E400001-B5A3-F393-E0A9-E50E24DCCA9E"
  txUuid := .text "6E400003-B5A3-F393-E0A9-E50E24DCCA9E"
  rxUuid := .text "6E400002-B5A3-F393-E0A9-E50E24DCCA9E"
  deviceName := .text "TinyTrainer"
  txCapacity := .integer 64
  rxCapacity := .integer 20

/-- The service of a variant: its device name, and more room for regression messages. -/
def forVariant : Variant → Transport
  | .classification => { standard with deviceName := .text "GestureRecognizer" }
  | .regression =>
    { standard with deviceName := .text "Nano33BLE-Regression", txCapacity := .integer 128 }

end Transport

namespace Sketch

open Code

/-- The service, its start and its two directions. -/
def bluetooth (t : Transport) : Code :=
  ofTexts
      [s!"// BLE UART service (device: {t.deviceName.shown})",
        s!"const int TX_CAPACITY = {t.txCapacity.shown};",
        s!"const int RX_CAPACITY = {t.rxCapacity.shown};"] ++
    blank ++
    line s!"BLEService uartService(\"{t.serviceUuid.shown}\");" ++
    blank ++
    line "// TX: predictions to the host (notify)" ++
    line ("BLEStringCharacteristic txCharacteristic(\"" ++ t.txUuid.shown ++
      "\", BLERead | BLENotify, TX_CAPACITY);") ++
    blank ++
    line "// RX: commands from the host" ++
    line ("BLEStringCharacteristic rxCharacteristic(\"" ++ t.rxUuid.shown ++
      "\", BLEWrite, RX_CAPACITY);") ++
    blank ++
    block "bool beginTransport()"
      (block "if (!BLE.begin())" (line "return false;") "" ++
        blank ++
        ofTexts
          [s!"BLE.setLocalName(\"{t.deviceName.shown}\");",
            s!"BLE.setDeviceName(\"{t.deviceName.shown}\");",
            "BLE.setAdvertisedService(uartService);"] ++
        blank ++
        ofTexts
          ["uartService.addCharacteristic(txCharacteristic);",
            "uartService.addCharacteristic(rxCharacteristic);",
            "BLE.addService(uartService);"] ++
        blank ++
        ofTexts
          ["txCharacteristic.writeValue(\"\");", "BLE.advertise();", "return true;"]) "" ++
    blank ++
    block "void pollTransport()"
      (block "if (rxCharacteristic.written())"
        (line "onCommand(rxCharacteristic.value());") "") "" ++
    blank ++
    block "void sendMessage(const char* message)"
      (block "if (txCharacteristic.subscribed())"
        (line "txCharacteristic.writeValue(message);") "") ""

end Sketch

end DenseSketch
