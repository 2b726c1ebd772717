import DenseSketch.Project

/-!
# Samples

A small classifier of colours: two layers, the first one without a bias.  It is made for a
registered board, and for two whose flash qualifiers are none.  A smaller one has a weight that
is no number, and another one a window of two frames.
-/

namespace DenseSketch

theorem Network.sample_bias_length : ∀ b ∈ (none : Option (List Datum)), b.length = 2 := by
  simp

/-- Two layers that chain. -/
def Network.sample : Network where
  layers := [
    { name := .text "hidden"
      inputs := 5
      outputs := 2
      weights := List.replicate 5 (.finite false 1 (-1)) ++ List.replicate 5 (.finite true 3 (-2))
      bias := none
      inputs_pos := by decide
      outputs_pos := Nat.two_pos
      weights_length := rfl
      bias_length := sample_bias_length },
    { name := .text "output"
      inputs := 2
      outputs := 2
      weights := [.one, .finite true 1 (-3), .zero, .finite false 5 1]
      bias := some [.one, .one]
      inputs_pos := Nat.two_pos
      outputs_pos := Nat.two_pos
      weights_length := rfl
      bias_length := by simp }]
  layers_ne_nil := by simp

/-- One layer with a weight that is no number. -/
def Network.undefined : Network where
  layers := [
    { name := .text "output"
      inputs := 5
      outputs := 2
      weights := List.replicate 9 (.finite false 1 (-1)) ++ [.nan]
      bias := some [.one, .one]
      inputs_pos := by decide
      outputs_pos := Nat.two_pos
      weights_length := rfl
      bias_length := by simp }]
  layers_ne_nil := by simp

/-- Two classes and a window of one frame of colours. -/
def Metadata.sample : Metadata := ⟨["left", "right"], 5, .classification, by decide⟩

/-- The sample for the first board and its colour sensor. -/
def Project.sample : Project where
  network := .sample
  metadata := .sample
  board := Board.nano33ble
  sensor := Sensor.color
  transport := .forVariant .classification
  sampleInterval := 20
  predictionInterval := 100
  baudRate := 115200
  banner := none
  outputDirectory := none
  verbose := false
  snapshotDirectory := ""
  createdAt := ""
  elapsed := ""

/-- One layer for two frames of colours. -/
def Network.twoFrames : Network where
  layers := [
    { name := .text "output"
      inputs := 10
      outputs := 2
      weights := List.replicate 20 (.finite false 1 (-1))
      bias := none
      inputs_pos := by decide
      outputs_pos := Nat.two_pos
      weights_length := rfl
      bias_length := sample_bias_length }]
  layers_ne_nil := by simp

/-- A window of two frames. -/
def Project.twoFrames : Project :=
  { Project.sample with
    network := .twoFrames
    metadata := ⟨["left", "right"], 10, .classification, by decide⟩ }

/-- One raw frame of colours, its values in single precision, and the frame with a value too many. -/
def Document.sampleFrame : Document :=
  .list [.integer 100, .integer 200, .integer 300, .integer 400, .integer 10]

def Datum.sampleFrame : List Datum := [100, 200, 300, 400, 10].map Normalization.whole

def Document.longFrame : Document :=
  .list [.integer 100, .integer 200, .integer 300, .integer 400, .integer 10, .integer 7]

/-- The network with its outputs read as values. -/
def Project.regressor : Project :=
  { Project.sample with
    metadata := ⟨["left", "right"], 5, .regression, by decide⟩
    transport := .forVariant .regression }

/-- The first board with a flash qualifier that gives a table a value and starts another one. -/
def Board.declaring : Board :=
  let capabilities :=
    { nano33ble.capabilities with
      flashQualifier := .text "= \x7b0.0f\x7d; const float other[]" }
  { nano33ble with capabilities := capabilities }

/-- The sample for that board. -/
def Project.declaring : Project := { Project.sample with board := .declaring }

end DenseSketch
