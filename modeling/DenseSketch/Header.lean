import DenseSketch.Draft

/-!
# The header with the weights

The header defines the sizes of the network, its output labels and the flash tables.  It is the file
`model_data.h` of the Artifact Assembler (SPEC_FULL, section 4.5).
-/

namespace DenseSketch.Header

def banner (p : Project) (d : Draft) : List String :=
  ["// Model weights and configuration"] ++
    (match p.banner with
      | some stamp => [s!"// Generated: {stamp}"]
      | none => []) ++
    [s!"// Variant: {p.metadata.variant.name}",
      "// Architecture: " ++ p.network.shape,
      s!"// Flash tables: {d.tableBytes} bytes"]

/-- The symbols of the sizes with their values: inputs, hidden layers, outputs. -/
def defines (p : Project) (d : Draft) : List (String × Nat) :=
  (Plan.inputSymbol, p.network.inputs) :: d.unitDefines ++
    [(Plan.outputSymbol, p.metadata.outputCount)]

def defineLine (define : String × Nat) : String := s!"#define {define.1} {define.2}"

def labelLines : List String → List String
  | [] => []
  | [label] => ["  \"" ++ label ++ "\""]
  | label :: rest => ("  \"" ++ label ++ "\",") :: labelLines rest

def labelTable (labels : List String) : List String :=
  ["// Output labels", "const char* OUTPUT_LABELS[NUM_OUTPUTS] = \x7b"] ++ labelLines labels ++
    ["\x7d;"]

def front (p : Project) (d : Draft) : List String :=
  banner p d ++
    ["", "#ifndef MODEL_DATA_H", "#define MODEL_DATA_H", "", "// Model architecture"] ++
    (defines p d).map defineLine ++ [""] ++
    labelTable p.metadata.labels ++ [""]

def text (p : Project) (d : Draft) (tables : String) : String :=
  Text.unlines (front p d) ++ tables ++ Text.unlines ["", "#endif // MODEL_DATA_H"]

end DenseSketch.Header

namespace DenseSketch.Project

def header (p : Project) (d : Draft) (tables : String) : Except Fault String := do
  let _ ← p.surroundings
  return Header.text p d tables

end DenseSketch.Project
