import DenseSketch.Model.View
import DenseSketch.Network.Layer

/-!
# Compatibility of models

The scan says of every layer whether it is compiled, passed over without harm, or refused.  A model
is compatible if it has a dense layer and none that cannot be compiled.  This is the scan of
SPEC_FULL, section 9.6.
-/

namespace DenseSketch

inductive Status where
  | dense
  | passThrough
  | unsupported
  deriving DecidableEq, Repr

def Status.name : Status → String
  | .dense => "dense"
  | .passThrough => "pass_through"
  | .unsupported => "unsupported"

structure Finding where
  /-- The name as the layer gives it. -/
  layerName : Document
  className : String
  status : Status
  reason : String
  suggestion : String
  deriving Repr

namespace Finding

/-- Activations that stand where the sketch applies them anyway. -/
def positionalActivations : List String := ["ReLU", "Softmax", "Sigmoid"]

/-- What to do about classes that cannot be compiled. -/
def suggestions : List (String × String) :=
  [("Conv1d", "Flatten the window and use nn.Linear layers."),
    ("Conv2d", "Flatten the window and use nn.Linear layers."),
    ("BatchNorm1d", "Fold the normalization into the preceding nn.Linear before export."),
    ("LayerNorm", "Normalize inputs on the host or drop the layer."),
    ("LSTM", "Recurrent layers are not supported; use a dense network over the window."),
    ("GRU", "Recurrent layers are not supported; use a dense network over the window."),
    ("Embedding", "Embeddings are not supported; feed numeric sensor values.")]

def suggestionFor (className : String) : String :=
  (lookup? className suggestions).getD "Replace with nn.Linear layers."

def unsupported (view : LayerView) (reason suggestion : String) : Finding :=
  ⟨view.name, view.className, .unsupported, reason, suggestion⟩

def passed (view : LayerView) : Finding :=
  ⟨view.name, view.className, .passThrough, "No learnable weights; skipped during extraction.", ""⟩

/-- What is said of a module without weights: its class and its trained tensors count. -/
def ofWeightless (view : LayerView) (info : ModuleInfo) : Finding :=
  if !info.parameters.isEmpty then
    unsupported view
      "Parameterized module without a 'weight' tensor; its parameters would be lost."
      (suggestionFor view.className)
  else
    match lookup? view.className suggestions with
    | some suggestion =>
      unsupported view
        s!"{view.className} changes the computation and has no emitted counterpart." suggestion
    | none =>
      if info.isActivation && !positionalActivations.contains view.className then
        unsupported view
          (view.className ++
            " activation would be replaced by ReLU/softmax/sigmoid on the board.")
          "Use nn.ReLU between hidden layers."
      else passed view

/-- What is said of a layer without weights.  The trained tensors of a module cannot be asked for
    where plain values hide the methods. -/
def withoutWeights (view : LayerView) : Except Fault Finding :=
  match view.origin with
  | .module info =>
    if info.hides ["parameters", "named_parameters"] then .error .wrongType
    else .ok (ofWeightless view info)
  | _ => .ok (passed view)

def isDense : Document → Bool
  | .text kind => kind == Layer.kindName
  | _ => false

def ofView (view : LayerView) : Except Fault Finding := do
  match ← view.weights with
  | none => withoutWeights view
  | some _ =>
    if isDense (← view.kind) then
      return ⟨view.name, view.className, .dense,
        "Dense layer; compiled to a flash table and a multiply-accumulate loop.", ""⟩
    else
      return unsupported view
        s!"{view.className} carries trained weights but is not a dense layer."
        (suggestionFor view.className)

end Finding

structure Report where
  modelName : String
  findings : List Finding
  deriving Repr

namespace Report

def withStatus (r : Report) (status : Status) : List Finding :=
  r.findings.filter (·.status == status)

def dense (r : Report) : List Finding := r.withStatus .dense

def passThrough (r : Report) : List Finding := r.withStatus .passThrough

def unsupported (r : Report) : List Finding := r.withStatus .unsupported

def isCompatible (r : Report) : Bool := r.unsupported.isEmpty && !r.dense.isEmpty

def findingDocument (f : Finding) : Document :=
  .record
    [("layer_name", f.layerName), ("class_name", .text f.className),
      ("status", .text f.status.name), ("reason", .text f.reason),
      ("suggestion", .text f.suggestion)]

def exitCode (r : Report) : Nat := if r.isCompatible then 0 else 1

def toDocument (r : Report) : Document :=
  .record
    [("model_name", .text r.modelName), ("compatible", .truth r.isCompatible),
      ("exit_code", .integer r.exitCode), ("dense_count", .integer r.dense.length),
      ("pass_through_count", .integer r.passThrough.length),
      ("unsupported_count", .integer r.unsupported.length),
      ("findings", .list (r.findings.map findingDocument))]

def findingLines (f : Finding) : List String :=
  [s!"  - {f.layerName.shown}: {f.className}", s!"    reason: {f.reason}"] ++
    if f.suggestion == "" then [] else [s!"    suggestion: {f.suggestion}"]

def summary (r : Report) : String :=
  let title := s!"Compatibility Report for {r.modelName}"
  "\n".intercalate
    ([title, String.ofList (List.replicate title.length '='),
        s!"Dense layers:   {r.dense.length}",
        s!"Pass-through:   {r.passThrough.length}",
        s!"Unsupported:    {r.unsupported.length}"] ++
      (if r.dense.isEmpty then ["", "No dense layers found; nothing to compile."] else []) ++
      (if r.unsupported.isEmpty then []
        else ["", "Unsupported layers:"] ++ r.unsupported.flatMap findingLines))

end Report

namespace Model

def scan (model : Model) : Except Fault Report := do
  let views ← model.views
  return ⟨model.className, ← views.mapM Finding.ofView⟩

/-- Scans a model; in strict mode one that cannot be compiled is refused. -/
def checkCompatibility (model : Model) (strict : Bool) : Except Fault Report := do
  let report ← model.scan
  if strict && !report.isCompatible then throw (.model (.incompatible report.summary))
  return report

end Model

end DenseSketch
