import DenseSketch.Number.Shortest
import DenseSketch.Text.Quoted

/-!
# Faults

Every refusal as its cause.  The causes are grouped by what they say about the input: the network,
the prediction messages, the settings, a snapshot, a vector, a model.  `Fault.message?` holds the
wording; the causes without one are those of a value that has the wrong form for its place.  The
compilation errors of SPEC_FULL, section 7, are those for which `Fault.isCompilation` holds.
-/

namespace DenseSketch

def commaSeparated (names : List String) : String :=
  ", ".intercalate names

/-- Items in parentheses, of which a single one is followed by a comma. -/
def tupleText : List String → String
  | [item] => s!"({item},)"
  | items => "(" ++ commaSeparated items ++ ")"

def shownDims (dims : List Nat) : String := tupleText (dims.map toString)

/-! ### The network -/

inductive ShapeFault where
  /-- A unit count is not positive; both counts as they were given. -/
  | units (layer inputs outputs : String)
  | weightCount (layer : String) (weights inputs outputs : Nat)
  | biasCount (layer : String) (values outputs : Nat)
  | rank (layer : String) (dims : List Nat)
  deriving DecidableEq, Repr

/-- A number that no flash table can hold. -/
inductive NonFiniteFault where
  | value (x : Datum)
  | weights (layer : String)
  | bias (layer : String)
  deriving DecidableEq, Repr

inductive BoardFault where
  | missingCapabilities (board : String) (names : List String)
  | noSensor (board family : String) (available : List String)
  | unsupportedSensor (board family : String)
  /-- Too few pins; both counts as they were given. -/
  | pins (board offered requested : String)
  | negativeOutputs (count : String)
  deriving DecidableEq, Repr

/-- Outputs that do not fit the network, the board or the channel. -/
inductive CountFault where
  | labels (labels units : Nat)
  | pins (cause : BoardFault)
  | message (longest : Nat) (capacity : String)
  deriving DecidableEq, Repr

inductive ChainFault where
  | neighbours (layer : String) (outputs : Nat) (next : String) (inputs : Nat)
  | stage (layer : String) (inputs produced : Nat)
  deriving DecidableEq, Repr

inductive WindowFault where
  | network (window inputs : Nat)
  | frames (window frame : Nat) (sensor : String)
  | input (values inputs : Nat)
  deriving DecidableEq, Repr

/-! ### The prediction messages -/

inductive LabelFault where
  | none
  | blank
  | lineBreak (label : String)
  | quote (label : String)
  | separator (label : String)
  | regressionTag
  | message (longest : Nat) (capacity : String)
  deriving DecidableEq, Repr

inductive MessageFault where
  | empty
  | regression (line : String)
  | range (line : String)
  | classification (line : String)
  deriving DecidableEq, Repr

/-! ### Settings, snapshots, vectors and models -/

inductive SettingFault where
  | variant (given : String)
  | sensor (given : String) (available : List String)
  | board (given : String) (available : List String)
  | window (given : String)
  | fileCount (names : List String)
  | tableRole (role : String)
  | valuesPerLine (given : String)
  | boardTwice
  | sensorTwice
  | intervals
  | noOutputDirectory
  | initKwarg (item : String)
  | noLabelsOrWindow
  deriving DecidableEq, Repr

inductive SnapshotFault where
  /-- The kind as it is shown. -/
  | kind (shown : String)
  | version (given expected : String)
  | missing (field : String)
  deriving DecidableEq, Repr

/-- Vectors that do not fit an operation. -/
inductive VectorFault where
  | rows (values rows : Nat)
  | slide (frame buffer : Nat)
  /-- Sizes that do not fit, as they were given. -/
  | window (window frame : String)
  | frame (expected : String) (got : Nat)
  | emptySoftmax
  | emptyArgmax
  | emptyRegression
  deriving DecidableEq, Repr

/-- A model that cannot be found or compiled. -/
inductive ModelFault where
  | incompatible (summary : String)
  | noSuchClass (name moduleName : String)
  | noClass (moduleName : String)
  | severalClasses (moduleName : String) (names : List String)
  | notAModule (moduleName : String)
  deriving DecidableEq, Repr

/-- Why something is refused. -/
inductive Fault where
  | shape (cause : ShapeFault)
  | unsupportedKind (layer kind : String)
  | emptyModel
  | nonFinite (cause : NonFiniteFault)
  | outputCount (cause : CountFault)
  | chain (cause : ChainFault)
  | window (cause : WindowFault)
  | label (cause : LabelFault)
  /-- A scanned model holds layers that cannot be compiled. -/
  | uncompilable
  | message (cause : MessageFault)
  | board (cause : BoardFault)
  | setting (cause : SettingFault)
  | snapshot (cause : SnapshotFault)
  | vector (cause : VectorFault)
  | model (cause : ModelFault)
  /-- One text is given where a list of labels belongs. -/
  | labelsText
  /-- A value of the named class holds no layers. -/
  | unreadableModel (className : String)
  | unimportable (path : String)
  /-- A value of a type that has no place there. -/
  | wrongType
  /-- A value without the member that is used. -/
  | noSuchMember
  | noSuchKey (key : String)
  /-- A name under which a module can hold no member. -/
  | memberName (name : String)
  | outOfBounds
  /-- A value of the right type that is out of range. -/
  | badValue
  | zeroDivisor
  /-- A number too large for its place. -/
  | overflow
  /-- A text that is no document. -/
  | malformedDocument
  /-- A text that is no source file or no literal. -/
  | malformedSource
  /-- A source file or a literal with a line that starts in the wrong place. -/
  | malformedIndentation
  /-- The same, where blanks and tabs are mixed. -/
  | mixedIndentation
  /-- A text with a single surrogate, which cannot be encoded. -/
  | unencodable
  /-- Lists or records that are nested too deep. -/
  | tooDeep
  /-- An expression that takes too much room. -/
  | tooLarge
  /-- A name that stands for nothing. -/
  | unboundName
  /-- A file that holds no tensors. -/
  | malformedState
  /-- The same, where the file is empty. -/
  | emptyState
  /-- The same, where the file ends too early. -/
  | shortState
  /-- Tensors that do not fit. -/
  | tensorMismatch
  | noSuchFile
  | isDirectory
  | notDirectory
  | fileExists
  | nameTooLong
  deriving DecidableEq, Repr

/-! ### Wording -/

def ShapeFault.wording : ShapeFault → String
  | .units layer inputs outputs =>
    s!"Layer '{layer}': units must be positive (got {inputs} -> {outputs})"
  | .weightCount layer weights inputs outputs =>
    s!"Layer '{layer}': {weights} weights for {inputs}x{outputs} (expected {inputs * outputs})"
  | .biasCount layer values outputs =>
    s!"Layer '{layer}': bias has {values} values, expected {outputs}"
  | .rank layer dims =>
    s!"Layer '{layer}': weight shape {shownDims dims} is neither 1-D nor 2-D"

def NonFiniteFault.wording : NonFiniteFault → String
  | .value x => s!"Cannot serialize non-finite value {String.ofList x.shortestText}"
  | .weights layer => s!"Layer '{layer}': weights contain NaN or Inf"
  | .bias layer => s!"Layer '{layer}': bias contains NaN or Inf"

def BoardFault.wording : BoardFault → String
  | .missingCapabilities board names =>
    s!"Target '{board}' is missing required capabilities: {commaSeparated names}"
  | .noSensor board family available =>
    s!"Target '{board}' has no '{family}' sensor. Available: {commaSeparated available}"
  | .unsupportedSensor board family => s!"Target '{board}' has no '{family}' sensor"
  | .pins board offered requested =>
    s!"Target '{board}' offers {offered} PWM pins, {requested} requested"
  | .negativeOutputs count => s!"num_outputs must be non-negative, got {count}"

/-- The wording for a longest message that overruns the channel. -/
def messageTooLong (longest : Nat) (capacity : String) : String :=
  s!"Longest prediction message is {longest} bytes, TX characteristic holds {capacity}"

def CountFault.wording : CountFault → String
  | .labels count units => s!"{count} output labels for a model with {units} output units"
  | .pins cause => s!"Too many regression outputs: {cause.wording}"
  | .message longest capacity => messageTooLong longest capacity

def ChainFault.wording : ChainFault → String
  | .neighbours layer outputs next inputs =>
    s!"Layer '{layer}' outputs {outputs} units but '{next}' expects {inputs} inputs"
  | .stage layer inputs produced =>
    s!"Layer '{layer}' expects {inputs} inputs, previous stage produces {produced}"

def WindowFault.wording : WindowFault → String
  | .network window inputs =>
    s!"Sample window of {window} values does not match the first layer's {inputs} inputs"
  | .frames window frame sensor =>
    s!"Sample window of {window} values is not a whole number of {frame}-channel '{sensor}' frames"
  | .input values inputs => s!"Input has {values} values, model expects {inputs}"

def LabelFault.wording : LabelFault → String
  | .none => "At least one output label is required"
  | .blank => "Output labels must be non-empty"
  | .lineBreak label => s!"Output label {Text.quoted label} contains a line break"
  | .quote label => s!"Output label {Text.quoted label} contains a quote or backslash"
  | .separator label => s!"Output label {Text.quoted label} contains the field separator ','"
  | .regressionTag => "Classification label 'R' collides with the regression message tag"
  | .message longest capacity => messageTooLong longest capacity

def MessageFault.wording : MessageFault → String
  | .empty => "Empty prediction message"
  | .regression line => s!"Malformed regression message: {Text.quoted line}"
  | .range line => s!"Regression value out of range in {Text.quoted line}"
  | .classification line => s!"Malformed classification message: {Text.quoted line}"

def SettingFault.wording : SettingFault → String
  | .variant given =>
    s!"Unknown variant '{given}'. Available variants: classification, regression"
  | .sensor given available =>
    s!"Unknown sensor '{given}'. Available sensors: {commaSeparated available}"
  | .board given available =>
    s!"Unknown target '{given}'. Available targets: {commaSeparated available}"
  | .window given => s!"sample_window_size must be positive, got {given}"
  | .fileCount names =>
    s!"Generated artifact must hold 3 files, got [{commaSeparated (names.map Text.quoted)}]"
  | .tableRole role => s!"Unknown table role '{role}' (expected 'weights' or 'bias')"
  | .valuesPerLine given => s!"values_per_line must be positive, got {given}"
  | .boardTwice => "Specify either 'target' or 'target_name', not both."
  | .sensorTwice => "Specify either 'sensor' or 'sensor_name', not both."
  | .intervals => "Sample and prediction intervals must be positive"
  | .noOutputDirectory => "No output directory given"
  | .initKwarg item => s!"Invalid --init-kwarg '{item}'. Expected KEY=VALUE."
  | .noLabelsOrWindow => "--model-file requires --labels and --window-size."

def SnapshotFault.wording : SnapshotFault → String
  | .kind shown => s!"Not a model IR snapshot (kind={shown})"
  | .version given expected =>
    s!"Unsupported snapshot schema version {Text.quoted given} (expected {expected})"
  | .missing field => s!"Snapshot is missing field {Text.quoted field}"

def VectorFault.wording : VectorFault → String
  | .rows values expected => s!"Input has {values} values, weights expect {expected}"
  | .slide size held => s!"Frame of {size} values does not fit a window of {held}"
  | .window size step =>
    s!"window_size ({size}) must be a positive multiple of frame_size ({step})"
  | .frame expected got => s!"Expected a frame of {expected} values, got {got}"
  | .emptySoftmax => "softmax of an empty vector"
  | .emptyArgmax => "argmax of an empty vector"
  | .emptyRegression => "Regression message needs at least one value"

def ModelFault.wording : ModelFault → String
  | .incompatible summary => summary
  | .noSuchClass name moduleName =>
    s!"Class '{name}' not found or not an nn.Module in {moduleName}."
  | .noClass moduleName =>
    s!"No nn.Module subclass found in {moduleName}. Use --model-class to select a class explicitly."
  | .severalClasses moduleName names =>
    s!"Multiple nn.Module classes found in {moduleName}: {commaSeparated names}. " ++
      "Use --model-class to choose one."
  | .notAModule moduleName => s!"{moduleName}.create_model() did not return nn.Module."

def Fault.message? : Fault → Option String
  | .shape cause => some cause.wording
  | .unsupportedKind layer kind =>
    some s!"Layer '{layer}' of kind '{kind}' has weights but is not a dense layer"
  | .emptyModel => some "Model has no weight-bearing layers"
  | .nonFinite cause => some cause.wording
  | .outputCount cause => some cause.wording
  | .chain cause => some cause.wording
  | .window cause => some cause.wording
  | .label cause => some cause.wording
  | .uncompilable => some "Model contains layers that cannot be compiled."
  | .message cause => some cause.wording
  | .board cause => some cause.wording
  | .setting cause => some cause.wording
  | .snapshot cause => some cause.wording
  | .vector cause => some cause.wording
  | .model cause => some cause.wording
  | .labelsText => some "output_labels must be a sequence of strings, not a string"
  | .unreadableModel className => some s!"Cannot read layers from {className}"
  | .unimportable path => some s!"Unable to import module from {path}"
  | _ => none

/-- What a fault is, in words; its wording where it has one. -/
def Fault.description (fault : Fault) : String :=
  fault.message?.getD (match fault with
    | .wrongType => "a value of another type is expected"
    | .noSuchMember => "a value lacks a member"
    | .noSuchKey key => s!"there is no key {Text.quoted key}"
    | .memberName name => s!"a module can hold no member under the name {Text.quoted name}"
    | .outOfBounds => "an index is out of bounds"
    | .zeroDivisor => "a divisor is zero"
    | .overflow => "a number is too large"
    | .malformedDocument => "the text is no document"
    | .malformedSource => "the text is no source file"
    | .malformedIndentation => "a line starts in the wrong place"
    | .mixedIndentation => "a line starts with blanks and tabs in a mixture"
    | .unencodable => "a text holds a single surrogate"
    | .tooDeep => "values are nested too deep"
    | .tooLarge => "an expression takes too much room"
    | .unboundName => "a name stands for nothing"
    | .malformedState => "the file holds no tensors"
    | .emptyState => "the file is empty"
    | .shortState => "the file ends too early"
    | .tensorMismatch => "tensors do not fit"
    | .noSuchFile => "there is no such file"
    | .isDirectory => "a directory stands in place of a file"
    | .notDirectory => "a file stands in place of a directory"
    | .fileExists => "the file exists"
    | .nameTooLong => "the name of a file is too long"
    | _ => "a value is out of range")

/-- Does the fault condemn a model, its labels or its settings for compilation? -/
def Fault.isCompilation : Fault → Bool
  | .shape _ | .unsupportedKind .. | .emptyModel | .nonFinite _ | .outputCount _ | .chain _
  | .window _ | .label _ | .uncompilable => true
  | _ => false

/-- Does the fault say that a value is wrong, and not its type or place? -/
def Fault.isValueFault : Fault → Bool
  | .message _ | .board _ | .setting _ | .snapshot _ | .vector _ | .model _ | .badValue
  | .malformedDocument | .unencodable => true
  | fault => fault.isCompilation

end DenseSketch
