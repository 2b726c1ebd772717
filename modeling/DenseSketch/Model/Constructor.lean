import DenseSketch.Fault
import DenseSketch.Text.Basic

/-!
# Constructors of the usual classes

What the constructors of the usual classes take: the arguments that have to be given and those that
may be left out, all of them by name.
-/

namespace DenseSketch

/-- The names of the arguments of a constructor, separated by blanks. -/
structure Constructor where
  className : String
  required : String
  optional : String
  deriving DecidableEq, Repr

namespace Constructor

/-! ### Groups of arguments -/

def storage : String := " device dtype"

def reduction : String := " size_average reduce reduction"

def statistics : String := "eps momentum affine track_running_stats" ++ storage

def convolution : String := "stride padding dilation groups bias padding_mode" ++ storage

def transposed : String := "output_padding " ++ convolution

def recurrence : String := "num_layers bias batch_first dropout bidirectional proj_size" ++ storage

/-- One class for each number of dimensions from a list. -/
def dimensional (counts : List Nat) (className required optional : String) : List Constructor :=
  counts.map fun n => ⟨s!"{className}{n}d", required, optional⟩

/-! ### Classes -/

def activations : List Constructor :=
  [⟨"CELU", "", "alpha inplace"⟩, ⟨"ELU", "", "alpha inplace"⟩, ⟨"GELU", "", "approximate"⟩,
    ⟨"GLU", "", "dim"⟩, ⟨"Hardshrink", "", "lambd"⟩, ⟨"Hardsigmoid", "", "inplace"⟩,
    ⟨"Hardswish", "", "inplace"⟩,
    ⟨"Hardtanh", "", "min_val max_val inplace min_value max_value"⟩,
    ⟨"LeakyReLU", "", "negative_slope inplace"⟩, ⟨"LogSigmoid", "", ""⟩,
    ⟨"LogSoftmax", "", "dim"⟩, ⟨"Mish", "", "inplace"⟩,
    ⟨"MultiheadAttention", "embed_dim num_heads",
      "dropout bias add_bias_kv add_zero_attn kdim vdim batch_first" ++ storage⟩,
    ⟨"PReLU", "", "num_parameters init" ++ storage⟩, ⟨"RReLU", "", "lower upper inplace"⟩,
    ⟨"ReLU", "", "inplace"⟩, ⟨"ReLU6", "", "inplace"⟩, ⟨"SELU", "", "inplace"⟩,
    ⟨"SiLU", "", "inplace"⟩, ⟨"Sigmoid", "", ""⟩, ⟨"Softmax", "", "dim"⟩, ⟨"Softmax2d", "", ""⟩,
    ⟨"Softmin", "", "dim"⟩, ⟨"Softplus", "", "beta threshold"⟩, ⟨"Softshrink", "", "lambd"⟩,
    ⟨"Softsign", "", ""⟩, ⟨"Tanh", "", ""⟩, ⟨"Tanhshrink", "", ""⟩,
    ⟨"Threshold", "threshold value", "inplace"⟩]

def matrices : List Constructor :=
  [⟨"Bilinear", "in1_features in2_features out_features", "bias" ++ storage⟩,
    ⟨"LazyLinear", "out_features", "bias" ++ storage⟩,
    ⟨"Linear", "in_features out_features", "bias" ++ storage⟩,
    ⟨"Embedding", "num_embeddings embedding_dim",
      "padding_idx max_norm norm_type scale_grad_by_freq sparse _weight _freeze" ++ storage⟩,
    ⟨"EmbeddingBag", "num_embeddings embedding_dim",
      "max_norm norm_type scale_grad_by_freq mode sparse _weight include_last_offset padding_idx" ++
        storage⟩,
    ⟨"AdaptiveLogSoftmaxWithLoss", "in_features n_classes cutoffs",
      "div_value head_bias" ++ storage⟩]

def convolutions : List Constructor :=
  dimensional [1, 2, 3] "Conv" "in_channels out_channels kernel_size" convolution ++
    dimensional [1, 2, 3] "ConvTranspose" "in_channels out_channels kernel_size" transposed ++
    dimensional [1, 2, 3] "LazyConv" "out_channels kernel_size" convolution ++
    dimensional [1, 2, 3] "LazyConvTranspose" "out_channels kernel_size" transposed

def normalizations : List Constructor :=
  dimensional [1, 2, 3] "BatchNorm" "num_features" statistics ++
    dimensional [1, 2, 3] "InstanceNorm" "num_features" statistics ++
    dimensional [1, 2, 3] "LazyBatchNorm" "" statistics ++
    dimensional [1, 2, 3] "LazyInstanceNorm" "" statistics ++
    [⟨"SyncBatchNorm", "num_features", "process_group " ++ statistics⟩,
      ⟨"GroupNorm", "num_groups num_channels", "eps affine" ++ storage⟩,
      ⟨"LayerNorm", "normalized_shape", "eps elementwise_affine bias" ++ storage⟩,
      ⟨"RMSNorm", "normalized_shape", "eps elementwise_affine" ++ storage⟩,
      ⟨"LocalResponseNorm", "size", "alpha beta k"⟩, ⟨"CrossMapLRN2d", "size", "alpha beta k"⟩]

def dropouts : List Constructor :=
  dimensional [1, 2, 3] "Dropout" "" "p inplace" ++
    [⟨"Dropout", "", "p inplace"⟩, ⟨"AlphaDropout", "", "p inplace"⟩,
      ⟨"FeatureAlphaDropout", "", "p inplace"⟩]

def poolings : List Constructor :=
  dimensional [1, 2, 3] "MaxPool" "kernel_size"
      "stride padding dilation return_indices ceil_mode" ++
    dimensional [1, 2, 3] "MaxUnpool" "kernel_size" "stride padding" ++
    dimensional [2, 3] "AvgPool" "kernel_size"
      "stride padding ceil_mode count_include_pad divisor_override" ++
    dimensional [1, 2, 3] "LPPool" "norm_type kernel_size" "stride ceil_mode" ++
    dimensional [2, 3] "FractionalMaxPool" "kernel_size"
      "output_size output_ratio return_indices _random_samples" ++
    dimensional [1, 2, 3] "AdaptiveAvgPool" "output_size" "" ++
    dimensional [1, 2, 3] "AdaptiveMaxPool" "output_size" "return_indices" ++
    [⟨"AvgPool1d", "kernel_size", "stride padding ceil_mode count_include_pad"⟩]

def recurrents : List Constructor :=
  [⟨"GRU", "input_size hidden_size", recurrence⟩, ⟨"LSTM", "input_size hidden_size", recurrence⟩,
    ⟨"RNN", "input_size hidden_size", "nonlinearity " ++ recurrence⟩,
    ⟨"RNNBase", "mode input_size hidden_size", recurrence⟩,
    ⟨"GRUCell", "input_size hidden_size", "bias" ++ storage⟩,
    ⟨"LSTMCell", "input_size hidden_size", "bias" ++ storage⟩,
    ⟨"RNNCell", "input_size hidden_size", "bias nonlinearity" ++ storage⟩,
    ⟨"RNNCellBase", "input_size hidden_size bias num_chunks", storage⟩]

def arrangements : List Constructor :=
  dimensional [1, 2, 3] "ZeroPad" "padding" "" ++
    dimensional [1, 2, 3] "CircularPad" "padding" "" ++
    dimensional [1, 2, 3] "ReflectionPad" "padding" "" ++
    dimensional [1, 2, 3] "ReplicationPad" "padding" "" ++
    dimensional [1, 2, 3] "ConstantPad" "padding value" "" ++
    [⟨"ChannelShuffle", "groups", ""⟩, ⟨"Flatten", "", "start_dim end_dim"⟩,
      ⟨"Fold", "output_size kernel_size", "dilation padding stride"⟩,
      ⟨"PixelShuffle", "upscale_factor", ""⟩, ⟨"PixelUnshuffle", "downscale_factor", ""⟩,
      ⟨"Unflatten", "dim unflattened_size", ""⟩,
      ⟨"Unfold", "kernel_size", "dilation padding stride"⟩,
      ⟨"Upsample", "", "size scale_factor mode align_corners recompute_scale_factor"⟩,
      ⟨"UpsamplingBilinear2d", "", "size scale_factor"⟩,
      ⟨"UpsamplingNearest2d", "", "size scale_factor"⟩]

def containers : List Constructor :=
  [⟨"Container", "", ""⟩, ⟨"Module", "", ""⟩, ⟨"ModuleDict", "", "modules"⟩,
    ⟨"ModuleList", "", "modules"⟩, ⟨"ParameterDict", "", "parameters"⟩,
    ⟨"ParameterList", "", "values"⟩, ⟨"Sequential", "", ""⟩,
    ⟨"DataParallel", "module", "device_ids output_device dim"⟩]

def losses : List Constructor :=
  ["HuberLoss reduction delta", "CTCLoss blank reduction zero_infinity",
    "GaussianNLLLoss full eps reduction", "CosineSimilarity dim eps",
    "PairwiseDistance p eps keepdim",
    "TripletMarginWithDistanceLoss distance_function margin swap reduction",
    "BCELoss weight" ++ reduction, "BCEWithLogitsLoss weight pos_weight" ++ reduction,
    "CosineEmbeddingLoss margin" ++ reduction,
    "CrossEntropyLoss weight ignore_index label_smoothing" ++ reduction,
    "HingeEmbeddingLoss margin" ++ reduction, "KLDivLoss log_target" ++ reduction,
    "L1Loss" ++ reduction, "MSELoss" ++ reduction, "MarginRankingLoss margin" ++ reduction,
    "MultiLabelMarginLoss" ++ reduction, "MultiLabelSoftMarginLoss weight" ++ reduction,
    "MultiMarginLoss p margin weight" ++ reduction, "NLLLoss weight ignore_index" ++ reduction,
    "NLLLoss2d weight ignore_index" ++ reduction,
    "PoissonNLLLoss log_input full eps" ++ reduction, "SmoothL1Loss beta" ++ reduction,
    "SoftMarginLoss" ++ reduction,
    "TripletMarginLoss margin p eps swap" ++ reduction].map fun line =>
    ⟨(Text.words line).headD "", "", " ".intercalate ((Text.words line).drop 1)⟩

def transformers : List Constructor :=
  let layer := "dim_feedforward dropout activation layer_norm_eps batch_first norm_first bias" ++
    storage
  [⟨"Transformer", "",
      "d_model nhead num_encoder_layers num_decoder_layers " ++
        "custom_encoder custom_decoder " ++ layer⟩,
    ⟨"TransformerDecoder", "decoder_layer num_layers", "norm"⟩,
    ⟨"TransformerDecoderLayer", "d_model nhead", layer⟩,
    ⟨"TransformerEncoder", "encoder_layer num_layers", "norm enable_nested_tensor mask_check"⟩,
    ⟨"TransformerEncoderLayer", "d_model nhead", layer⟩]

def all : List Constructor :=
  activations ++ matrices ++ convolutions ++ normalizations ++ dropouts ++ poolings ++ recurrents ++
    arrangements ++ containers ++ losses ++ transformers

/-- The class whose constructor takes any arguments. -/
def openClass : String := "Identity"

def find? (className : String) : Option Constructor :=
  all.find? (·.className == className)

def isClass (name : String) : Bool := name == openClass || (find? name).isSome

/-- The names in the same place that are no classes of modules. -/
def otherNames : List String :=
  ["Buffer", "Parameter", "UninitializedBuffer", "UninitializedParameter", "attention",
    "common_types", "factory_kwargs", "functional", "grad", "init", "modules", "parallel",
    "parameter", "utils"]

/-- Checks the names of arguments: all that are required, and none that is unknown. -/
def check (c : Constructor) (names : List String) : Except Fault Unit :=
  let required := Text.words c.required
  let known := required ++ Text.words c.optional
  if required.all names.contains && names.all known.contains then .ok () else .error .wrongType

def isActivation (className : String) : Bool :=
  activations.any (·.className == className)

def isDropout (className : String) : Bool :=
  dropouts.any (·.className == className)

end Constructor

end DenseSketch
