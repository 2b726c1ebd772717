import DenseSketch.Text.Basic

/-!
# Base classes

The class of a module is derived from one of a few base classes.  A base class has names of its own,
for methods and for what every instance keeps, and no member can be registered under one of these.
-/

namespace DenseSketch

/-- The class from which the class of a module is derived. -/
inductive Base where
  | module
  /-- Passes its input through its children. -/
  | sequential
  /-- A fully connected layer. -/
  | linear
  deriving DecidableEq, Repr

namespace Base

def name : Base → String
  | .module => "Module"
  | .sequential => "Sequential"
  | .linear => "Linear"

def objectNames : List String :=
  ["__annotations__ __class__ __delattr__ __dict__ __dir__ __doc__ __eq__ __format__ __ge__",
    "__getattribute__ __getstate__ __gt__ __hash__ __init__ __init_subclass__ __le__ __lt__",
    "__module__ __ne__ __new__ __reduce__ __reduce_ex__ __repr__ __setattr__ __sizeof__ __str__",
    "__subclasshook__ __weakref__"].flatMap Text.words

def methodNames : List String :=
  ["add_module apply bfloat16 buffers children compile cpu cuda double eval extra_repr float",
    "forward get_buffer get_extra_state get_parameter get_submodule half ipu load_state_dict",
    "modules mtia named_buffers named_children named_modules named_parameters parameters",
    "register_backward_hook register_buffer register_forward_hook register_forward_pre_hook",
    "register_full_backward_hook register_full_backward_pre_hook",
    "register_load_state_dict_post_hook register_load_state_dict_pre_hook register_module",
    "register_parameter register_state_dict_post_hook register_state_dict_pre_hook",
    "requires_grad_ set_extra_state set_submodule share_memory state_dict to to_empty train type",
    "xpu zero_grad __call__ __getattr__ __setstate__"].flatMap Text.words

/-- What every module keeps, and the methods that are not meant for others. -/
def keptNames : List String :=
  ["T_destination call_super_init dump_patches training _apply _backward_hooks",
    "_backward_pre_hooks _buffers _call_impl _compiled_call_impl _forward_hooks",
    "_forward_hooks_always_called _forward_hooks_with_kwargs _forward_pre_hooks",
    "_forward_pre_hooks_with_kwargs _get_backward_hooks _get_backward_pre_hooks _get_name",
    "_is_full_backward_hook _load_from_state_dict _load_state_dict_post_hooks",
    "_load_state_dict_pre_hooks _maybe_warn_non_full_backward_hook _modules _named_members",
    "_non_persistent_buffers_set _parameters _register_load_state_dict_pre_hook",
    "_register_state_dict_hook _replicate_for_data_parallel _save_to_state_dict _slow_forward",
    "_state_dict_hooks _state_dict_pre_hooks _version _wrapped_call_impl"].flatMap Text.words

def furtherNames : Base → List String
  | .module => []
  | .sequential =>
    ["append extend insert pop _get_item_by_idx __add__ __delitem__ __getitem__ __iadd__ __imul__",
      "__iter__ __len__ __mul__ __rmul__ __setitem__"].flatMap Text.words
  | .linear => Text.words "__constants__ in_features out_features reset_parameters"

/-- Has the class a name of its own that is this one? -/
def hasName (base : Base) (name : String) : Bool :=
  [objectNames, methodNames, keptNames, base.furtherNames].any (·.contains name)

end Base

end DenseSketch
