import DenseSketch.Model.Module
import DenseSketch.Text.Case
import DenseSketch.Document.Display

/-!
# Layers of a model

Extraction and the compatibility scan see every model as a list of layers, each with a name, a kind,
and perhaps weights and a bias.  A tree of modules is seen through its leaves, anything else through
its items; an item that shows no weights is passed through.  This is the first half of the Weight
Extractor (SPEC_FULL, section 4.1): the layers behind its capability interface.
-/

namespace DenseSketch

inductive Held where
  | tensor (t : Tensor)
  | plain (d : Document)

namespace Held

/-- The axes, found without reading a number. -/
def dims : Held → Except Fault (List Nat)
  | .tensor t => .ok t.dims
  | .plain d => Tensor.dimsOf d

def toTensor : Held → Except Fault Tensor
  | .tensor t => .ok t
  | .plain d => Tensor.ofDocument d

end Held

/-- What a layer answers when it is asked for its kind: the plain value that the answer is equal to,
    and how it is shown.  A member of an enumeration of texts is equal to one text and shown as
    another. -/
structure Kind where
  value : Document
  shown : String

/-- A kind is compared as its value. -/
instance : Coe Kind Document := ⟨Kind.value⟩

namespace Kind

/-- A plain value, shown as such. -/
def plain (d : Document) : Kind := ⟨d, d.shown⟩

@[simp]
theorem plain_value (d : Document) : (plain d).value = d := rfl

@[simp]
theorem plain_shown (d : Document) : (plain d).shown = d.shown := rfl

end Kind

inductive Origin where
  /-- A module of a tree. -/
  | module (info : ModuleInfo)
  /-- A layer that hands out its arrays in a list. -/
  | arrays
  /-- A layer that answers for itself. -/
  | own
  /-- Anything else. -/
  | passThrough

/-- A layer as it is seen.  A layer that answers for itself may give any plain value as its name, and
    any kind. -/
structure LayerView where
  origin : Origin
  name : Document
  className : String
  kind : Except Fault Kind
  weights : Except Fault (Option Held)
  bias : Option Held

inductive Item where
  | module (m : Module)
  /-- A layer of arrays, of which the kind may be no text. -/
  | arrays (className name : String) (kind : Document) (arrays : List Tensor)
  | own (className : String) (name : Document) (kind : Kind) (weights bias : Option Document)
  | opaqueItem

inductive Model where
  | tree (m : Module)
  | items (className : String) (items : List Item)
  /-- A plain value, which may have parts but no layers. -/
  | value (d : Document)

namespace LayerView

def ofModule (name : String) (info : ModuleInfo) : LayerView where
  origin := .module info
  name := .text name
  className := info.className
  kind := .ok (.plain (.text (if info.isLinear then "dense" else Text.lower info.className)))
  weights := info.weight.map fun t => t.map .tensor
  bias := info.bias.map .tensor

def passThrough (name : String) : LayerView where
  origin := .passThrough
  name := .text name
  className := "PassThroughLayer"
  kind := .ok (.plain (.text "pass_through"))
  weights := .ok none
  bias := none

/-- A kind in lower case; only a text has one. -/
def lowerKind : Document → Except Fault Kind
  | .text s => .ok (.plain (.text (Text.lower s)))
  | _ => .error .noSuchMember

def ofItem (position : Nat) : Item → LayerView
  | .module m => ofModule (toString position) m.info
  | .arrays className name kind arrays =>
    { origin := .arrays
      name := .text name
      className := className
      kind := lowerKind kind
      weights := .ok (arrays[0]?.map .tensor)
      bias := arrays[1]?.map .tensor }
  | .own className name kind weights bias =>
    { origin := .own
      name := name
      className := className
      kind := .ok kind
      weights := .ok (weights.map .plain)
      bias := bias.map .plain }
  | .opaqueItem => passThrough (toString position)

def ofItems (position : Nat) : List Item → List LayerView
  | [] => []
  | item :: rest => ofItem position item :: ofItems (position + 1) rest

end LayerView

namespace Model

def valueClass : Document → String
  | .null => "NoneType"
  | .truth _ => "bool"
  | .integer _ => "int"
  | .real _ => "float"
  | .text _ => "str"
  | .list _ => "list"
  | .record _ => "dict"

def className : Model → String
  | .tree m => m.info.className
  | .items name _ => name
  | .value d => valueClass d

def views : Model → Except Fault (List LayerView)
  | .tree m =>
    if m.showsLeaves then .ok (m.leaves.map fun l => .ofModule l.1 l.2) else .error .wrongType
  | .items _ layers => .ok (LayerView.ofItems 0 layers)
  | .value d =>
    match d.items? with
    | .ok parts => .ok (LayerView.ofItems 0 (parts.map fun _ => .opaqueItem))
    | .error _ => .error (.unreadableModel (valueClass d))

end Model

end DenseSketch
