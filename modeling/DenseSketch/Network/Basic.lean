import DenseSketch.Network.Layer

/-!
# Networks

A network is a sequence of dense layers with at least one layer.  Whether neighbours fit is checked
apart from building it.  It is the `ModelIR` of the data model (SPEC_FULL, section 3).
-/

namespace DenseSketch

/-- Dense layers in the order in which they are applied. -/
structure Network where
  layers : List Layer
  layers_ne_nil : layers ≠ []

namespace Network

def create (layers : List Layer) : Except Fault Network :=
  if h : layers ≠ [] then .ok ⟨layers, h⟩ else .error .emptyModel

def first (net : Network) : Layer := net.layers.head net.layers_ne_nil

def last (net : Network) : Layer := net.layers.getLast net.layers_ne_nil

/-- The layer at an index, which counts from the end where it is negative. -/
def layerAt (net : Network) (index : Document) : Except Fault Layer :=
  let at? (n : Int) : Except Fault Layer :=
    let i := if n < 0 then n + net.layers.length else n
    if i < 0 then .error .outOfBounds
    else match net.layers[i.toNat]? with
      | some layer => .ok layer
      | none => .error .outOfBounds
  match index with
  | .integer n => at? n
  | .truth b => at? (if b then 1 else 0)
  | _ => .error .wrongType

def inputs (net : Network) : Nat := net.first.inputs

def outputs (net : Network) : Nat := net.last.outputs

def parameterCount (net : Network) : Nat :=
  net.layers.foldr (fun layer count => layer.parameterCount + count) 0

/-- The widths of the network: its inputs, then the outputs of every layer. -/
def widths (net : Network) : List Nat :=
  net.inputs :: net.layers.map Layer.outputs

def shape (net : Network) : String :=
  " -> ".intercalate (net.widths.map toString)

/-- Checks that each layer behind `previous` reads as many values as the one before it yields. -/
def checkFrom (previous : Layer) : List Layer → Except Fault Unit
  | [] => .ok ()
  | next :: rest =>
    if previous.outputs = next.inputs then checkFrom next rest
    else
      .error (.chain
        (.neighbours previous.name.shown previous.outputs next.name.shown next.inputs))

def checkChain (net : Network) : Except Fault Unit :=
  match net.layers with
  | [] => .ok ()
  | layer :: rest => checkFrom layer rest

end Network

end DenseSketch
