import DenseSketch.Variant
import DenseSketch.Document.Coercion

/-!
# Metadata

What is known of a network beside its weights: the labels of its outputs, the number of values in
its window and its variant.  It is the metadata of the data model (SPEC_FULL, section 3).
-/

namespace DenseSketch

structure Metadata where
  labels : List String
  window : Nat
  variant : Variant
  window_pos : 0 < window

namespace Metadata

def create (labels : List String) (variant : Variant) (window : Document) :
    Except Fault Metadata := do
  let count ← window.toInt
  if h : 0 < count.toNat then return ⟨labels, count.toNat, variant, h⟩
  else throw (.setting (.window window.shown))

def labelsOf (d : Document) : Except Fault (List String) :=
  match d with
  | .text _ => .error .labelsText
  | d => d.items?.map (·.map Document.shown)

def ofDocuments (labels window variant : Document) : Except Fault Metadata := do
  let labels ← labelsOf labels
  let variant ← Variant.ofDocument variant
  create labels variant window

def outputCount (m : Metadata) : Nat := m.labels.length

def isClassification (m : Metadata) : Bool := m.variant == .classification

end Metadata

end DenseSketch
