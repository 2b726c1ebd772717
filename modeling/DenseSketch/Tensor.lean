import DenseSketch.Document.Coercion

/-!
# Tensors

A block holds scalars of any kind in row-major order; a tensor is a block of single-precision data.
Nested lists become tensors when all lists of one depth have the same length; their leaves are then
converted one after the other.

The tensors that a model stores are read in another way.  The axes are read off the first items
alone; then everything else has to follow them, each sequence in its length and each leaf as a
number.
-/

namespace DenseSketch

/-- Scalars in row-major order, with the length of every axis. -/
structure Block (α : Type) where
  dims : List Nat
  data : List α
  deriving DecidableEq, Repr

namespace Block

variable {α : Type}

def size (b : Block α) : Nat := b.data.length

def sizeOf (dims : List Nat) : Nat := dims.foldr (fun n count => n * count) 1

def vector (data : List α) : Block α := ⟨[data.length], data⟩

def rowsOf (width : Nat) : Nat → List α → List (List α)
  | 0, _ => []
  | count + 1, data => data.take width :: rowsOf width count (data.drop width)

end Block

abbrev Tensor := Block Datum

namespace Tensor

def maxRank : Nat := 64

mutual

/-- The lengths of the axes of nested lists; a fault when lists of one depth differ in shape. -/
def shapeOf : Document → Except Fault (List Nat)
  | .list [] => .ok [0]
  | .list (item :: rest) =>
    match shapeOf item with
    | .error fault => .error fault
    | .ok dims =>
      match sameShape dims rest with
      | .error fault => .error fault
      | .ok () => .ok ((rest.length + 1) :: dims)
  | _ => .ok []

def sameShape (dims : List Nat) : List Document → Except Fault Unit
  | [] => .ok ()
  | item :: rest =>
    match shapeOf item with
    | .error fault => .error fault
    | .ok found => if found = dims then sameShape dims rest else .error .badValue

end

mutual

def leaves : Document → List Document
  | .list items => leavesOf items
  | leaf => [leaf]

def leavesOf : List Document → List Document
  | [] => []
  | item :: rest => leaves item ++ leavesOf rest

end

/-- A leaf in single precision; null is not a number. -/
def leafData : Document → Except Fault Datum
  | .null => .ok .nan
  | leaf => leaf.toReal.map Format.binary32.round

/-- The axes of nested lists, if they have any. -/
def dimsOf (d : Document) : Except Fault (List Nat) :=
  match shapeOf d with
  | .error fault => .error fault
  | .ok dims => if dims.length > maxRank then .error .badValue else .ok dims

/-- The tensor of nested lists: the shape is found first, then the leaves are converted. -/
def ofDocument (d : Document) : Except Fault Tensor := do
  let dims ← dimsOf d
  let data ← (leaves d).mapM leafData
  return ⟨dims, data⟩

def single (d : Document) : Except Fault Datum := do
  match (← ofDocument d).data with
  | [x] => return x
  | _ => throw .wrongType

/-! ### Stored tensors -/

def maxStoredRank : Nat := 128

/-- The lengths of the axes along the first items.  A text is a sequence of texts without end,
    unless it is empty. -/
def leadingDims : Document → Except Fault (List Nat)
  | .list [] => .ok [0]
  | .list (item :: rest) => (leadingDims item).map ((rest.length + 1) :: ·)
  | .text s => if s == "" then .ok [0] else .error .badValue
  | _ => .ok []

/-- A leaf in single precision; only numbers and truth values are leaves. -/
def storedLeaf : Document → Except Fault Datum
  | .null => .error .wrongType
  | leaf => leaf.toNumber.map Format.binary32.round

/-- The numbers of nested sequences that have given axes. -/
def storedData : List Nat → Document → Except Fault (List Datum)
  | [], leaf => do return [← storedLeaf leaf]
  | count :: dims, d => do
    let items ← d.items?
    if items.length ≠ count then throw .badValue
    return (← items.mapM (storedData dims)).flatten

/-- The tensor that is stored for nested sequences; a text is none. -/
def stored : Document → Except Fault Tensor
  | .text _ => .error .wrongType
  | d => do
    let dims ← leadingDims d
    if maxStoredRank < dims.length then throw .badValue
    return ⟨dims, ← storedData dims d⟩

end Tensor

end DenseSketch
