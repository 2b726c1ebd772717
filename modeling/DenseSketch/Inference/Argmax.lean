import DenseSketch.Inference.Activation
import DenseSketch.Document.Arithmetic
import DenseSketch.Tensor

/-!
# The first maximum of plain values

All leaves of nested lists are brought into one form before they are compared.  With null, a record
or a whole number of more than 64 bits among them they stay as they are; with a text they become
texts; with a real, or with whole numbers both below and from 2^63 on, they become doubles;
otherwise they are compared exactly.  This is the tie-break of SPEC_FULL, section 4.2, for arguments
of any kind.
-/

namespace DenseSketch

/-- The least whole number that needs the sign bit of 64 bits. -/
def signBound : Int := 0x8000000000000000

/-- Is the leaf one that only fits into a list of arbitrary values? -/
def isArbitrary : Document → Bool
  | .null | .record _ => true
  | .integer n => n < -signBound || 2 * signBound ≤ n
  | _ => false

def isText : Document → Bool
  | .text _ => true
  | _ => false

def isWhole (test : Int → Bool) : Document → Bool
  | .integer n => test n
  | _ => false

def isReal : Document → Bool
  | .real _ => true
  | _ => false

def areDoubles (leaves : List Document) : Bool :=
  leaves.any isReal ||
    (leaves.any (isWhole (· < signBound)) && leaves.any (isWhole (signBound ≤ ·)))

/-- The leaf as a text, without zero characters at its end. -/
def paddedText (leaf : Document) : String :=
  String.ofList ((leaf.shown.toList.reverse.dropWhile (· == '\x00')).reverse)

/-- Scans on from position `i` through values of which two may have no order. -/
def argmaxChecked (best : Document) (position : Nat) : Nat → List Document → Except Fault Nat
  | _, [] => .ok position
  | i, x :: rest => do
    if ← best.isBelow x then argmaxChecked x i (i + 1) rest
    else argmaxChecked best position (i + 1) rest

/-- The position of the first largest leaf, all leaves brought into one form. -/
def argmaxOfLeaves (leaves : List Document) : Except Fault Nat :=
  if leaves.any isArbitrary then
    match leaves with
    | [] => .error (.vector .emptyArgmax)
    | leaf :: rest => argmaxChecked leaf 0 1 rest
  else if leaves.any isText then argmax Text.isBelow (leaves.map paddedText)
  else do
    let numbers ← leaves.mapM Document.quantity
    let exact := numbers.map Quantity.exact
    argmax Datum.lt (if areDoubles leaves then exact.map Format.binary64.round else exact)

def argmaxOf (d : Document) : Except Fault Nat := do
  let _ ← Tensor.dimsOf d
  argmaxOfLeaves (Tensor.leaves d)

end DenseSketch
