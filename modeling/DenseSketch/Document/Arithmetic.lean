import DenseSketch.Document.Coercion
import DenseSketch.Document.Display

/-!
# Plain values in sums and comparisons

Whole numbers, reals and truth values are compared exactly, whatever their kind.  Two whole numbers
have a whole sum and a whole quotient; with a real among them, both are doubles.  Texts are compared
with texts and lists with lists; nothing else has an order.
-/

namespace DenseSketch

/-- A number as it is given: a whole one, or a real. -/
inductive Quantity where
  | whole (value : Int)
  | real (value : Datum)
  deriving DecidableEq, Repr

namespace Quantity

def exact : Quantity → Datum
  | .whole n => .ofInt n
  | .real x => x

def toReal : Quantity → Except Fault Datum
  | .whole n => Document.realOfInt n
  | .real x => .ok x

def toDocument : Quantity → Document
  | .whole n => .integer n
  | .real x => .real x

def isZero : Quantity → Bool
  | .whole n => n == 0
  | .real x => x.isZero

def add (a b : Quantity) : Except Fault Quantity :=
  match a, b with
  | .whole m, .whole n => .ok (.whole (m + n))
  | a, b => do return .real (Format.binary64.add (← a.toReal) (← b.toReal))

/-- The quotient rounded down to a whole number.  The remainder is taken away first, so that the
    division comes out even but for rounding; a quotient of zero has the sign of the exact one. -/
def floorDivide (x y : Datum) : Datum :=
  let f := Format.binary64
  let rest := Datum.truncatedRemainder x y
  let even := f.div (f.sub x rest) y
  let even :=
    if !rest.isZero && rest.isNegative != y.isNegative then f.sub even .one else even
  if even.isZero then .zeroOf (f.div x y).isNegative
  else
    let down := Datum.floor even
    if Datum.lt (.finite false 1 (-1)) (f.sub even down) then f.add down .one else down

def floorQuotient (a b : Quantity) : Except Fault Quantity :=
  match a, b with
  | .whole m, .whole n => if n = 0 then .error .zeroDivisor else .ok (.whole (m.fdiv n))
  | a, b => do
    let x ← a.toReal
    let y ← b.toReal
    if y.isZero then throw .zeroDivisor
    return .real (floorDivide x y)

def isMultiple (a b : Quantity) : Except Fault Bool :=
  match a, b with
  | .whole m, .whole n => if n = 0 then .error .zeroDivisor else .ok (m % n == 0)
  | a, b => do
    let x ← a.toReal
    let y ← b.toReal
    if y.isZero then throw .zeroDivisor
    return (Datum.truncatedRemainder x y).isZero

end Quantity

namespace Document

/-- The number that a plain value is; a truth value is zero or one. -/
def quantity? : Document → Option Quantity
  | .integer n => some (.whole n)
  | .truth b => some (.whole (if b then 1 else 0))
  | .real x => some (.real x)
  | _ => none

def quantity (d : Document) : Except Fault Quantity :=
  match d.quantity? with
  | some q => .ok q
  | none => .error .wrongType

/-- The whole number that a plain value has to be; a real is none. -/
def wholeNumber (d : Document) : Except Fault Int :=
  match d.quantity? with
  | some (.whole n) => .ok n
  | _ => .error .wrongType

mutual

/-- Are two plain values equal?  Numbers of any kind are compared by value. -/
def same : Document → Document → Bool
  | .null, .null => true
  | .text s, .text t => s == t
  | .list xs, .list ys => sameItems xs ys
  | .record xs, .record ys => xs.length == ys.length && sameMembers xs ys
  | a, b =>
    match a.quantity?, b.quantity? with
    | some x, some y => Datum.compare? x.exact y.exact == some .eq
    | _, _ => false

def sameItems : List Document → List Document → Bool
  | [], [] => true
  | x :: xs, y :: ys => same x y && sameItems xs ys
  | _, _ => false

def sameMembers : List (String × Document) → List (String × Document) → Bool
  | [], _ => true
  | (key, x) :: xs, ys =>
    (match lookup? key ys with
      | some y => same x y
      | none => false) && sameMembers xs ys

end

mutual

/-- Is the first plain value below the second?  A fault where they have no order. -/
def isBelow : Document → Document → Except Fault Bool
  | .text s, .text t => .ok (Text.isBelow s t)
  | .list xs, .list ys => itemsBelow xs ys
  | a, b => do
    let x ← a.quantity
    let y ← b.quantity
    return Datum.lt x.exact y.exact

/-- Is the first list below the second?  The first items that differ decide. -/
def itemsBelow : List Document → List Document → Except Fault Bool
  | [], ys => .ok (!ys.isEmpty)
  | _ :: _, [] => .ok false
  | x :: xs, y :: ys => if same x y then itemsBelow xs ys else isBelow x y

end

/-- Is the value a number that is zero or below?  A fault where it is no number. -/
def isNotPositive (d : Document) : Except Fault Bool := do
  return Datum.le (← d.quantity).exact .zero

def isNegative (d : Document) : Except Fault Bool := d.isBelow (.integer 0)

end Document

end DenseSketch
