import DenseSketch.Number.Format

/-!
# Arithmetics

Inference is written once, over the operations of an arithmetic, and runs in single precision.  The
same definitions can be read over exact numbers with any function for the exponential.

In single precision the exponential is computed in fixed point with 128 fractional bits: the
argument is split into a multiple of ln 2 and a remainder of at most half of it, and the remainder
goes through the power series.  The error is far below half a unit of single precision.
-/

namespace DenseSketch

/-! ### The exponential in single precision -/

namespace Exponential

def fractionBits : Nat := 128

def unit : Nat := Nat.pow 2 fractionBits

/-- ln 2 in fixed point: 144 terms of `∑ 1 / (k 2 ^ k)`. -/
def ln2 : Nat :=
  (List.range 144).foldl (fun sum k => sum + unit / ((k + 1) * Nat.pow 2 (k + 1))) 0

/-- `∑ xⁱ / i!` from `i = k` on, `term` being the term at `k`; `fuel` terms. -/
def series (x : Int) : Nat → Nat → Int → Int
  | 0, _, _ => 0
  | fuel + 1, k, term => term + series x fuel (k + 1) (term * x / ((k + 1 : Nat) * (unit : Int)))

/-- The datum in fixed point, rounded down. -/
def fixedPoint (negative : Bool) (m : Nat) (e : Int) : Int :=
  let n : Int := (Datum.numerator m e * unit / Datum.denominator e : Nat)
  if negative then -n else n

def exp : Datum → Datum
  | .nan => .nan
  | .infinite s => if s then .zero else .infinite false
  | .finite s m e =>
    if m = 0 then .one
    else if Datum.lt (.finite false 128 0) (.finite false m e) then
      if s then .zero else .infinite false
    else
      let x := fixedPoint s m e
      let halfLn2 : Int := (ln2 / 2 : Nat)
      let power := (x + halfLn2) / (ln2 : Int)
      let rest := x - power * ln2
      let value := series rest 40 0 unit
      Format.binary32.ofDyadic false value.toNat (power - fractionBits)

end Exponential

/-! ### Arithmetics -/

/-- The operations that inference uses, and what a stored datum stands for. -/
structure Arithmetic (α : Type) where
  ofDatum : Datum → α
  zero : α
  one : α
  add : α → α → α
  sub : α → α → α
  mul : α → α → α
  div : α → α → α
  neg : α → α
  max : α → α → α
  exp : α → α
  /-- Is the first scalar below the second? -/
  lt : α → α → Bool

namespace Arithmetic

/-- Single precision; what is not a number spreads. -/
def binary32 : Arithmetic Datum where
  ofDatum := id
  zero := .zero
  one := .one
  add := Format.binary32.add
  sub := Format.binary32.sub
  mul := Format.binary32.mul
  div := Format.binary32.div
  neg := Datum.neg
  max := Datum.maxNaN
  exp := Exponential.exp
  lt := Datum.lt

end Arithmetic

end DenseSketch
