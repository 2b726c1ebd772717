import DenseSketch.Inference.Arithmetic
import DenseSketch.Fault

/-!
# Activations

Hidden layers pass on positive values only.  A classifier ends in a softmax, which subtracts the
largest value first so that no exponential grows, and a regressor in a logistic function.  The
activations and the duty cycle are those of the Forward-Pass Emitter (SPEC_FULL, section 4.2), as
the reference operations compute them (section 9.5).
-/

namespace DenseSketch

variable {α : Type}

namespace Arithmetic

def relu (A : Arithmetic α) (x : α) : α := A.max A.zero x

def sigmoid (A : Arithmetic α) (x : α) : α := A.div A.one (A.add A.one (A.exp (A.neg x)))

def maximum (A : Arithmetic α) (first : α) (rest : List α) : α := rest.foldl A.max first

def sum (A : Arithmetic α) (xs : List α) : α := xs.foldl A.add A.zero

/-- The exponentials of the distances to the largest value, divided by their sum. -/
def softmax (A : Arithmetic α) : List α → Except Fault (List α)
  | [] => .error (.vector .emptySoftmax)
  | first :: rest =>
    let top := A.maximum first rest
    let powers := (first :: rest).map fun x => A.exp (A.sub x top)
    let total := A.sum powers
    .ok (powers.map fun e => A.div e total)

end Arithmetic

/-- Scans on from position `i`: the largest value so far and its position; only a strictly larger
    value takes over. -/
def argmaxFrom (lt : α → α → Bool) (best : α) (position : Nat) : Nat → List α → Nat
  | _, [] => position
  | i, x :: rest =>
    if lt best x then argmaxFrom lt x i (i + 1) rest else argmaxFrom lt best position (i + 1) rest

def argmax (lt : α → α → Bool) : List α → Except Fault Nat
  | [] => .error (.vector .emptyArgmax)
  | x :: rest => .ok (argmaxFrom lt x 0 1 rest)

/-- The duty cycle of a value: its part in the unit interval, times 255, rounded with halves up. -/
def pwmDuty (value : Datum) : Int :=
  let f := Format.binary64
  let scaled := f.add (f.mul value.clampUnit (f.ofInt 255)) (.finite false 1 (-1))
  (scaled.truncate?).getD 0

end DenseSketch
