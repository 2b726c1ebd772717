/-!
# Floating-point data

A floating-point datum is a signed dyadic number, a signed infinity or not a number.  A finite
datum is kept in lowest terms, so a value of a narrow format is the same datum in a wider one and
widening is the identity.

Data are rounded by way of quotients.  A quotient that lies half-way between two integers goes where
the tie rule sends it.
-/

namespace DenseSketch

/-! ### Rounding a quotient -/

/-- Where a value goes that lies half-way between two neighbours. -/
inductive Tie where
  /-- To the even neighbour. -/
  | toEven
  /-- To the neighbour farther from zero. -/
  | awayFromZero
  deriving DecidableEq, Repr

/-- The integer nearest to `num / den`, a half going as `tie` says. -/
def roundQuotient (tie : Tie) (num den : Nat) : Nat :=
  let whole := num / den
  let twice := 2 * (num % den)
  if twice < den then whole
  else if den < twice then whole + 1
  else match tie with
    | .toEven => if whole % 2 = 0 then whole else whole + 1
    | .awayFromZero => whole + 1

example : roundQuotient .toEven 5 2 = 2 ∧ roundQuotient .awayFromZero 5 2 = 3 := by decide

/-- The exponent of the highest power of two that does not exceed `num / den`. -/
def floorLog (num den : Nat) : Int :=
  let guess : Int := (Nat.log2 num : Int) - (Nat.log2 den : Int)
  if den * Nat.pow 2 guess.toNat ≤ num * Nat.pow 2 (-guess).toNat then guess else guess - 1

/-! ### Data -/

/-- A floating-point datum; a finite one stands for `± mantissa * 2 ^ exponent`. -/
inductive Datum where
  | nan
  | infinite (negative : Bool)
  | finite (negative : Bool) (mantissa : Nat) (exponent : Int)
  deriving DecidableEq, Repr

namespace Datum

def zeroOf (negative : Bool) : Datum := .finite negative 0 0

def zero : Datum := .finite false 0 0

def one : Datum := .finite false 1 0

instance : Inhabited Datum := ⟨zero⟩

/-- Halves an even mantissa up to `fuel` times, raising the exponent each time. -/
def halve : Nat → Nat → Int → Nat × Int
  | 0, m, e => (m, e)
  | fuel + 1, m, e => if m % 2 = 0 then halve fuel (m / 2) (e + 1) else (m, e)

/-- The datum `± m * 2 ^ e` in lowest terms: an odd mantissa, or zero with exponent zero. -/
def ofDyadic (negative : Bool) (m : Nat) (e : Int) : Datum :=
  if m = 0 then zeroOf negative
  else
    let lowest := halve (Nat.log2 m) m e
    .finite negative lowest.1 lowest.2

def ofInt (n : Int) : Datum := ofDyadic (n < 0) n.natAbs 0

/-- Is the sign bit set? -/
def isNegative : Datum → Bool
  | .nan => false
  | .infinite s => s
  | .finite s _ _ => s

def isFinite : Datum → Bool
  | .finite .. => true
  | _ => false

def isNaN : Datum → Bool
  | .nan => true
  | _ => false

def isZero : Datum → Bool
  | .finite _ m _ => m == 0
  | _ => false

def numerator (m : Nat) (e : Int) : Nat := m * Nat.pow 2 e.toNat

def denominator (e : Int) : Nat := Nat.pow 2 (-e).toNat

/-- The mantissa with its sign, in units of `2 ^ unit` for a `unit` not above the exponent. -/
def scaled (negative : Bool) (m : Nat) (e unit : Int) : Int :=
  let n : Int := (m * Nat.pow 2 (e - unit).toNat : Nat)
  if negative then -n else n

/-- The order of two data; none when one of them is not a number.  Zeros of both signs are equal. -/
def compare? : Datum → Datum → Option Ordering
  | .nan, _ => none
  | _, .nan => none
  | .infinite s, .infinite t =>
    some (if s == t then .eq else if s then .lt else .gt)
  | .infinite s, .finite .. => some (if s then .lt else .gt)
  | .finite .., .infinite t => some (if t then .gt else .lt)
  | .finite s m e, .finite t n f =>
    let unit := min e f
    some (compare (scaled s m e unit) (scaled t n f unit))

/-- Is the first datum below the second?  Never when one of them is not a number. -/
def lt (a b : Datum) : Bool := compare? a b == some .lt

/-- Is the first datum at most the second?  Never when one of them is not a number. -/
def le (a b : Datum) : Bool :=
  match compare? a b with
  | some .lt | some .eq => true
  | _ => false

def neg : Datum → Datum
  | .nan => .nan
  | .infinite s => .infinite (!s)
  | .finite s m e => .finite (!s) m e

/-- The larger of two data; not a number when one of them is not. -/
def maxNaN (a b : Datum) : Datum :=
  if a.isNaN || b.isNaN then .nan else if lt a b then b else a

def minNaN (a b : Datum) : Datum :=
  if a.isNaN || b.isNaN then .nan else if lt b a then b else a

/-- The datum moved into the interval; what is not a number stays so. -/
def clip (low high x : Datum) : Datum := minNaN (maxNaN x low) high

/-- The datum moved into the unit interval, where zero stands for everything not above it and for
    what is not a number. -/
def clampUnit (x : Datum) : Datum :=
  let raised := if lt zero x then x else zero
  if lt raised one then raised else one

/-- The integer part of a finite datum, its fraction cut off. -/
def truncate? : Datum → Option Int
  | .finite s m e =>
    let n : Int := ((numerator m e / denominator e : Nat) : Int)
    some (if s then -n else n)
  | _ => none

def floor : Datum → Datum
  | .finite s m e =>
    if 0 ≤ e then .finite s m e
    else
      let d := denominator e
      ofDyadic s (if s && m % d != 0 then m / d + 1 else m / d) 0
  | x => x

/-- What is left of `x` when the largest multiple of `y` that is not farther from zero is taken
    away; it has the sign of `x` and is exact. -/
def truncatedRemainder (x y : Datum) : Datum :=
  match x, y with
  | .finite s m e, .finite _ n f =>
    if n = 0 then .nan
    else
      let unit := min e f
      ofDyadic s ((m * Nat.pow 2 (e - unit).toNat) % (n * Nat.pow 2 (f - unit).toNat)) unit
  | .finite s m e, .infinite _ => .finite s m e
  | _, _ => .nan

end Datum

end DenseSketch
