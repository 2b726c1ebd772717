import DenseSketch.Number.Datum

/-!
# Binary formats and correctly rounded arithmetic

A format fixes how many bits a mantissa has and which exponents exist.  Every operation is the exact
rational operation followed by one rounding to the nearest datum of the format, ties to the even
mantissa; past the largest datum lies infinity.
-/

namespace DenseSketch

/-- A binary floating-point format: the data `m * 2 ^ e` with `m < 2 ^ precision` and
    `minExponent ≤ e ≤ maxExponent`. -/
structure Format where
  precision : Nat
  minExponent : Int
  maxExponent : Int

namespace Format

def binary32 : Format := ⟨24, -149, 104⟩

def binary64 : Format := ⟨53, -1074, 971⟩

/-- The datum nearest to `± num / den`. -/
def nearest (f : Format) (negative : Bool) (num den : Nat) : Datum :=
  if num = 0 then .zeroOf negative
  else
    let unit := max (floorLog num den - (f.precision - 1 : Nat)) f.minExponent
    let mantissa :=
      roundQuotient .toEven (num * Nat.pow 2 (-unit).toNat) (den * Nat.pow 2 unit.toNat)
    if unit > f.maxExponent || (unit == f.maxExponent && mantissa == Nat.pow 2 f.precision) then
      .infinite negative
    else .ofDyadic negative mantissa unit

def ofDyadic (f : Format) (negative : Bool) (m : Nat) (e : Int) : Datum :=
  f.nearest negative (Datum.numerator m e) (Datum.denominator e)

def round (f : Format) : Datum → Datum
  | .finite s m e => f.ofDyadic s m e
  | x => x

def ofInt (f : Format) (n : Int) : Datum :=
  f.nearest (n < 0) n.natAbs 1

/-- The datum nearest to `± digits * 10 ^ exponent`.  Exponents far outside every format are
    answered without writing the number out. -/
def ofDecimal (f : Format) (negative : Bool) (digits : Nat) (exponent : Int) : Datum :=
  if digits = 0 then .zeroOf negative
  else
    let magnitude : Int := exponent + ((Nat.log2 digits : Int) * 3 / 10)
    if magnitude > 400 then .infinite negative
    else if exponent + (Nat.log2 digits : Int) < -400 then .zeroOf negative
    else f.nearest negative (digits * Nat.pow 10 exponent.toNat) (Nat.pow 10 (-exponent).toNat)

/-- The sum.  Opposite infinities have none; an exact zero is negative only if both terms are. -/
def add (f : Format) : Datum → Datum → Datum
  | .nan, _ => .nan
  | _, .nan => .nan
  | .infinite s, .infinite t => if s == t then .infinite s else .nan
  | .infinite s, .finite .. => .infinite s
  | .finite .., .infinite t => .infinite t
  | .finite s m e, .finite t n g =>
    let unit := min e g
    let sum := Datum.scaled s m e unit + Datum.scaled t n g unit
    if sum = 0 then .zeroOf (s && t) else f.ofDyadic (sum < 0) sum.natAbs unit

def sub (f : Format) (a b : Datum) : Datum := f.add a b.neg

/-- The product.  Zero times infinity is not a number. -/
def mul (f : Format) : Datum → Datum → Datum
  | .nan, _ => .nan
  | _, .nan => .nan
  | .infinite s, .infinite t => .infinite (s != t)
  | .infinite s, .finite t n _ => if n = 0 then .nan else .infinite (s != t)
  | .finite s m _, .infinite t => if m = 0 then .nan else .infinite (s != t)
  | .finite s m e, .finite t n g => f.ofDyadic (s != t) (m * n) (e + g)

/-- The quotient.  Zero by zero and infinity by infinity are not numbers. -/
def div (f : Format) : Datum → Datum → Datum
  | .nan, _ => .nan
  | _, .nan => .nan
  | .infinite _, .infinite _ => .nan
  | .infinite s, .finite t _ _ => .infinite (s != t)
  | .finite s _ _, .infinite t => .zeroOf (s != t)
  | .finite s m e, .finite t n g =>
    if n = 0 then if m = 0 then .nan else .infinite (s != t)
    else
      let shift := e - g
      f.nearest (s != t) (Datum.numerator m shift) (n * Datum.denominator shift)

end Format

/-- A tenth in single precision. -/
example : Format.binary32.nearest false 1 10 = .finite false 13421773 (-27) := by decide

/-- The sum of a tenth and two tenths in double precision is not three tenths. -/
example : Format.binary64.add (Format.binary64.nearest false 1 10)
    (Format.binary64.nearest false 2 10) ≠ Format.binary64.nearest false 3 10 := by decide

end DenseSketch
