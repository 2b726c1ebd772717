import DenseSketch.Number.Format

/-!
# The shortest decimal that reads back

A finite datum of a format is written with the fewest significant digits whose decimal reads back as
the same datum; of two candidates with equally many digits the nearer one is taken.  Positional
notation is used from 0.0001 up to below 10^16, exponents elsewhere.  The reals of a snapshot are
written like this.
-/

namespace DenseSketch

/-- The number of decimal digits before the point of `num / den`: the least `k` with
    `num / den < 10 ^ k`, searched downwards from `start` for at most `fuel` steps. -/
def pointFrom (num den : Nat) : Nat → Int → Int
  | 0, k => k
  | fuel + 1, k =>
    let below := k - 1
    if num * Nat.pow 10 (-below).toNat < den * Nat.pow 10 below.toNat then
      pointFrom num den fuel below
    else k

/-- The least `k` with `num / den < 10 ^ k`. -/
def decimalPoint (num den : Nat) : Int :=
  -- Three tenths of the binary exponent, rounded up on the safe side.
  let log := floorLog num den
  let start := if log < 0 then -((-log) * 3 / 10) + 1 else log * 31 / 100 + 2
  pointFrom num den ((Int.natAbs log) / 50 + 4) start

/-- A decimal significand and its exponent: `significand * 10 ^ exponent`. -/
structure Decimal where
  significand : Nat
  exponent : Int
  deriving DecidableEq, Repr

namespace Decimal

def toDatum (f : Format) (negative : Bool) (d : Decimal) : Datum :=
  f.ofDecimal negative d.significand d.exponent

/-- Drops trailing zeros of the significand, at most `fuel` of them. -/
def dropZeros : Nat → Decimal → Decimal
  | 0, d => d
  | fuel + 1, d =>
    if d.significand % 10 = 0 ∧ d.significand ≠ 0 then
      dropZeros fuel ⟨d.significand / 10, d.exponent + 1⟩
    else d

end Decimal

/-- The neighbours of a magnitude on the grid of `count` significant digits, nearer one first. -/
def gridNeighbours (m : Nat) (e : Int) (count : Nat) : List Decimal :=
  let num := Datum.numerator m e
  let den := Datum.denominator e
  let exponent := decimalPoint num den - count
  let scaledNum := num * Nat.pow 10 (-exponent).toNat
  let scaledDen := den * Nat.pow 10 exponent.toNat
  let low := scaledNum / scaledDen
  let rest := scaledNum % scaledDen
  let below : Decimal := ⟨low, exponent⟩
  let above : Decimal := ⟨low + 1, exponent⟩
  if rest = 0 then [below]
  else if 2 * rest < scaledDen ∨ (2 * rest = scaledDen ∧ low % 2 = 0) then [below, above]
  else [above, below]

def exactDecimal (m : Nat) (e : Int) : Decimal :=
  ⟨m * Nat.pow 2 e.toNat * Nat.pow 5 (-e).toNat, -((-e).toNat : Int)⟩

/-- The first decimal on the grids of `count`, `count + 1`, … digits that reads back; the exact one
    when `fuel` grids hold none. -/
def shortestFrom (f : Format) (m : Nat) (e : Int) : Nat → Nat → Decimal
  | 0, _ => exactDecimal m e
  | fuel + 1, count =>
    ((gridNeighbours m e count).find? fun d => d.toDatum f false == .finite false m e).getD
      (shortestFrom f m e fuel (count + 1))

/-- The shortest decimal that reads back as the magnitude `m * 2 ^ e` of the format. -/
def shortestDecimal (f : Format) (m : Nat) (e : Int) : Decimal :=
  (shortestFrom f m e 17 1).dropZeros 400

/-- Positional or exponent notation for a nonzero decimal. -/
def Decimal.text (d : Decimal) : List Char :=
  let digits := Nat.toDigits 10 d.significand
  let point : Int := digits.length + d.exponent
  if -4 < point ∧ point ≤ 16 then
    if point ≤ 0 then '0' :: '.' :: (List.replicate (-point).toNat '0' ++ digits)
    else
      let whole := digits.take point.toNat ++ List.replicate (point.toNat - digits.length) '0'
      let fraction := digits.drop point.toNat
      whole ++ '.' :: (if fraction.isEmpty then ['0'] else fraction)
  else
    let exponent := point - 1
    let fraction := match digits.drop 1 with
      | [] => []
      | rest => '.' :: rest
    let width := Nat.toDigits 10 exponent.natAbs
    digits.take 1 ++ fraction ++ 'e' :: (if exponent < 0 then '-' else '+') ::
      (List.replicate (2 - width.length) '0' ++ width)

/-- The text of a double: the shortest one that reads back. -/
def Datum.shortestText : Datum → List Char
  | .nan => "nan".toList
  | .infinite s => if s then "-inf".toList else "inf".toList
  | .finite s m e =>
    let body := if m = 0 then "0.0".toList else (shortestDecimal .binary64 m e).text
    if s then '-' :: body else body

example : (Format.binary64.nearest false 1 10).shortestText = "0.1".toList := by decide
example : (Format.binary64.nearest true 1 10000000).shortestText = "-1e-07".toList := by
  decide
example : (Format.binary64.ofInt (10 ^ 16)).shortestText = "1e+16".toList := by decide
example : (Format.binary64.ofInt (10 ^ 15)).shortestText = "1000000000000000.0".toList := by
  decide

end DenseSketch
