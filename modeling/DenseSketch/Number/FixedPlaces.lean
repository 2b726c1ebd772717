import DenseSketch.Number.Datum

/-!
# Decimal text with a fixed number of places

The exact binary value is rounded once, to a whole number of units of the last place, and the units
are written out in decimal.  The literals of flash tables (SPEC_FULL, section 4.4) and the fields of
messages (section 4.3) are written like this.
-/

namespace DenseSketch

/-- The last `width` decimal digits of `n`, leading zeros included. -/
def lastDigits : Nat → Nat → List Char
  | 0, _ => []
  | width + 1, n => lastDigits width (n / 10) ++ [Nat.digitChar (n % 10)]

theorem length_lastDigits (width n : Nat) : (lastDigits width n).length = width := by
  induction width generalizing n with
  | zero => rfl
  | succ width ih => simp [lastDigits, ih]

/-- The decimal text of `units / 10 ^ places`. -/
def placedText (places units : Nat) : List Char :=
  Nat.toDigits 10 (units / Nat.pow 10 places) ++ '.' :: lastDigits places units

/-- How a number is written with a fixed number of places. -/
structure FixedStyle where
  /-- Digits after the point, at least one. -/
  places : Nat
  /-- Where a value half-way between two units goes. -/
  tie : Tie
  /-- Is a minus sign kept where every digit is zero? -/
  signedZero : Bool

namespace FixedStyle

def units (style : FixedStyle) (m : Nat) (e : Int) : Nat :=
  roundQuotient style.tie (Datum.numerator m e * Nat.pow 10 style.places) (Datum.denominator e)

def text (style : FixedStyle) : Datum → List Char
  | .nan => "nan".toList
  | .infinite s => if s then "-inf".toList else "inf".toList
  | .finite s m e =>
    let units := style.units m e
    let body := placedText style.places units
    if s && (style.signedZero || units != 0) then '-' :: body else body

end FixedStyle

example : (FixedStyle.text ⟨2, .toEven, true⟩ (.finite true 5 (-3))) = "-0.62".toList := by decide
example :
    FixedStyle.text ⟨6, .awayFromZero, false⟩ (.finite false 1 (-7)) = "0.007813".toList := by
  decide

end DenseSketch
