import DenseSketch.Document.Basic
import DenseSketch.Number.Numeral

/-!
# Documents as numbers

Where a number is expected, a truth value counts as zero or one, a text is read as a numeral and a
real is cut off to a whole number.
-/

namespace DenseSketch.Document

def toInt : Document → Except Fault Int
  | .integer n => .ok n
  | .truth b => .ok (if b then 1 else 0)
  | .real (.infinite _) => .error .overflow
  | .real x =>
    match x.truncate? with
    | some n => .ok n
    | none => .error .badValue
  | .text s =>
    match Numeral.readInt? s with
    | some n => .ok n
    | none => .error .badValue
  | _ => .error .wrongType

/-- A whole number as a double; the largest double bounds it. -/
def realOfInt (n : Int) : Except Fault Datum :=
  let x := Format.binary64.ofInt n
  if x.isFinite then .ok x else .error .overflow

def toReal : Document → Except Fault Datum
  | .integer n => realOfInt n
  | .truth b => .ok (if b then .one else .zero)
  | .real x => .ok x
  | .text s =>
    match Numeral.readReal? s with
    | some x => .ok x
    | none => .error .badValue
  | _ => .error .wrongType

/-- The document as a number that is already one: no texts are read. -/
def toNumber : Document → Except Fault Datum
  | .text _ => .error .wrongType
  | other => other.toReal

mutual

/-- Numeric data, in which three texts stand for reals that are no numbers. -/
def numeric : Document → Document
  | .text s =>
    if s == "NaN" then .real .nan
    else if s == "Infinity" then .real (.infinite false)
    else if s == "-Infinity" then .real (.infinite true)
    else .text s
  | .list items => .list (numericItems items)
  | d => d

def numericItems : List Document → List Document
  | [] => []
  | item :: rest => numeric item :: numericItems rest

end

end DenseSketch.Document
