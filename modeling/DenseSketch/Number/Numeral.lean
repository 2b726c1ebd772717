import DenseSketch.Number.Format
import DenseSketch.Text.CharacterClass

/-!
# Reading numerals

Whole numbers and reals as people type them: blanks around, a sign, decimal digits of any script,
single underscores between digits.  A real may be an infinity or not a number by name.
-/

namespace DenseSketch.Numeral

open Text

/-- The digits that continue a numeral, each one possibly after an underscore, and what follows. -/
def digitsAfter : List Char → List Nat × List Char
  | [] => ([], [])
  | '_' :: c :: rest =>
    match digitValue? c with
    | some d =>
      let tail := digitsAfter rest
      (d :: tail.1, tail.2)
    | none => ([], '_' :: c :: rest)
  | c :: rest =>
    match digitValue? c with
    | some d =>
      let tail := digitsAfter rest
      (d :: tail.1, tail.2)
    | none => ([], c :: rest)

/-- The digits at the start of a text, single underscores between two of them passed over, and what
    follows. -/
def digitRun : List Char → List Nat × List Char
  | [] => ([], [])
  | c :: rest =>
    match digitValue? c with
    | some d =>
      let tail := digitsAfter rest
      (d :: tail.1, tail.2)
    | none => ([], c :: rest)

def digitsValue (digits : List Nat) : Nat :=
  digits.foldl (fun value d => value * 10 + d) 0

def takeSign : List Char → Bool × List Char
  | '-' :: rest => (true, rest)
  | '+' :: rest => (false, rest)
  | rest => (false, rest)

/-- The longest numeral that a whole number is written as and read from. -/
def maxIntegerDigits : Nat := 4300

def readInt? (s : String) : Option Int :=
  let (negative, rest) := takeSign (trim isNumeralBlank s.toList)
  match digitRun rest with
  | ([], _) => none
  | (digits, []) =>
    if digits.length > maxIntegerDigits then none
    else
      let n : Int := (digitsValue digits : Nat)
      some (if negative then -n else n)
  | (_, _ :: _) => none

/-- Reads an exponent part, if the text has one; none if it is broken or followed by more. -/
def readExponent? : List Char → Option Int
  | [] => some 0
  | c :: rest =>
    if c == 'e' || c == 'E' then
      let (negative, rest) := takeSign rest
      match digitRun rest with
      | ([], _) => none
      | (digits, []) =>
        let n : Int := (digitsValue digits : Nat)
        some (if negative then -n else n)
      | (_, _ :: _) => none
    else none

/-- Reads an unsigned decimal: digits, a fraction and an exponent, at least one digit before the
    exponent. -/
def readDecimal? (f : Format) (negative : Bool) (cs : List Char) : Option Datum :=
  let (whole, rest) := digitRun cs
  let (fraction, rest) := match rest with
    | '.' :: rest => digitRun rest
    | rest => ([], rest)
  if whole.isEmpty && fraction.isEmpty then none
  else (readExponent? rest).map fun exponent =>
    f.ofDecimal negative (digitsValue (whole ++ fraction)) (exponent - fraction.length)

def readReal? (s : String) : Option Datum :=
  let (negative, rest) := takeSign (trim isNumeralBlank s.toList)
  let name := rest.map Char.toLower
  if name == "inf".toList || name == "infinity".toList then some (.infinite negative)
  else if name == "nan".toList then some .nan
  else readDecimal? .binary64 negative rest

example : readInt? " 1_000\n" = some 1000 ∧ readInt? "1__0" = none ∧ readInt? "-٣" = some (-3) := by
  decide
example : readReal? "-.5e1" = some (.finite true 5 0) ∧ readReal? "." = none := by decide

end DenseSketch.Numeral
