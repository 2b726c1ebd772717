import DenseSketch.Fault
import DenseSketch.Number.Numeral

/-!
# Literals

The values that a literal can denote, how they are shown, and when two of them are the same key.
Whole numbers, reals, complex numbers and truth values are one domain of numbers: equal numbers are
the same key whatever their kind.
-/

namespace DenseSketch

/-- A value that is written as a literal. -/
inductive Literal where
  | nothing
  | ellipsis
  | truth (value : Bool)
  | integer (value : Int)
  | real (value : Datum)
  | complex (realPart imaginaryPart : Datum)
  | text (value : String)
  | bytes (values : List UInt8)
  | tuple (items : List Literal)
  | list (items : List Literal)
  | set (items : List Literal)
  | dictionary (entries : List (Literal × Literal))
  deriving Repr, Inhabited

namespace Literal

/-! ### Showing -/

def byteChars (quote : Char) (b : UInt8) : List Char :=
  let c := Char.ofNat b.toNat
  if c == quote || c == '\\' then ['\\', c]
  else if c == '\n' then ['\\', 'n']
  else if c == '\r' then ['\\', 'r']
  else if c == '\t' then ['\\', 't']
  else if 0x20 ≤ b.toNat ∧ b.toNat < 0x7f then [c]
  else '\\' :: 'x' :: Text.hexDigits 2 b.toNat

def bytesText (values : List UInt8) : String :=
  let quote := Text.quoteFor (values.map fun b => Char.ofNat b.toNat)
  "b" ++ String.ofList (quote :: values.flatMap (byteChars quote) ++ [quote])

/-- A part of a complex number: a whole one without its fraction. -/
def partChars (x : Datum) : List Char :=
  let chars := x.shortestText
  if ".0".toList.isSuffixOf chars then chars.take (chars.length - 2) else chars

/-- A complex number; a real part of positive zero is left out. -/
def complexText (realPart imaginaryPart : Datum) : String :=
  let imaginary := String.ofList (partChars imaginaryPart) ++ "j"
  if realPart = .zero then imaginary
  else
    let sign := if imaginaryPart.isNegative then "" else "+"
    s!"({String.ofList (partChars realPart)}{sign}{imaginary})"

/-- The members of a set, of which an empty one has no braces. -/
def setText (items : List String) : String :=
  if items.isEmpty then "set()" else "\x7b" ++ commaSeparated items ++ "\x7d"

mutual

def shown : Literal → String
  | .nothing => "None"
  | .ellipsis => "Ellipsis"
  | .truth b => if b then "True" else "False"
  | .integer n => toString n
  | .real x => String.ofList x.shortestText
  | .complex a b => complexText a b
  | .text s => Text.quoted s
  | .bytes values => bytesText values
  | .tuple items => tupleText (shownItems items)
  | .list items => "[" ++ commaSeparated (shownItems items) ++ "]"
  | .set items => setText (shownItems items)
  | .dictionary entries => "\x7b" ++ commaSeparated (shownEntries entries) ++ "\x7d"

def shownItems : List Literal → List String
  | [] => []
  | item :: rest => shown item :: shownItems rest

def shownEntries : List (Literal × Literal) → List String
  | [] => []
  | (key, value) :: rest => (shown key ++ ": " ++ shown value) :: shownEntries rest

end

mutual

/-- Is there a whole number in the value that has too many digits to be shown? -/
def isOversized : Literal → Bool
  | .integer n => Nat.pow 10 Numeral.maxIntegerDigits ≤ n.natAbs
  | .tuple items => anyOversized items
  | .list items => anyOversized items
  | .set items => anyOversized items
  | .dictionary entries => anyEntryOversized entries
  | _ => false

def anyOversized : List Literal → Bool
  | [] => false
  | item :: rest => isOversized item || anyOversized rest

def anyEntryOversized : List (Literal × Literal) → Bool
  | [] => false
  | (key, value) :: rest => isOversized key || isOversized value || anyEntryOversized rest

end

/-- The value in literal notation, if it can be shown. -/
def shownOrFault (value : Literal) : Except Fault String :=
  if value.isOversized then .error .badValue else .ok value.shown

/-! ### Keys -/

def number? : Literal → Option (Datum × Datum)
  | .truth b => some (if b then .one else .zero, .zero)
  | .integer n => some (.ofInt n, .zero)
  | .real x => some (x, .zero)
  | .complex a b => some (a, b)
  | _ => none

/-- Are two numbers equal?  Zeros of both signs are. -/
def sameNumber (x y : Datum × Datum) : Bool :=
  Datum.compare? x.1 y.1 == some .eq && Datum.compare? x.2 y.2 == some .eq

mutual

def sameKey : Literal → Literal → Bool
  | .nothing, .nothing => true
  | .ellipsis, .ellipsis => true
  | .text s, .text t => s == t
  | .bytes a, .bytes b => a == b
  | .tuple xs, .tuple ys => sameKeys xs ys
  | a, b =>
    match number? a, number? b with
    | some x, some y => sameNumber x y
    | _, _ => false

def sameKeys : List Literal → List Literal → Bool
  | [], [] => true
  | x :: xs, y :: ys => sameKey x y && sameKeys xs ys
  | _, _ => false

end

mutual

/-- Can the value be a key?  One that holds a list, a set or a dictionary cannot. -/
def isKey : Literal → Bool
  | .list _ => false
  | .set _ => false
  | .dictionary _ => false
  | .tuple items => areKeys items
  | _ => true

def areKeys : List Literal → Bool
  | [] => true
  | item :: rest => isKey item && areKeys rest

end

def insert (value : Literal) (items : List Literal) : Except Fault (List Literal) :=
  if !value.isKey then .error .wrongType
  else if items.any (sameKey · value) then .ok items
  else .ok (items ++ [value])

/-- Puts a value under a key that is there already, or adds both. -/
def replace (key value : Literal) : List (Literal × Literal) → List (Literal × Literal)
  | [] => [(key, value)]
  | (k, v) :: rest =>
    if sameKey k key then (k, value) :: rest else (k, v) :: replace key value rest

def assign (key value : Literal) (entries : List (Literal × Literal)) :
    Except Fault (List (Literal × Literal)) :=
  if key.isKey then .ok (replace key value entries) else .error .wrongType

def tableSize (count : Nat) : Nat :=
  if count ≤ 4 then 8 else if count ≤ 18 then 32 else if count ≤ 76 then 128 else 512

/-- The place of a whole number in a table of `size` places. -/
def place? (size : Nat) : Literal → Option Int
  | .truth b => some (if b then 1 else 0)
  | .integer n => some ((if n = -1 then -2 else n) % size)
  | _ => none

/-- The members of a set in the order in which they are shown: whole numbers by their places. -/
def arranged (items : List Literal) : List Literal :=
  let size := tableSize items.length
  items.mergeSort fun a b =>
    match place? size a, place? size b with
    | some i, some j => decide (i ≤ j)
    | _, _ => true

example : (Literal.dictionary [(.text "k", .tuple [.integer 1])]).shown = "\x7b'k': (1,)\x7d" := by
  decide

end Literal

end DenseSketch
