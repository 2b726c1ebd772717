import DenseSketch.Document.Basic
import DenseSketch.Number.Numeral

/-!
# Reading documents

The text form of a document is JSON with three more numbers: `NaN`, `Infinity` and `-Infinity`.  A
numeral with a fraction or an exponent is a real, any other one a whole number.  Of members with the
same key the last one counts, in the place of the first.  Snapshots are read with it (SPEC_FULL,
section 9.4).
-/

namespace DenseSketch.Document.Reader

def skip : List Char → List Char
  | [] => []
  | c :: rest => if c == ' ' || c == '\n' || c == '\r' || c == '\t' then skip rest else c :: rest

/-! ### Texts -/

/-- A piece of a text: a character, or a UTF-16 unit that was written as an escape. -/
inductive Piece where
  | char (c : Char)
  | unit (n : Nat)

def hexValue? (c : Char) : Option Nat :=
  if '0' ≤ c ∧ c ≤ '9' then some (c.toNat - 48)
  else if 'a' ≤ c ∧ c ≤ 'f' then some (c.toNat - 87)
  else if 'A' ≤ c ∧ c ≤ 'F' then some (c.toNat - 55)
  else none

def hexUnit? (a b c d : Char) : Option Nat := do
  let a ← hexValue? a
  let b ← hexValue? b
  let c ← hexValue? c
  let d ← hexValue? d
  some (((a * 16 + b) * 16 + c) * 16 + d)

def shortEscape? : Char → Option Char
  | '"' => some '"'
  | '\\' => some '\\'
  | '/' => some '/'
  | 'b' => some '\x08'
  | 'f' => some '\x0c'
  | 'n' => some '\n'
  | 'r' => some '\r'
  | 't' => some '\t'
  | _ => none

/-- The pieces of a text up to its closing quote, and what follows the quote. -/
def pieces : List Char → Option (List Piece × List Char)
  | [] => none
  | '"' :: rest => some ([], rest)
  | '\\' :: 'u' :: a :: b :: c :: d :: rest => do
    let n ← hexUnit? a b c d
    let (tail, rest) ← pieces rest
    some (.unit n :: tail, rest)
  | '\\' :: c :: rest => do
    let e ← shortEscape? c
    let (tail, rest) ← pieces rest
    some (.char e :: tail, rest)
  | c :: rest =>
    if c.toNat < 0x20 then none
    else do
      let (tail, rest) ← pieces rest
      some (.char c :: tail, rest)

def isHigh (n : Nat) : Bool := 0xd800 ≤ n && n < 0xdc00

def isLow (n : Nat) : Bool := 0xdc00 ≤ n && n < 0xe000

def pairChar (high low : Nat) : Char :=
  Char.ofNat (0x10000 + (high - 0xd800) * 0x400 + (low - 0xdc00))

/-- The characters of a text; two units that form a pair are one character, unless it is one that
    stands for a single surrogate. -/
def joined : List Piece → List Char
  | [] => []
  | .unit high :: .unit low :: rest =>
    if isHigh high && isLow low && (Text.surrogate? (pairChar high low)).isNone then
      pairChar high low :: joined rest
    else Text.charOf high :: joined (.unit low :: rest)
  | .unit n :: rest => Text.charOf n :: joined rest
  | .char c :: rest => c :: joined rest

def readText (cs : List Char) : Option (String × List Char) :=
  (pieces cs).map fun (found, rest) => (String.ofList (joined found), rest)

/-! ### Numbers -/

def isAsciiDigit (c : Char) : Bool := '0' ≤ c && c ≤ '9'

def digitsValue (digits : List Char) : Nat :=
  digits.foldl (fun value c => value * 10 + (c.toNat - 48)) 0

/-- The digits before the point; behind a zero at the start no others count. -/
def takeWhole : List Char → List Char
  | '0' :: _ => ['0']
  | cs => cs.takeWhile isAsciiDigit

def takeFraction : List Char → Option (List Char) × List Char
  | '.' :: c :: rest =>
    if isAsciiDigit c then
      (some (c :: rest.takeWhile isAsciiDigit), rest.dropWhile isAsciiDigit)
    else (none, '.' :: c :: rest)
  | cs => (none, cs)

def takeExponent (cs : List Char) : Option Int × List Char :=
  match cs with
  | mark :: rest =>
    if mark == 'e' || mark == 'E' then
      let (negative, body) : Bool × List Char := match rest with
        | '-' :: body => (true, body)
        | '+' :: body => (false, body)
        | body => (false, body)
      let digits := body.takeWhile isAsciiDigit
      if digits.isEmpty then (none, cs)
      else
        let n : Int := (digitsValue digits : Nat)
        (some (if negative then -n else n), body.dropWhile isAsciiDigit)
    else (none, cs)
  | [] => (none, cs)

/-- Reads a numeral behind its sign: no leading zeros. -/
def readNumber (negative : Bool) (cs : List Char) : Except Fault (Document × List Char) :=
  let whole := takeWhole cs
  if whole.isEmpty then .error .malformedDocument
  else
    let (fraction, rest) := takeFraction (cs.drop whole.length)
    let (exponent, rest) := takeExponent rest
    match fraction, exponent with
    | none, none =>
      if whole.length > Numeral.maxIntegerDigits then .error .badValue
      else
        let n : Int := (digitsValue whole : Nat)
        .ok (.integer (if negative then -n else n), rest)
    | _, _ =>
      let places := fraction.getD []
      let digits := digitsValue (whole ++ places)
      .ok (.real (Format.binary64.ofDecimal negative digits
        (exponent.getD 0 - places.length)), rest)

/-! ### Values -/

def expect (word : String) (value : Document) (cs : List Char) :
    Except Fault (Document × List Char) :=
  if word.toList.isPrefixOf cs then .ok (value, cs.drop word.length) else .error .malformedDocument

def readPlain (cs : List Char) : Except Fault (Document × List Char) :=
  match cs with
  | '"' :: rest =>
    match readText rest with
    | some (s, rest) => .ok (.text s, rest)
    | none => .error .malformedDocument
  | 'n' :: _ => expect "null" .null cs
  | 't' :: _ => expect "true" (.truth true) cs
  | 'f' :: _ => expect "false" (.truth false) cs
  | 'N' :: _ => expect "NaN" (.real .nan) cs
  | 'I' :: _ => expect "Infinity" (.real (.infinite false)) cs
  | '-' :: 'I' :: _ => expect "-Infinity" (.real (.infinite true)) cs
  | '-' :: rest => readNumber true rest
  | _ => readNumber false cs

mutual

/-- Reads a value from its first character on, at most `depth` levels deep.  Every step into a list
    or record and past an item uses fuel; one more than the length of the text is enough. -/
def readValue : Nat → Nat → List Char → Except Fault (Document × List Char)
  | 0, _, _ => .error .malformedDocument
  | _ + 1, 0, '[' :: _ => .error .tooDeep
  | _ + 1, 0, '\x7b' :: _ => .error .tooDeep
  | fuel + 1, depth + 1, '[' :: rest =>
    match skip rest with
    | ']' :: rest => .ok (.list [], rest)
    | rest =>
      match readItems fuel depth rest with
      | .ok (items, rest) => .ok (.list items, rest)
      | .error fault => .error fault
  | fuel + 1, depth + 1, '\x7b' :: rest =>
    match skip rest with
    | '\x7d' :: rest => .ok (.record [], rest)
    | rest =>
      match readMembers fuel depth rest with
      | .ok (members, rest) => .ok (.record (putAll [] members), rest)
      | .error fault => .error fault
  | _ + 1, _, cs => readPlain cs

def readItems : Nat → Nat → List Char → Except Fault (List Document × List Char)
  | 0, _, _ => .error .malformedDocument
  | fuel + 1, depth, cs =>
    match readValue fuel depth cs with
    | .error fault => .error fault
    | .ok (item, rest) =>
      match skip rest with
      | ']' :: rest => .ok ([item], rest)
      | ',' :: rest =>
        match readItems fuel depth (skip rest) with
        | .ok (items, rest) => .ok (item :: items, rest)
        | .error fault => .error fault
      | _ => .error .malformedDocument

def readMembers : Nat → Nat → List Char → Except Fault (List (String × Document) × List Char)
  | 0, _, _ => .error .malformedDocument
  | fuel + 1, depth, '"' :: cs =>
    match readText cs with
    | none => .error .malformedDocument
    | some (key, rest) =>
      match skip rest with
      | ':' :: rest =>
        match readValue fuel depth (skip rest) with
        | .error fault => .error fault
        | .ok (value, rest) =>
          match skip rest with
          | '\x7d' :: rest => .ok ([(key, value)], rest)
          | ',' :: rest =>
            match readMembers fuel depth (skip rest) with
            | .ok (members, rest) => .ok ((key, value) :: members, rest)
            | .error fault => .error fault
          | _ => .error .malformedDocument
      | _ => .error .malformedDocument
  | _ + 1, _, _ => .error .malformedDocument

end

end DenseSketch.Document.Reader

namespace DenseSketch.Document

/-- How deep lists and records may be nested in a text. -/
def maxNesting : Nat := 988

/-- Reads a text that holds one document and blanks around it. -/
def read (s : String) : Except Fault Document :=
  let cs := s.toList
  match Reader.readValue (cs.length + 1) maxNesting (Reader.skip cs) with
  | .error fault => .error fault
  | .ok (value, rest) =>
    match Reader.skip rest with
    | [] => .ok value
    | _ => .error .malformedDocument

end DenseSketch.Document
