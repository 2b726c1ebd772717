import DenseSketch.Text.Name
import DenseSketch.Text.Basic

/-!
# Escapes

Inside of quotes a backslash and what follows it stand for one character: by a letter, by its code
point in octal or hexadecimal digits, or by its name.  A backslash that starts no escape stands for
itself.
-/

namespace DenseSketch.Literal

open Text

/-! ### Digits -/

def isDigit (c : Char) : Bool := '0' ≤ c && c ≤ '9'

def digitOf? (c : Char) : Option Nat :=
  if '0' ≤ c ∧ c ≤ '9' then some (c.toNat - 48)
  else if 'a' ≤ c ∧ c ≤ 'f' then some (c.toNat - 87)
  else if 'A' ≤ c ∧ c ≤ 'F' then some (c.toNat - 55)
  else none

def digitBelow? (base : Nat) (c : Char) : Option Nat :=
  (digitOf? c).filter (· < base)

def valueIn (base : Nat) (digits : List Nat) : Nat :=
  digits.foldl (fun value d => value * base + d) 0

namespace Escape

/-! ### Kinds of escapes -/

def short? : Char → Option Char
  | '\\' => some '\\'
  | '\'' => some '\''
  | '"' => some '"'
  | 'a' => some '\x07'
  | 'b' => some '\x08'
  | 'f' => some '\x0c'
  | 'n' => some '\n'
  | 'r' => some '\r'
  | 't' => some '\t'
  | 'v' => some '\x0b'
  | _ => none

/-- The number that up to three octal digits denote, and how many there are. -/
def octal? (cs : List Char) : Option (Nat × Nat) :=
  match ((cs.take 3).takeWhile fun c => (digitBelow? 8 c).isSome).filterMap (digitBelow? 8) with
  | [] => none
  | digits => some (valueIn 8 digits, digits.length)

def hexadecimal? (count : Nat) (cs : List Char) : Option Nat := do
  let digits ← (cs.take count).mapM (digitBelow? 16)
  let n := valueIn 16 digits
  if digits.length = count && n ≤ 0x10ffff then some n else none

/-- The code point of the character that is named in braces at the start, and how many characters
    that takes. -/
def named? : List Char → Option (Nat × Nat)
  | '\x7b' :: cs =>
    let name := cs.takeWhile (· != '\x7d')
    if name.length < cs.length then
      (Name.find? (String.ofList name)).map fun code => (code, name.length + 2)
    else none
  | _ => none

/-- The code of a long escape by its mark, and the number of characters behind the mark; none where
    the mark opens no long escape.  Bytes know only the shortest one. -/
def long? (isBytes : Bool) (mark : Char) (rest : List Char) : Option (Option (Nat × Nat)) :=
  let digits (count : Nat) := some ((hexadecimal? count rest).map fun n => (n, count))
  if mark == 'x' then digits 2
  else if isBytes then none
  else if mark == 'u' then digits 4
  else if mark == 'U' then digits 8
  else if mark == 'N' then some (named? rest)
  else none

/-! ### All of a text -/

/-- Resolves the escapes of a text; none if one is malformed.  Each step uses fuel; the length of
    the text is enough. -/
def resolveWithin (isBytes : Bool) : Nat → List Char → Option (List Char)
  | _, [] => some []
  | 0, _ => none
  | fuel + 1, '\\' :: c :: rest => do
    if c == '\n' then resolveWithin isBytes fuel rest
    else
      match short? c with
      | some e => return e :: (← resolveWithin isBytes fuel rest)
      | none =>
        match octal? (c :: rest) with
        | some (n, count) =>
          let code := if isBytes then n % 256 else n
          return Char.ofNat code :: (← resolveWithin isBytes fuel (rest.drop (count - 1)))
        | none =>
          match long? isBytes c rest with
          | some none => none
          | some (some (n, count)) =>
            return charOf n :: (← resolveWithin isBytes fuel (rest.drop count))
          | none => return '\\' :: c :: (← resolveWithin isBytes fuel rest)
  | fuel + 1, c :: rest => do return c :: (← resolveWithin isBytes fuel rest)

def resolve? (isBytes : Bool) (cs : List Char) : Option (List Char) :=
  resolveWithin isBytes cs.length cs

example : resolve? false "\\x41\\u0042\\103".toList = some "ABC".toList := by decide

end Escape

end DenseSketch.Literal
