/-!
# Classes of characters

A character class is a list of inclusive code-point ranges; membership is one pass over the list.
The blanks are those that are trimmed from both ends of a label or a name, and the slightly smaller
set that may surround a numeral.  The decimal digits are those of every script: each block of ten
starts at a zero and runs up to the nine of that script.  Data of the Unicode character database,
version 14.
-/

namespace DenseSketch.Text

/-! ### Ranges -/

/-- The characters from the first code point to the second, both included. -/
abbrev CodeRange := Nat × Nat

def CodeRange.covers (ranges : List CodeRange) (c : Char) : Bool :=
  ranges.any fun r => r.1 ≤ c.toNat && c.toNat ≤ r.2

/-! ### Blanks -/

/-- The white space of all scripts, with the four information separators U+001C to U+001F. -/
def blankRanges : List CodeRange :=
  [(0x9, 0xd), (0x1c, 0x20), (0x85, 0x85), (0xa0, 0xa0), (0x1680, 0x1680), (0x2000, 0x200a),
    (0x2028, 0x2029), (0x202f, 0x202f), (0x205f, 0x205f), (0x3000, 0x3000)]

/-- Is `c` trimmed from the ends of a text? -/
def isBlank (c : Char) : Bool :=
  CodeRange.covers blankRanges c

/-- Is `c` allowed around a numeral?  The information separators are not. -/
def isNumeralBlank (c : Char) : Bool :=
  isBlank c && !(0x1c ≤ c.toNat && c.toNat ≤ 0x1f)

def trim (drop : Char → Bool) (s : List Char) : List Char :=
  ((s.dropWhile drop).reverse.dropWhile drop).reverse

def strip (s : String) : String :=
  String.ofList (trim isBlank s.toList)

/-- The blanks of ASCII, six by name and the four separators, are all blank. -/
example : ("\t\n\x0b\x0c\r \x1c\x1d\x1e\x1f".toList.all isBlank) = true := by decide

/-! ### Decimal digits -/

def digitZeros : List Nat :=
  [
    0x30, 0x660, 0x6f0, 0x7c0, 0x966, 0x9e6, 0xa66, 0xae6, 0xb66, 0xbe6, 0xc66, 0xce6, 0xd66,
    0xde6, 0xe50, 0xed0, 0xf20, 0x1040, 0x1090, 0x17e0, 0x1810, 0x1946, 0x19d0, 0x1a80, 0x1a90,
    0x1b50, 0x1bb0, 0x1c40, 0x1c50, 0xa620, 0xa8d0, 0xa900, 0xa9d0, 0xa9f0, 0xaa50, 0xabf0, 0xff10,
    0x104a0, 0x10d30, 0x11066, 0x110f0, 0x11136, 0x111d0, 0x112f0, 0x11450, 0x114d0, 0x11650,
    0x116c0, 0x11730, 0x118e0, 0x11950, 0x11c50, 0x11d50, 0x11da0, 0x16a60, 0x16ac0, 0x16b50,
    0x1d7ce, 0x1d7d8, 0x1d7e2, 0x1d7ec, 0x1d7f6, 0x1e140, 0x1e2f0, 0x1e950, 0x1fbf0]

def digitValue? (c : Char) : Option Nat :=
  (digitZeros.find? fun z => z ≤ c.toNat && c.toNat < z + 10).map (c.toNat - ·)

def isDigit (c : Char) : Bool :=
  (digitValue? c).isSome

end DenseSketch.Text
