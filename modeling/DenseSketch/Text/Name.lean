import DenseSketch.Text.CharacterClass
import DenseSketch.Text.Name.Words
import DenseSketch.Text.Name.Further
import DenseSketch.Text.Name.Letters
import DenseSketch.Text.Name.Signs
import DenseSketch.Text.Name.EastAsia
import DenseSketch.Text.Name.Ancient
import DenseSketch.Text.Name.Pictures

/-!
# Names of characters

Every assigned character has a name, and some have further ones.  Most names stand in tables; those
of syllables and ideographs follow a rule.

A table lists its names in the order of the characters, with a semicolon or the end of a line
between two of them.  An `@` with a hexadecimal number names the character of the entry that
follows; without one it is the next character.  The first words of an entry are those of the entry
before: all but its last one, or as many as a number with a colon says.  A `+` repeats the entry
before with the last letter or digit counted up, as often as the number behind it says.  Frequent
words are written as two small letters.
-/

namespace DenseSketch.Text.Name

/-! ### Tables -/

/-- The two small letters for the frequent word at a position. -/
def abbreviationAt (position : Nat) : String :=
  String.ofList [Char.ofNat (97 + position / 26), Char.ofNat (97 + position % 26)]

def shortForm (word : String) : String :=
  match (frequentWords.flatMap (·.splitOn " ")).idxOf? word with
  | some position => abbreviationAt position
  | none => word

def hexValue? (c : Char) : Option Nat :=
  if '0' ≤ c && c ≤ '9' then some (c.toNat - 48)
  else if 'A' ≤ c && c ≤ 'F' then some (c.toNat - 55)
  else none

def hexNumber? (digits : List Char) : Option Nat := do
  let values ← digits.mapM hexValue?
  return values.foldl (fun n d => 16 * n + d) 0

def countedUp (steps : Nat) (word : String) : String :=
  match word.toList.reverse with
  | c :: front => String.ofList (front.reverse ++ [Char.ofNat (c.toNat + steps)])
  | [] => word

/-- A decimal number; an empty text counts as one. -/
def countOr (digits : List Char) (default : Nat) : Nat :=
  if digits.isEmpty then default
  else digits.foldl (fun n c => 10 * n + (c.toNat - 48)) 0

/-- The names of an entry, given the words of the entry before it. -/
def entryNames (previous : List String) (entry : String) : List (List String) :=
  match entry.toList with
  | '+' :: digits =>
    let last := previous.getLast?.getD ""
    (List.range (countOr digits 1)).map fun n => previous.dropLast ++ [countedUp (n + 1) last]
  | cs =>
    match cs.span (· != ':') with
    | (digits, _ :: own) =>
      [previous.take (countOr digits 0) ++ (String.ofList own).splitOn " "]
    | (own, []) => [previous.dropLast ++ (String.ofList own).splitOn " "]

/-- The code point in front of an entry, if it names one, and the entry itself. -/
def splitStart (entry : String) : Option Nat × String :=
  match entry.toList with
  | '@' :: cs =>
    match cs.span (· != ' ') with
    | (digits, _ :: own) => (hexNumber? digits, String.ofList own)
    | (digits, []) => (hexNumber? digits, "")
  | _ => (none, entry)

/-- Looks for a name, given as its words in short form, among the entries of a table.  `next` is the
    character of the first entry, and `previous` holds the words before it. -/
def search (name : List String) (next : Nat) (previous : List String) : List String → Option Nat
  | [] => none
  | entry :: rest =>
    let (start, entry) := splitStart entry
    let code := start.getD next
    let names := entryNames previous entry
    match names.idxOf? name with
    | some position => some (code + position)
    | none => search name (code + names.length) (names.getLast?.getD previous) rest

def inTables? (name : String) : Option Nat :=
  let short := (name.splitOn " ").map shortForm
  [letters, signs, eastAsia, ancient, pictures].findSome? fun table =>
    search short 0 [] (table.flatMap (·.splitOn ";"))

def further? (name : String) : Option Nat :=
  let isName (entry : String) : Bool :=
    String.ofList ((entry.toList.dropWhile (· != ' ')).drop 1) == name
  ((furtherNames.flatMap (·.splitOn ";")).find? isName).bind fun entry =>
    hexNumber? (entry.toList.takeWhile (· != ' '))

/-! ### Rules -/

/-- The names that end in the code point of the character: how they start, and whose they are. -/
def numberedFamilies : List (String × List CodeRange) :=
  [("CJK COMPATIBILITY IDEOGRAPH-", [(0xf900, 0xfa6d), (0xfa70, 0xfad9), (0x2f800, 0x2fa1d)]),
    ("KHITAN SMALL SCRIPT CHARACTER-", [(0x18b00, 0x18cd5)]),
    ("NUSHU CHARACTER-", [(0x1b170, 0x1b2fb)])]

def unifiedIdeographs : List CodeRange :=
  [(0x3400, 0x4dbf), (0x4e00, 0x9fff), (0x20000, 0x2a6df), (0x2a700, 0x2b738), (0x2b740, 0x2b81d),
    (0x2b820, 0x2cea1), (0x2ceb0, 0x2ebe0), (0x30000, 0x3134a)]

def isWithin (ranges : List CodeRange) (code : Nat) : Bool :=
  ranges.any fun r => r.1 ≤ code && code ≤ r.2

def behind? (start : String) (name : List Char) : Option (List Char) :=
  if start.toList.isPrefixOf name then some (name.drop start.length) else none

/-- The character with a name that ends in its code point, written with as few digits as it has. -/
def numbered? (name : List Char) : Option Nat :=
  numberedFamilies.findSome? fun family => do
    let digits ← behind? family.1 name
    let code ← hexNumber? digits
    if isWithin family.2 code && digits.length = (if code < 0x10000 then 4 else 5) then some code
    else none

/-- The unified ideograph with a name, which ends in four or five digits. -/
def ideograph? (digits : List Char) : Option Nat := do
  let code ← hexNumber? digits
  if isWithin unifiedIdeographs code && (digits.length = 4 || digits.length = 5) then some code
  else none

def leadingConsonants : List String :=
  ["G", "GG", "N", "D", "DD", "R", "M", "B", "BB", "S", "SS", "", "J", "JJ", "C", "K", "T", "P",
    "H"]

def vowels : List String :=
  ["A", "AE", "YA", "YAE", "EO", "E", "YEO", "YE", "O", "WA", "WAE", "OE", "YO", "U", "WEO", "WE",
    "WI", "YU", "EU", "YI", "I"]

def trailingConsonants : List String :=
  ["", "G", "GG", "GS", "N", "NJ", "NH", "D", "L", "LG", "LM", "LB", "LS", "LT", "LP", "LH", "M",
    "B", "BS", "S", "SS", "NG", "J", "C", "K", "T", "P", "H"]

/-- The position of the longest part that a text starts with, and what follows. -/
def longestPart? (parts : List String) (cs : List Char) : Option (Nat × List Char) :=
  let found := parts.zipIdx.filter fun p => p.1.toList.isPrefixOf cs
  let longest := found.foldl (fun best p =>
    match best with
    | some b => if b.1.length < p.1.length then some p else some b
    | none => some p) none
  longest.map fun p => (p.2, cs.drop p.1.length)

def syllable? (cs : List Char) : Option Nat := do
  let (first, cs) ← longestPart? leadingConsonants cs
  let (vowel, cs) ← longestPart? vowels cs
  let (last, cs) ← longestPart? trailingConsonants cs
  if cs.isEmpty then
    some (0xac00 + (first * vowels.length + vowel) * trailingConsonants.length + last)
  else none

/-- The variation selector with a short name: the first sixteen lie apart from the others. -/
def selector? (name : String) : Option Nat :=
  ((List.range 256).find? fun n => name == s!"VS{n + 1}").map fun n =>
    if n < 16 then 0xfe00 + n else 0xe0100 + (n - 16)

/-! ### All names -/

/-- The character with a name.  Capital and small letters are the same, except in the names of
    syllables and unified ideographs. -/
def find? (name : String) : Option Nat :=
  match behind? "HANGUL SYLLABLE " name.toList, behind? "CJK UNIFIED IDEOGRAPH-" name.toList with
  | some parts, _ => syllable? parts
  | none, some digits => ideograph? digits
  | none, none =>
    let capitals := name.toList.map Char.toUpper
    let name := String.ofList capitals
    (((numbered? capitals).or (selector? name)).or (further? name)).or (inTables? name)

end DenseSketch.Text.Name
