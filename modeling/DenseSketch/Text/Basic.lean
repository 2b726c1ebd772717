/-!
# Texts

A file is a list of lines; each line of its text ends with a line feed.  A line is a list of words.

A surrogate is half of a pair of UTF-16 units.  One that stands alone is no character, yet texts
that come from outside may hold some.  Each one is kept as the private character that lies 0x100000
above it; written out, it becomes the surrogate again.  These private characters, U+10D800 to
U+10DFFF, are not kept apart from the surrogates: a text that holds one of them itself is taken as
one with a single surrogate.
-/

namespace DenseSketch.Text

/-! ### Lines and words -/

def unlines (lines : List String) : String :=
  String.join (lines.map (· ++ "\n"))

/-- The items in groups of `size`, the last group perhaps smaller. -/
def chunks {α : Type} (size : Nat) : List α → List (List α)
  | [] => []
  | x :: rest => (x :: rest.take (size - 1)) :: chunks size (rest.drop (size - 1))
termination_by xs => xs.length
decreasing_by simp only [List.length_cons, List.length_drop]; omega

theorem flatten_chunks {α : Type} (size : Nat) (xs : List α) : (chunks size xs).flatten = xs := by
  fun_induction chunks size xs with
  | case1 => rfl
  | case2 x rest ih => simp [ih]

def words (s : String) : List String :=
  (s.splitOn " ").filter (· != "")

/-! ### Single surrogates -/

def surrogateOffset : Nat := 0x100000

def isSurrogate (n : Nat) : Bool := 0xd800 ≤ n && n ≤ 0xdfff

/-- The character of a code point; a surrogate has its stand-in. -/
def charOf (n : Nat) : Char :=
  Char.ofNat (if isSurrogate n then surrogateOffset + n else n)

def surrogate? (c : Char) : Option Nat :=
  if surrogateOffset ≤ c.toNat && isSurrogate (c.toNat - surrogateOffset) then
    some (c.toNat - surrogateOffset)
  else none

/-- The code point of a character, or the surrogate that it stands for. -/
def codeOf (c : Char) : Nat := (surrogate? c).getD c.toNat

/-- Is the first text below the second, code point by code point? -/
def isBelow (s t : String) : Bool := decide (s.toList.map codeOf < t.toList.map codeOf)

/-- Can the text be encoded?  A single surrogate has no encoding. -/
def isEncodable (s : String) : Bool := s.toList.all fun c => (surrogate? c).isNone

example : surrogate? (charOf 0xd800) = some 0xd800 := by decide

/-- A single surrogate stands before the characters behind the surrogates. -/
example : isBelow (String.ofList [charOf 0xd800]) "\uffff" := by decide

end DenseSketch.Text
