import DenseSketch.Document.Basic
import DenseSketch.Text.Quoted

/-!
# Writing documents

The canonical text of a document: members in the order of their keys, one item or member a line, two
blanks of indentation a level, ASCII only.  Snapshots are written in this form (SPEC_FULL, section
9.4).
-/

namespace DenseSketch.Document.Writer

def escapedUnit (n : Nat) : List Char :=
  '\\' :: 'u' :: Text.hexDigits 4 n

def escaped (c : Char) : List Char :=
  if c == '"' then ['\\', '"']
  else if c == '\\' then ['\\', '\\']
  else if c == '\n' then ['\\', 'n']
  else if c == '\r' then ['\\', 'r']
  else if c == '\t' then ['\\', 't']
  else if c == '\x08' then ['\\', 'b']
  else if c == '\x0c' then ['\\', 'f']
  else if 0x20 ≤ c.toNat ∧ c.toNat < 0x7f then [c]
  else if c.toNat < 0x10000 then escapedUnit c.toNat
  else if let some n := Text.surrogate? c then escapedUnit n
  else
    escapedUnit (0xd800 + (c.toNat - 0x10000) / 0x400) ++
      escapedUnit (0xdc00 + (c.toNat - 0x10000) % 0x400)

def textChars (s : String) : List Char :=
  '"' :: (s.toList.flatMap escaped ++ ['"'])

def realChars : Datum → List Char
  | .nan => "NaN".toList
  | .infinite s => if s then "-Infinity".toList else "Infinity".toList
  | x => x.shortestText

def newLine (depth : Nat) : List Char :=
  '\n' :: List.replicate (2 * depth) ' '

mutual

/-- The text of a document whose first line stands at a depth. -/
def chars (depth : Nat) : Document → List Char
  | .null => "null".toList
  | .truth b => if b then "true".toList else "false".toList
  | .integer n => (toString n).toList
  | .real x => realChars x
  | .text s => textChars s
  | .list [] => ['[', ']']
  | .list (item :: rest) =>
    '[' :: newLine (depth + 1) ++ chars (depth + 1) item ++ moreItems (depth + 1) rest ++
      newLine depth ++ [']']
  | .record [] => ['\x7b', '\x7d']
  | .record ((key, value) :: rest) =>
    '\x7b' :: newLine (depth + 1) ++ textChars key ++ ':' :: ' ' :: chars (depth + 1) value ++
      moreMembers (depth + 1) rest ++ newLine depth ++ ['\x7d']

def moreItems (depth : Nat) : List Document → List Char
  | [] => []
  | item :: rest => ',' :: newLine depth ++ chars depth item ++ moreItems depth rest

def moreMembers (depth : Nat) : List (String × Document) → List Char
  | [] => []
  | (key, value) :: rest =>
    ',' :: newLine depth ++ textChars key ++ ':' :: ' ' :: chars depth value ++
      moreMembers depth rest

end

end DenseSketch.Document.Writer

namespace DenseSketch.Document

/-- The document's text, members in the order in which they stand. -/
def write (d : Document) : String :=
  String.ofList (Writer.chars 0 d)

def canonical (d : Document) : String :=
  d.sorted.write

example : write (.record [("a", .list [.integer 1, .null])]) =
    "\x7b\n  \"a\": [\n    1,\n    null\n  ]\n\x7d" := by decide

end DenseSketch.Document
