import DenseSketch.Document.Basic
import DenseSketch.Number.Numeral

/-!
# Documents in messages

How a value is shown inside a message or a generated file: a text as it is, everything else in
literal notation, where texts stand in quotes.

A whole number with more digits than the limit for numerals cannot be written into a document.  In
messages and in generated files the limit is left out: there such a number is shown like any other.
-/

namespace DenseSketch.Document

mutual

def literal : Document → String
  | .null => "None"
  | .truth b => if b then "True" else "False"
  | .integer n => toString n
  | .real x => String.ofList x.shortestText
  | .text s => Text.quoted s
  | .list items => "[" ++ commaSeparated (literalItems items) ++ "]"
  | .record members => "\x7b" ++ commaSeparated (literalMembers members) ++ "\x7d"

def literalItems : List Document → List String
  | [] => []
  | item :: rest => literal item :: literalItems rest

/-- The members in literal notation, key and value separated by a colon. -/
def literalMembers : List (String × Document) → List String
  | [] => []
  | (key, value) :: rest => (Text.quoted key ++ ": " ++ literal value) :: literalMembers rest

end

/-- The document as it is shown: a text without quotes, everything else as a literal. -/
def shown : Document → String
  | .text s => s
  | other => literal other

example : literal (.list [.text "a", .null, .integer 2]) = "['a', None, 2]" := by decide

/-! ### What can be written -/

mutual

/-- Are all whole numbers short enough to be written? -/
def isWritable : Document → Bool
  | .integer n => decide ((Nat.toDigits 10 n.natAbs).length ≤ Numeral.maxIntegerDigits)
  | .list items => itemsWritable items
  | .record members => membersWritable members
  | _ => true

def itemsWritable : List Document → Bool
  | [] => true
  | item :: rest => isWritable item && itemsWritable rest

def membersWritable : List (String × Document) → Bool
  | [] => true
  | (_, value) :: rest => isWritable value && membersWritable rest

end

end DenseSketch.Document
