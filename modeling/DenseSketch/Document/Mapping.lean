import DenseSketch.Document.Arithmetic

/-!
# Documents as collections

Texts, lists and records have a length, and a list may have to be one of texts.  Where a record is
expected, a list of pairs will do: any values that hold two items each, a key and a value.  Of equal
keys the last one counts, in the place of the first.
-/

namespace DenseSketch.Document

/-- Can the value be a key?  A list and a record cannot. -/
def isKey : Document → Bool
  | .list _ | .record _ => false
  | _ => true

def length : Document → Except Fault Nat
  | .text s => .ok s.length
  | .list items => .ok items.length
  | .record members => .ok members.length
  | _ => .error .wrongType

/-- The texts that the document lists: every item has to be one. -/
def texts (d : Document) : Except Fault (List String) := do
  (← d.items?).mapM fun
    | .text s => .ok s
    | _ => .error .wrongType

def pairOf (item : Document) : Except Fault (Document × Document) := do
  match ← item.items? with
  | [key, value] => if key.isKey then return (key, value) else throw .wrongType
  | _ => throw .badValue

def putUnder (key value : Document) : List (Document × Document) → List (Document × Document)
  | [] => [(key, value)]
  | (k, v) :: rest => if same k key then (k, value) :: rest else (k, v) :: putUnder key value rest

/-- The members of a record, or of the record that a list of pairs makes; keys are shown. -/
def mapping (d : Document) : Except Fault (List (String × Document)) := do
  match d with
  | .record members => return members
  | d =>
    let pairs ← (← d.items?).mapM pairOf
    let distinct := pairs.foldl (fun found p => putUnder p.1 p.2 found) []
    return putAll [] (distinct.map fun p => (p.1.shown, p.2))

/-- The same, where nothing stands for no members. -/
def optionalMapping (d : Document) : Except Fault (List (String × Document)) :=
  if d.isTruthy then d.mapping else .ok []

end DenseSketch.Document
