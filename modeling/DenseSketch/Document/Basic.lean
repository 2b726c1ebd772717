import DenseSketch.Fault

/-!
# Documents

A document is a tree of plain values: nothing, truth values, whole numbers, reals, texts, lists and
records.  Whole numbers and reals are kept apart, and a record keeps the order of its members.
-/

namespace DenseSketch

/-- A plain value. -/
inductive Document where
  | null
  | truth (value : Bool)
  | integer (value : Int)
  | real (value : Datum)
  | text (value : String)
  | list (items : List Document)
  | record (members : List (String × Document))
  deriving Repr, Inhabited

def lookup? {α : Type} (key : String) : List (String × α) → Option α
  | [] => none
  | (k, v) :: rest => if k == key then some v else lookup? key rest

/-- Puts a value under a key: in the place of the value that was there, or at the end. -/
def put {α : Type} (key : String) (value : α) : List (String × α) → List (String × α)
  | [] => [(key, value)]
  | (k, v) :: rest => if k == key then (k, value) :: rest else (k, v) :: put key value rest

def putAll {α : Type} (base extra : List (String × α)) : List (String × α) :=
  extra.foldl (fun members m => put m.1 m.2 members) base

namespace Document

def member? (key : String) : Document → Option Document
  | .record members => lookup? key members
  | _ => none

/-- The member of a record, unless it is missing or null. -/
def given? (d : Document) (key : String) : Option Document :=
  match d.member? key with
  | some .null => none
  | other => other

def entries : Document → List (String × Document)
  | .record members => members
  | _ => []

/-- Is the document something: not null, false, zero or empty? -/
def isTruthy : Document → Bool
  | .null => false
  | .truth b => b
  | .integer n => n != 0
  | .real x => !x.isZero
  | .text s => s != ""
  | .list items => !items.isEmpty
  | .record members => !members.isEmpty

def isNull : Document → Bool
  | .null => true
  | _ => false

/-- The items that a pass over the document meets: those of a list, the characters of a text, the
    keys of a record. -/
def items? : Document → Except Fault (List Document)
  | .list items => .ok items
  | .text s => .ok (s.toList.map fun c => .text (String.singleton c))
  | .record members => .ok (members.map fun m => .text m.1)
  | _ => .error .wrongType

/-- The text that the document is; nothing else can be split like one. -/
def text? : Document → Except Fault String
  | .text s => .ok s
  | _ => .error .noSuchMember

def ofTexts (texts : List String) : Document :=
  .list (texts.map .text)

mutual

def depth : Document → Nat
  | .list items => depthOfItems items + 1
  | .record members => depthOfMembers members + 1
  | _ => 0

def depthOfItems : List Document → Nat
  | [] => 0
  | item :: rest => max (depth item) (depthOfItems rest)

def depthOfMembers : List (String × Document) → Nat
  | [] => 0
  | (_, value) :: rest => max (depth value) (depthOfMembers rest)

end

mutual

/-- The document with the members of every record in the order of their keys. -/
def sorted : Document → Document
  | .list items => .list (sortedItems items)
  | .record members =>
    .record ((sortedMembers members).mergeSort fun a b => !Text.isBelow b.1 a.1)
  | other => other

def sortedItems : List Document → List Document
  | [] => []
  | item :: rest => sorted item :: sortedItems rest

/-- The members, each value sorted, in the order in which they stand. -/
def sortedMembers : List (String × Document) → List (String × Document)
  | [] => []
  | (key, value) :: rest => (key, sorted value) :: sortedMembers rest

end

end Document

end DenseSketch
