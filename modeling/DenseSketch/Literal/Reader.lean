import DenseSketch.Literal.Expression
import DenseSketch.Literal.Nesting
import DenseSketch.Document.Display

/-!
# Reading literals

A text is a literal if it is an expression made of values, brackets and signs only, or a sum of a
number and an imaginary number.  A text that is no expression is refused as malformed, any other
expression as a bad value.  The arguments of a constructor are given to `tinytrainer-compile` in
this form.
-/

namespace DenseSketch.Literal

/-- Is the value a number?  Truth values are none here. -/
def isNumber : Literal → Bool
  | .integer _ | .real _ | .complex .. => true
  | _ => false

def withSign (negative : Bool) : Literal → Except Fault Literal
  | .integer n => .ok (.integer (if negative then -n else n))
  | .real x => .ok (.real (if negative then x.neg else x))
  | .complex a b => .ok (if negative then .complex a.neg b.neg else .complex a b)
  | _ => .error .badValue

def realPart? : Literal → Option (Except Fault Datum)
  | .integer n =>
    let x := Format.binary64.ofInt n
    some (if x.isFinite then .ok x else .error .overflow)
  | .real x => some (.ok x)
  | _ => none

/-- The sum or the difference of a real number and a complex one. -/
def plus (negative : Bool) (left right : Literal) : Except Fault Literal :=
  match realPart? left, right with
  | some x, .complex a b => do
    let x ← x
    let f := Format.binary64
    return if negative then .complex (f.sub x a) (f.sub .zero b)
      else .complex (f.add x a) (f.add .zero b)
  | _, _ => .error .badValue

namespace Expression

def number : Expression → Except Fault Literal
  | .constant v => if v.isNumber then .ok v else .error .badValue
  | _ => .error .badValue

def signedNumber : Expression → Except Fault Literal
  | .signed negative operand => do withSign negative (← number operand)
  | e => number e

mutual

def value : Expression → Except Fault Literal
  | .constant v => .ok v
  | .signed negative operand => signedNumber (.signed negative operand)
  | .sum negative left right => do plus negative (← signedNumber left) (← number right)
  | .tuple items => do return .tuple (← values items)
  | .list items => do return .list (← values items)
  | .set items => do return .set (arranged (← members [] items))
  | .dictionary entries => do return .dictionary (← assigned [] entries)
  | .emptySet => .ok (.set [])
  | .named _ => .error .badValue
  | .composite => .error .badValue

def values : List Expression → Except Fault (List Literal)
  | [] => .ok []
  | item :: rest => do return (← value item) :: (← values rest)

/-- Adds the values of some items to the members of a set. -/
def members (found : List Literal) : List Expression → Except Fault (List Literal)
  | [] => .ok found
  | item :: rest => do members (← insert (← value item) found) rest

/-- Adds the values of some entries to those of a dictionary. -/
def assigned (found : List (Literal × Literal)) :
    List (Expression × Expression) → Except Fault (List (Literal × Literal))
  | [] => .ok found
  | (key, item) :: rest => do
    let key ← value key
    let item ← value item
    assigned (← assign key item found) rest

end

end Expression

/-! ### Reading -/

/-- How deep the nodes of an expression may be nested. -/
def maxNesting : Nat := 2975

/-- How many rules of the reader may wait for each other. -/
def maxRoom : Nat := 5975

def Token.places : Token → List String
  | .template places => places
  | _ => []

/-- How many levels of templates can be read.  There are four marks of quotation, and no place holds
    one of a template around it. -/
def templateLevels : Nat := 8

/-- Reads an expression, and those in the templates that it holds, each of them as if it stood in
    brackets.  Every level of templates uses fuel. -/
def readWithin : Nat → List Token → Except Fault Expression
  | 0, _ => .error .malformedSource
  | fuel + 1, ts => do
    if maxRoom < Token.room ts then throw .tooLarge
    let found ← Expression.whole ts
    (ts.flatMap Token.places).forM fun place =>
      match Token.ofText s!"({place})" with
      | none => throw .malformedSource
      | some inner => discard (readWithin fuel inner)
    if maxNesting < Token.nesting ts then throw .tooDeep
    return found

/-- The value that a text denotes.  Blanks in front of it do not count. -/
def ofText (s : String) : Except Fault Literal := do
  if !Text.isEncodable s then throw .unencodable
  if s.toList.contains '\x00' then throw .badValue
  match Token.ofText (String.ofList (s.toList.dropWhile fun c => c == ' ' || c == '\t')) with
  | none => throw .malformedSource
  | some ts => (← readWithin templateLevels ts).value

def splitAssignment? (s : String) : Option (String × String) :=
  match s.toList.span (· != '=') with
  | (key, _ :: value) => some (String.ofList key, String.ofList value)
  | (_, []) => none

/-- The key and the literal of an item `KEY=VALUE`.  The sign is looked for among the items of what is
    no text, but only a text can be split there. -/
def assignment (item : Document) : Except Fault (String × Literal) := do
  match item with
  | .text s =>
    match splitAssignment? s with
    | none => throw (.setting (.initKwarg s))
    | some (key, body) => return (key, ← ofText body)
  | item =>
    if (← item.items?).any fun d => d.text?.toOption == some "=" then throw .noSuchMember
    else throw (.setting (.initKwarg item.shown))

/-- The literal values of items `KEY=VALUE`; of items with the same key the last one counts. -/
def assignments (items : List Document) : Except Fault (List (String × Literal)) :=
  items.foldlM (fun found item => do
    let (key, value) ← assignment item
    return put key value found) []

/-- The same for items that may be given as any plain value; nothing holds none. -/
def assignmentsOf (d : Document) : Except Fault (List (String × Literal)) := do
  if d.isTruthy then assignments (← d.items?) else return []

/-! ### Plain values -/

mutual

/-- The plain value that is closest to a literal.  Tuples and sets become lists, and what no plain
    value can be becomes nothing. -/
def toDocument : Literal → Document
  | .truth b => .truth b
  | .integer n => .integer n
  | .real x => .real x
  | .text s => .text s
  | .tuple items | .list items | .set items => .list (toDocuments items)
  | .dictionary entries => .record (toMembers entries)
  | .nothing | .ellipsis | .complex .. | .bytes _ => .null

def toDocuments : List Literal → List Document
  | [] => []
  | item :: rest => toDocument item :: toDocuments rest

def toMembers : List (Literal × Literal) → List (String × Document)
  | [] => []
  | (key, value) :: rest => (shown key, toDocument value) :: toMembers rest

end

end DenseSketch.Literal
