import DenseSketch.Document.Basic

/-!
# Locations

The name of a file or directory as a list of parts.  Repeated slashes, single dots and a slash at
the end make no difference, but two slashes at the start stay two; two dots are kept until the
location is resolved.
-/

namespace DenseSketch

structure Location where
  /-- The slashes at the start: none, one or two; none starts from the working directory. -/
  root : String
  parts : List String
  deriving DecidableEq, Repr

namespace Location

/-- The slashes that a text starts with, of which three and more count as one. -/
def rootOf (cs : List Char) : String :=
  match cs.takeWhile (· == '/') with
  | [] => ""
  | ['/', '/'] => "//"
  | _ => "/"

def ofText (s : String) : Location where
  root := rootOf s.toList
  parts := ((s.toList.splitOn '/').map String.ofList).filter fun part => part != "" && part != "."

/-- The location that a plain value names; only a text does. -/
def ofDocument : Document → Except Fault Location
  | .text s => .ok (ofText s)
  | _ => .error .wrongType

/-- The location that a text names, where a slash at the end asks for a directory. -/
def ofExactText (s : String) : Location :=
  let l := ofText s
  if s.endsWith "/" then { l with parts := l.parts ++ ["."] } else l

def isAbsolute (l : Location) : Bool := l.root != ""

/-- The text of a location; the working directory itself is a dot. -/
def text (l : Location) : String :=
  if l.isAbsolute then l.root ++ "/".intercalate l.parts
  else if l.parts.isEmpty then "." else "/".intercalate l.parts

def join (base l : Location) : Location :=
  if l.isAbsolute then l else { base with parts := base.parts ++ l.parts }

/-- Takes one part: a dot stays, two dots go back to the parent. -/
def enter (resolved : List String) (part : String) : List String :=
  if part == "." then resolved
  else if part == ".." then
    match resolved.getLast? with
    | none => [".."]
    | some ".." => resolved ++ [".."]
    | some "" => resolved
    | some _ => resolved.dropLast
  else resolved ++ [part]

/-- Where the way starts: the root is an empty part, the working directory has none. -/
def start (l : Location) : List String := if l.isAbsolute then [""] else []

/-- The location without two dots, as far as they can be resolved. -/
def resolve (l : Location) : List String := l.parts.foldl enter l.start

def parent (l : Location) : Location :=
  { l with parts := l.parts.dropLast }

/-- The last part without its last extension; a dot at either end starts no extension. -/
def stem (l : Location) : String :=
  let name := (l.parts.getLast?.getD "").toList
  match name.reverse.span (· != '.') with
  | (_ :: _, _ :: front) => String.ofList (if front.isEmpty then name else front.reverse)
  | _ => String.ofList name

def maxPartBytes : Nat := 255

/-- Checks that every part can be written down: no text with a zero character or a single surrogate
    in it can. -/
def checkWriting (l : Location) : Except Fault Unit := do
  if l.parts.any fun part => part.toList.contains '\x00' then throw .badValue
  if !l.parts.all Text.isEncodable then throw .unencodable

/-- Checks that every part can be the name of a file: it can be written down and is not too long. -/
def check (l : Location) : Except Fault Unit := do
  l.checkWriting
  if l.parts.any fun part => maxPartBytes < part.utf8ByteSize then throw .nameTooLong

end Location

end DenseSketch
