import DenseSketch.Storage.Location
import DenseSketch.Tensor

/-!
# File trees

The files and directories that a run can see and change, by resolved location.  Every step into a
location goes through the directories on the way to it in order: one that is missing, or a file in
its place, ends the way.

Most files hold text.  A model file can also be given by a description of what it defines, and a
file of trained tensors by the tensors themselves.
-/

namespace DenseSketch

/-! ### Contents of files -/

inductive Content where
  | text (value : String)
  /-- A model file, described. -/
  | modelFile (description : Document)
  /-- Tensors by name. -/
  | state (tensors : List (String × Tensor))
  deriving Repr

def Content.text? : Content → Option String
  | .text s => some s
  | _ => none

/-! ### Trees -/

/-- Files with their contents and directories without files. -/
structure Tree where
  directories : List (List String) := []
  files : List (List String × Content) := []
  deriving Repr

namespace Tree

def fileAt? (tree : Tree) (key : List String) : Option Content :=
  (tree.files.find? fun f => f.1 == key).map (·.2)

def isFile (tree : Tree) (key : List String) : Bool :=
  (tree.fileAt? key).isSome

/-- Is there a directory at the location?  The working directory, what lies above it and the root
    are always there. -/
def isDirectory (tree : Tree) (key : List String) : Bool :=
  key.all (· == "..") || key == [""] || tree.directories.contains key ||
    tree.files.any fun f => key.isPrefixOf f.1 && f.1 != key

def enter (tree : Tree) (key : List String) (part : String) : Except Fault (List String) :=
  let next := Location.enter key part
  if tree.isFile next then .error .notDirectory
  else if tree.isDirectory next then .ok next
  else .error .noSuchFile

/-- Goes through the directories on the way to a location: where it lies, whether something is there
    or not.  Behind a file there is nothing, not even the file itself. -/
def find (tree : Tree) (l : Location) : Except Fault (List String) := do
  l.check
  let directory ← l.parts.dropLast.foldlM tree.enter l.start
  match l.parts.getLast? with
  | none => return directory
  | some part => return Location.enter directory part

/-- Is there a directory at the end of the way? -/
def leadsToDirectory (tree : Tree) (l : Location) : Bool :=
  match tree.find l with
  | .ok key => tree.isDirectory key
  | .error _ => false

def addDirectory (tree : Tree) (l : Location) : Except Fault Tree := do
  let key ← tree.find l
  if tree.isFile key || tree.isDirectory key then throw .fileExists
  return { tree with directories := tree.directories ++ [key] }

def ensureDirectory (tree : Tree) (l : Location) : Except Fault Tree :=
  match tree.addDirectory l with
  | .error fault => if tree.leadsToDirectory l then .ok tree else .error fault
  | made => made

/-- Makes a directory unless it is there.  Where one on the way is missing, the `above` directories
    above are made first, the outermost one as the last resort. -/
def makeWithin (tree : Tree) (l : Location) : Nat → Except Fault Tree
  | 0 => tree.ensureDirectory l
  | above + 1 =>
    match tree.ensureDirectory l with
    | .error .noSuchFile =>
      match tree.makeWithin l.parent above with
      | .error fault => .error fault
      | .ok made => made.ensureDirectory l
    | other => other

/-- Makes a directory and those above it; one that exists is left alone. -/
def makeDirectory (tree : Tree) (l : Location) : Except Fault Tree :=
  tree.makeWithin l l.parts.length

def putFile (key : List String) (content : Content) :
    List (List String × Content) → List (List String × Content)
  | [] => [(key, content)]
  | f :: rest => if f.1 == key then (key, content) :: rest else f :: putFile key content rest

/-- Writes a text into a directory that exists.  One that cannot be encoded leaves an empty file. -/
def write (tree : Tree) (l : Location) (text : String) : Tree × Except Fault Unit :=
  match tree.find l with
  | .error fault => (tree, .error fault)
  | .ok key =>
    if tree.isDirectory key then (tree, .error .isDirectory)
    else if Text.isEncodable text then
      ({ tree with files := putFile key (.text text) tree.files }, .ok ())
    else ({ tree with files := putFile key (.text "") tree.files }, .error .unencodable)

def content (tree : Tree) (l : Location) : Except Fault Content := do
  let key ← tree.find l
  if tree.isDirectory key then throw .isDirectory
  match tree.fileAt? key with
  | some content => return content
  | none => throw .noSuchFile

def read (tree : Tree) (l : Location) : Except Fault String := do
  match ← tree.content l with
  | .text s => return s
  | _ => throw .malformedDocument

/-- The texts below the working directory. -/
def listed (tree : Tree) : List (String × String) :=
  (tree.files.filter fun f => f.1.head? != some ".." && f.1.head? != some "").filterMap fun f =>
    f.2.text?.map fun s => ("/".intercalate f.1, s)

end Tree

end DenseSketch
