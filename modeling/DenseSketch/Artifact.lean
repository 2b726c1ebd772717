import DenseSketch.Document.Mapping
import DenseSketch.Storage.Tree
import DenseSketch.Text.Quoted

/-!
# Artifacts

What a compilation yields: exactly three files, in the order in which they were made.  This is the
artifact of the data model (SPEC_FULL, section 3).
-/

namespace DenseSketch

/-- Three generated files by name. -/
structure Artifact where
  files : List (String × String)
  length_files : files.length = 3
  deriving DecidableEq

namespace Artifact

def create (files : List (String × String)) : Except Fault Artifact :=
  if h : files.length = 3 then .ok ⟨files, h⟩
  else
    let names := (files.map (·.1)).mergeSort fun a b => decide (a ≤ b)
    .error (.setting (.fileCount names))

/-- The artifact of a plain value, which holds three names with texts. -/
def ofDocument (d : Document) : Except Fault Artifact := do
  let items ← d.items?
  if items.length = 3 then
    let files ← d.mapping
    create (← files.mapM fun m => do return (m.1, ← content m.2))
  else create (← items.mapM fun name => do return (← content name, ""))
where
  /-- The text that is written for a value. -/
  content : Document → Except Fault String
    | .text s => .ok s
    | _ => .error .wrongType

def names (a : Artifact) : List String := a.files.map (·.1)

def text (a : Artifact) (name : String) : Except Fault String :=
  match lookup? name a.files with
  | some text => .ok text
  | none => .error (.noSuchKey name)

/-- The text of a file whose name may be any plain value. -/
def textOf (a : Artifact) (name : Document) : Except Fault String :=
  match name with
  | .text s => a.text s
  | name => .error (if name.isKey then .noSuchKey name.shown else .wrongType)

def shown (a : Artifact) : String :=
  s!"GeneratedArtifact([{commaSeparated (a.names.map Text.quoted)}])"

/-- Writes files into a directory, one after the other, and lists where they went. -/
def writeFiles (directory : Location) (tree : Tree) :
    List (String × String) → Tree × Except Fault (List String)
  | [] => (tree, .ok [])
  | (name, text) :: rest =>
    let target := directory.join (.ofText name)
    match tree.write target text with
    | (tree, .error fault) => (tree, .error fault)
    | (tree, .ok ()) =>
      let (tree, more) := writeFiles directory tree rest
      (tree, more.map (target.text :: ·))

/-- Makes the directory and writes all files into it.  What was written before a refusal stays. -/
def writeTo (a : Artifact) (directory : Location) (tree : Tree) :
    Tree × Except Fault (List String) :=
  match tree.makeDirectory directory with
  | .error fault => (tree, .error fault)
  | .ok tree => writeFiles directory tree a.files

end Artifact

end DenseSketch
