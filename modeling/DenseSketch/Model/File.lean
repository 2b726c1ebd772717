import DenseSketch.Model.Source
import DenseSketch.Document.Reader
import DenseSketch.Storage.Tree

/-!
# Loading models

A model is loaded from a model file, and its tensors perhaps from a second file that holds a state.
The model file is read before anything is looked up in it, the state after the model is made.  The
models of `tinytrainer-compile` come in such files (SPEC_FULL, section 9.1).
-/

namespace DenseSketch

/-- Which model is loaded.  Any of these can be a plain value that has no place there. -/
structure ModelRequest where
  path : Document
  /-- The class to be made; without one the file decides. -/
  className : Document := .null
  /-- The arguments of the constructor by name. -/
  arguments : Document := .record []
  /-- The file that holds the state, if there is one. -/
  weights : Document := .null

namespace Content

/-- The tensors of a file that holds any.  A text holds none; what is wrong with it depends on its
    first character, which is taken for an instruction: most are unknown, some need values that are
    not there, some look up what was never kept. -/
def tensors : Content → Except Fault (List (String × Tensor))
  | .state tensors => .ok tensors
  | .modelFile _ => .error .malformedState
  | .text s =>
    match s.toList with
    | [] => .error .emptyState
    | c :: rest =>
      if "abeqstuRQ.".toList.contains c || (c == 'h' && rest.isEmpty) then .error .outOfBounds
      else if (c == 'j' || c == 'r') && rest.length < 4 then .error .shortState
      else if c == 'r' then .error .outOfBounds
      else if c == 'h' || c == 'j' then .error (.noSuchKey s)
      else .error .malformedState

/-- The content of a file of the disk.  A document that describes a model file or a state stands for
    it; all else is text. -/
def ofText (s : String) : Content :=
  match Document.read s with
  | .ok (.record [("state", tensors)]) =>
    match Description.tensors (.record [("state", tensors)]) "state" with
    | .ok tensors => .state tensors
    | .error _ => .text s
  | .ok (.record members) =>
    if members.any fun m => Source.describingMembers.contains m.1 then .modelFile (.record members)
    else .text s
  | _ => .text s

end Content

namespace ModelRequest

def fileEnding : String := ".py"

/-- The resolved text of a location as seen from a directory. -/
def resolvedText (workingDirectory : String) (l : Location) : String :=
  "/".intercalate ((Location.ofText workingDirectory).join l).resolve

def state? (request : ModelRequest) (tree : Tree) :
    Except Fault (Option (List (String × Tensor))) := do
  if !request.weights.isTruthy then return none
  match request.weights with
  | .text path => return some (← (← tree.content (.ofExactText path)).tensors)
  | _ => throw .noSuchMember

def load (request : ModelRequest) (workingDirectory : String) (tree : Tree) :
    Except Fault Module := do
  let l ← Location.ofDocument request.path
  l.checkWriting
  let resolved := resolvedText workingDirectory l
  if !resolved.endsWith fileEnding then throw (.unimportable resolved)
  let plain : Location := ⟨if l.isAbsolute then "/" else "", l.resolve.filter (· != "")⟩
  let source ← Source.ofContent (← tree.content plain)
  let made ← source.model (Location.ofText resolved).stem request.className request.arguments
  let loaded ← match ← request.state? tree with
    | some state => made.loadState state
    | none => pure made
  if !loaded.canRest then throw .wrongType
  return loaded

end ModelRequest

end DenseSketch
