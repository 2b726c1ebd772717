import DenseSketch.Network.Basic
import DenseSketch.Network.Metadata
import DenseSketch.Document.Writer
import DenseSketch.Document.Reader
import DenseSketch.Storage.Tree

/-!
# Snapshots

A snapshot is a document that holds a network and its metadata.  It says what it is and which
version of the form it follows; reading one back checks both.  Saving makes the directory that is to
hold the file.  These are the snapshots of SPEC_FULL, section 9.4.
-/

namespace DenseSketch.Snapshot

def schemaVersion : String := "1.0"

/-- What a snapshot calls itself. -/
def kind : String := "tinytrainer.model_ir"

def fileName : String := "model_ir.json"

/-! ### Writing -/

def ofData (xs : List Datum) : Document := .list (xs.map .real)

def ofLayer (layer : Layer) : Document :=
  .record
    [("name", layer.name), ("kind", .text Layer.kindName),
      ("input_units", .integer layer.inputs), ("output_units", .integer layer.outputs),
      ("weights", ofData layer.weights),
      ("bias", (layer.bias.map ofData).getD .null)]

def ofMetadata (m : Metadata) : Document :=
  .record
    [("output_labels", .ofTexts m.labels), ("sample_window_size", .integer m.window),
      ("variant", .text m.variant.name)]

/-- The snapshot of a network, made at a given time, with more members of the caller's. -/
def document (net : Network) (m : Metadata) (createdAt : String)
    (extra : List (String × Document)) : Document :=
  .record
    [("schema_version", .text schemaVersion), ("kind", .text kind),
      ("created_utc", .text createdAt),
      ("model", .record [("layers", .list (net.layers.map ofLayer))]),
      ("metadata", ofMetadata m), ("extra", .record extra)]

def fileText (d : Document) : String := d.canonical ++ "\n"

/-- How deep the values of a snapshot may be nested. -/
def maxNesting : Nat := 490

/-- The text of a snapshot file whose members are given, unless they are nested too deep or hold a
    whole number that is too long. -/
def checkedText (members : List (String × Document)) : Except Fault String :=
  if (Document.record members).depth > maxNesting then .error .tooDeep
  else if (Document.record members).isWritable then .ok (fileText (.record members))
  else .error .badValue

/-! ### Reading -/

def at? (d : Document) (key : String) : Except Fault Document :=
  match d with
  | .record members =>
    match lookup? key members with
    | some value => .ok value
    | none => .error (.noSuchKey key)
  | _ => .error .wrongType

def toLayer (d : Document) : Except Fault Layer := do
  let name ← at? d "name"
  let kind := (d.member? "kind").getD (.text Layer.kindName)
  let inputs ← (← at? d "input_units").toInt
  let outputs ← (← at? d "output_units").toInt
  let weights ← at? d "weights"
  LayerParts.toLayer
    { name := .text name.shown
      kind := kind
      inputs := .integer inputs
      outputs := .integer outputs
      weights := weights
      bias := (d.member? "bias").getD .null }

def toMetadata (d : Document) : Except Fault Metadata := do
  let labels ← at? d "output_labels"
  let window ← at? d "sample_window_size"
  let variant ← at? d "variant"
  Metadata.ofDocuments labels window variant

def content (d : Document) : Except Fault (List Layer × Metadata) := do
  let entries ← (← at? (← at? d "model") "layers").items?
  let layers ← entries.mapM toLayer
  let m ← toMetadata (← at? d "metadata")
  return (layers, m)

/-- A missing key of a snapshot is named as such. -/
def namingMissing {α : Type} : Except Fault α → Except Fault α
  | .error (.noSuchKey key) => .error (.snapshot (.missing key))
  | other => other

/-- The part of a version before its first point. -/
def majorVersion (version : String) : List Char :=
  version.toList.takeWhile (· != '.')

/-- Checks that a document says that it is a snapshot of a known form. -/
def checkForm (d : Document) : Except Fault Unit :=
  match d with
  | .record members =>
    match lookup? "kind" members with
    | some (.text found) =>
      if found = kind then
        let version := ((lookup? "schema_version" members).map Document.shown).getD ""
        if majorVersion version = majorVersion schemaVersion then .ok ()
        else .error (.snapshot (.version version schemaVersion))
      else .error (.snapshot (.kind (Text.quoted found)))
    | other => .error (.snapshot (.kind (other.getD .null).literal))
  | _ => .error .noSuchMember

def ofDocument (d : Document) : Except Fault (Network × Metadata) := do
  checkForm d
  let (layers, m) ← namingMissing (content d)
  let net ← Network.create layers
  return (net, m)

def ofText (s : String) : Except Fault (Network × Metadata) := do
  ofDocument (← Document.read s)

/-! ### Files -/

def location (directory tag : String) : Location :=
  let name := if tag == "" then fileName else tag ++ "_" ++ fileName
  (Location.ofText directory).join (.ofText name)

def save (l : Location) (text : String) (tree : Tree) : Tree × Except Fault String :=
  match tree.makeDirectory l.parent with
  | .error fault => (tree, .error fault)
  | .ok made =>
    let (written, result) := made.write l text
    (written, result.map fun _ => l.text)

def load (l : Location) (tree : Tree) : Except Fault (Network × Metadata) := do
  ofText (← tree.read l)

end DenseSketch.Snapshot
