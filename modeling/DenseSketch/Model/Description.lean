import DenseSketch.Document.Mapping
import DenseSketch.Model.Catalogue
import DenseSketch.Model.Members
import DenseSketch.Model.View
import DenseSketch.Network.Layer
import DenseSketch.Text.Basic

/-!
# Descriptions of models

A model is described by a document: its modules with class, tensors and children, or its layers one
by one.  A module with an identifier can be referred to again, and is then the same module.
-/

namespace DenseSketch.Description

/-- What is kept while a tree is built: the next free number and the identified modules. -/
structure Builder where
  next : Nat := 0
  identified : List (Document × Module) := []

abbrev Build (α : Type) := StateT Builder (Except Fault) α

/-- A fresh number; `count` numbers are used up. -/
def fresh (count : Nat) : Build Nat := do
  let builder ← get
  set { builder with next := builder.next + count }
  return builder.next

/-- Keeps a module under its identifier, which is any plain value that can be a key. -/
def keep (identifier : Option Document) (m : Module) : Build Module := do
  match identifier with
  | some key =>
    if !key.isKey then throw .wrongType
    modify fun builder => { builder with identified := (key, m) :: builder.identified }
  | none => pure ()
  return m

def remembered (key : Document) : Build Module := do
  if !key.isKey then throw .wrongType
  match (← get).identified.find? fun entry => Document.same entry.1 key with
  | some entry => return entry.2
  | none => throw (.noSuchKey key.shown)

/-! ### Members of descriptions -/

/-- A member that every description of its kind has. -/
def required (d : Document) (key : String) : Except Fault Document :=
  match d with
  | .record members =>
    match lookup? key members with
    | some value => .ok value
    | none => .error (.noSuchKey key)
  | _ => .error .wrongType

/-- The members of a record within a description; there are none where it is missing. -/
def entriesOf (d : Document) (key : String) : Except Fault (List (String × Document)) :=
  match d.given? key with
  | none => .ok []
  | some (.record members) => .ok members
  | some _ => .error .noSuchMember

def classOf (d : Document) : Except Fault String := do
  match ← required d "class" with
  | .text name => return name
  | _ => throw .wrongType

/-- The name that a class of its own is given: every character can be encoded, and none is zero. -/
def properName (name : String) : Except Fault String :=
  if !Text.isEncodable name then .error .unencodable
  else if name.toList.contains '\x00' then .error .badValue
  else .ok name

def textOr (d : Document) (key default : String) : String :=
  ((d.member? key).map Document.shown).getD default

def isSet (d : Document) (key : String) : Bool :=
  ((d.member? key).map Document.isTruthy).getD false

def tensor (d : Document) : Except Fault Tensor := Tensor.stored d.numeric

def tensors (d : Document) (key : String) : Except Fault (List (String × Tensor)) := do
  (← entriesOf d key).mapM fun m => do return (m.1, ← tensor m.2)

/-! ### Modules -/

/-- A fully connected layer with its weight, outputs by inputs, and perhaps a bias. -/
def linear (d : Document) (identity : Nat) : Except Fault Module := do
  let weight ← tensor (← required d "weight")
  let bias ← (d.given? "bias").mapM tensor
  return Members.toModule { parameters := [("weight", some weight), ("bias", bias)] } .linear
    identity Base.linear.name

def baseOf (d : Document) (className : String) : Base :=
  if isSet d "linear" then .linear
  else if className == Base.sequential.name then .sequential
  else .module

/-- The name of a described class.  Two names ask for the base class itself. -/
def ownName (base : Base) (className : String) : String :=
  if className == Base.sequential.name || className == Base.module.name then base.name
  else className

def storedMembers (d : Document) (base : Base) : Except Fault Members := do
  let withParameters ← (← entriesOf d "params").foldlM (fun ms m => do
    ms.addParameter base m.1 (some (← tensor m.2))) (Members.start base)
  (← entriesOf d "buffers").foldlM (fun ms m => do
    ms.addBuffer base m.1 (some (← tensor m.2))) withParameters

/-- A module without children, of one of the usual classes. -/
def usual (d : Document) (className : String) : Build Module := do
  if className == Base.linear.name then linear d (← fresh 1)
  else if className == Base.sequential.name then
    return Members.toModule {} .sequential (← fresh 1) className
  else
    match Catalogue.find? className with
    | some entry =>
      let isAffine := ((d.member? "affine").map Document.isTruthy).getD true
      return Catalogue.instantiate entry (← fresh 2) isAffine
    | none => throw .noSuchMember

/-- The name and the description of each child.  A child without a name goes by its position. -/
def namedChildren (position : Nat) : List Document → List (Except Fault (Document × Document))
  | [] => []
  | .list [name, child] :: rest => .ok (name, child) :: namedChildren (position + 1) rest
  | .list _ :: rest => .error .badValue :: namedChildren (position + 1) rest
  | child :: rest => .ok (.text (toString position), child) :: namedChildren (position + 1) rest

/-- Builds a module; each level of children uses fuel, and the depth of the document is enough. -/
def module : Nat → Document → Build Module
  | 0, _ => throw .badValue
  | fuel + 1, d =>
    match d.member? "ref" with
    | some key => remembered key
    | none => do
      let className ← classOf d
      let children := d.given? "children"
      if children.isNone && !isSet d "custom" then keep (d.member? "id") (← usual d className)
      else do
        let base := baseOf d className
        let ownClass ← properName (ownName base className)
        let identity ← fresh 1
        let stored ← storedMembers d base
        let described := namedChildren 0 (← (children.getD (.list [])).items?)
        let withChildren ← described.foldlM (fun ms (c : Except Fault (Document × Document)) => do
          let (name, child) ← c
          let built ← if child.isNull then pure none else some <$> module fuel child
          ms.addChild base name built) stored
        let complete ← (← entriesOf d "attrs").foldlM (fun ms m => ms.assign m.1 m.2) withChildren
        keep (d.member? "id") (complete.toModule base identity ownClass)

def tree (d : Document) : Except Fault Module :=
  (module (d.depth + 1) d).run' {}

/-- Builds something with no module identified yet, and forgets the modules that it identifies. -/
def apart {α : Type} (build : Build α) : Build α := do
  let outer := (← get).identified
  modify fun builder => { builder with identified := [] }
  let result ← build
  modify fun builder => { builder with identified := outer }
  return result

/-- A module of a class that is defined by its children, each of them a name and a description.  No
    child can refer to another one. -/
def ofChildren (className : String) (children : List Document) : Except Fault Module :=
  (build children).run' {}
where
  /-- Registers the children one after the other. -/
  build (children : List Document) : Build Module := do
    let identity ← fresh 1
    let members ← children.foldlM (fun (ms : Members) entry => do
      match ← entry.items? with
      | [name, child] =>
        if child.isNull then throw .wrongType
        ms.addChild .module name (some (← apart (module (child.depth + 1) child)))
      | _ => throw .badValue) {}
    return members.toModule .module identity className

/-! ### Layers one by one -/

/-- A layer that hands out its arrays. -/
def arraysItem (d : Document) : Except Fault Item := do
  let className ← properName (← classOf d)
  let arrays ← match d.member? "arrays" with
    | some (.list arrays) => arrays.mapM fun a => Tensor.ofDocument a.numeric
    | _ => pure []
  let kind := (d.given? "get_class_name").getD (.text className)
  return .arrays className (textOr d "name" className) kind arrays

/-- A layer that answers for itself; one without all four members is like any other object. -/
def ownItem (d : Document) : Except Fault Item := do
  let name ← required d "name"
  let className ← properName (textOr d "class" "Proto")
  let without ← ((d.given? "without").getD (.list [])).texts
  if ["name", "kind", "weights", "bias"].any without.contains then return .opaqueItem
  return .own className name (.plain ((d.member? "kind").getD (.text Layer.kindName)))
    ((d.given? "weights").map Document.numeric) ((d.given? "bias").map Document.numeric)

def item (d : Document) : Except Fault Item :=
  match d with
  | .record [("torch", m)] => do return .module (← tree m)
  | .record [("keras", layer)] => arraysItem layer
  | .record [("proto", layer)] => ownItem layer
  | .record [("opaque", layer)] => do
    let _ ← properName (textOr layer "class" "")
    return .opaqueItem
  | _ => .ok .opaqueItem

def items (d : Option Document) : Except Fault (List Item) :=
  match d with
  | some (.list ds) => ds.mapM item
  | _ => .ok []

def model (d : Document) : Except Fault Model :=
  match d with
  | .record [("torch", m)] => do return .tree (← tree m)
  | .record [("list", layers)] => do return .items "list" (← items (some layers))
  | .record [("object", owner)] => do
    return .items (← properName (textOr owner "class" "")) (← items (owner.member? "layers"))
  | .record [("value", v)] => .ok (.value v)
  | _ => .error .badValue

end DenseSketch.Description
