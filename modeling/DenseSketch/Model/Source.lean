import DenseSketch.Model.Description
import DenseSketch.Model.Instance
import DenseSketch.Storage.Tree
import DenseSketch.Model.Script

/-!
# Model files

A model file binds names: to plain values, to one class that it imports, to classes of its own, and
perhaps to a factory that makes the model, in this order.  A document describes all of these; a text
can only bind plain values.
-/

namespace DenseSketch

structure ModelClass where
  name : String
  /-- Are its instances modules? -/
  isModule : Bool
  /-- The names of the arguments that its constructor takes. -/
  accepts : List String
  /-- The children of an instance, each one a name and a description. -/
  children : List Document

/-- What a name of a model file stands for. -/
inductive Binding where
  | ownClass (c : ModelClass)
  | importedClass (className : String)
  | plainValue
  /-- A factory and the description of the module that it makes, null if it makes none. -/
  | factory (product : Document)

structure Source where
  bindings : List (String × Binding)

namespace ModelClass

def ofDocument (d : Document) : Except Fault ModelClass := do
  return {
    name := (← Description.required d "name").shown
    isModule := ((d.member? "is_module").map Document.isTruthy).getD true
    accepts := (← ((d.given? "accepts").getD (.list [])).items?).map Document.shown
    children := ← ((d.given? "children").getD (.list [])).items? }

def instantiate (c : ModelClass) (args : Arguments) : Except Fault Module :=
  if args.all fun arg => c.accepts.contains arg.1 then
    Description.ofChildren c.name c.children
  else .error .wrongType

end ModelClass

namespace Source

/-- The name under which a model file offers its factory. -/
def factoryName : String := "create_model"

/-! ### Reading -/

/-- The members under which a document describes a model file. -/
def describingMembers : List String := ["classes", "values", "imports", "factory"]

def importedBinding (name : String) : Except Fault Binding :=
  if Constructor.isClass name then .ok (.importedClass name)
  else if Constructor.otherNames.contains name then .ok .plainValue
  else .error .noSuchMember

def ofDocument (d : Document) : Except Fault Source := do
  let values := (← Description.entriesOf d "values").map fun m => (m.1, Binding.plainValue)
  let imported ← (d.given? "imports").mapM fun name => do
    return (name.shown, ← importedBinding name.shown)
  let classes ← (← ((d.given? "classes").getD (.list [])).items?).mapM ModelClass.ofDocument
  let factory := (d.member? "factory").map fun product => (factoryName, Binding.factory product)
  return ⟨putAll [] (values ++ imported.toList ++ classes.map (fun c => (c.name, .ownClass c)) ++
    factory.toList)⟩

def ofText (s : String) : Except Fault Source := do
  return ⟨putAll [] ((← Script.boundNames s).map fun name => (name, .plainValue))⟩

/-- The model file that is stored as some content; stored tensors are no source. -/
def ofContent : Content → Except Fault Source
  | .text s => ofText s
  | .modelFile d => ofDocument d
  | .state _ => .error .badValue

/-! ### Choosing -/

def candidates (source : Source) : List ModelClass :=
  source.bindings.filterMap fun b =>
    match b.2 with
    | .ownClass c => if c.isModule then some c else none
    | _ => none

/-- The class that a plain value names, if it is one of modules. -/
def instanceOf (source : Source) (moduleName name : String) (args : Except Fault Arguments) :
    Except Fault Module :=
  match lookup? name source.bindings with
  | some (.ownClass c) =>
    if c.isModule then args.bind c.instantiate else .error (.model (.noSuchClass name moduleName))
  | some (.importedClass imported) => args.bind (Catalogue.make imported)
  | _ => .error (.model (.noSuchClass name moduleName))

def onlyInstance (source : Source) (moduleName : String) (args : Except Fault Arguments) :
    Except Fault Module :=
  match source.candidates with
  | [] => .error (.model (.noClass moduleName))
  | [c] => args.bind c.instantiate
  | cs => .error (.model (.severalClasses moduleName (cs.map (·.name))))

/-- An instance of the class that is named, or of the only one that there is.  Anything empty names
    no class, and only a text names one. -/
def instance? (source : Source) (moduleName : String) (className : Document)
    (args : Except Fault Arguments) : Except Fault Module :=
  if className.isTruthy then
    match className with
    | .text name => source.instanceOf moduleName name args
    | _ => .error .wrongType
  else source.onlyInstance moduleName args

/-- What the factory makes, if the file offers one that can be called. -/
def factoryProduct? (source : Source) (moduleName : String) : Option (Except Fault Module) :=
  match lookup? factoryName source.bindings with
  | some (.factory product) =>
    some (if product.isNull then .error (.model (.notAModule moduleName))
      else Description.tree product)
  | some (.ownClass c) =>
    some (if c.isModule then c.instantiate [] else .error (.model (.notAModule moduleName)))
  | _ => none

def argumentsOf (args : Document) : Except Fault Arguments :=
  match args with
  | .record members => .ok members
  | _ => .error .wrongType

/-- The model of the file.  The factory makes it unless a class, even an empty one, or arguments are
    given. -/
def model (source : Source) (moduleName : String) (className args : Document) :
    Except Fault Module :=
  match source.factoryProduct? moduleName with
  | some product =>
    if className.isNull && !args.isTruthy then product
    else source.instance? moduleName className (argumentsOf args)
  | none => source.instance? moduleName className (argumentsOf args)

end Source

end DenseSketch
