import DenseSketch.Model.Base
import DenseSketch.Model.Module

/-!
# Members of a module

While a module is made, it registers its members: parameters, which are trained, buffers, which are
not, and children.  A member may be missing under its name.  All members have different names,
except that a later one of the same kind takes the place of an earlier one.
-/

namespace DenseSketch

/-- The members that a module has registered so far. -/
structure Members where
  parameters : List (String × Option Tensor) := []
  buffers : List (String × Option Tensor) := []
  children : List (String × Option Module) := []
  /-- The names of plain values. -/
  plain : List String := []

namespace Members

def has (ms : Members) (name : String) : Bool :=
  (lookup? name ms.parameters).isSome || (lookup? name ms.buffers).isSome ||
    (lookup? name ms.children).isSome

/-- Registers a member among those of its kind: under a name that is not empty, has no point in it
    and belongs to nothing else. -/
def register {α : Type} (ms : Members) (base : Base) (name : String) (member : Option α)
    (kind : List (String × Option α)) : Except Fault (List (String × Option α)) :=
  let isTaken := (lookup? name kind).isNone && (base.hasName name || ms.has name)
  if name == "" || name.toList.contains '.' || isTaken then .error (.memberName name)
  else .ok (put name member kind)

def addParameter (ms : Members) (base : Base) (name : String) (t : Option Tensor) :
    Except Fault Members := do
  return { ms with parameters := ← ms.register base name t ms.parameters }

def addBuffer (ms : Members) (base : Base) (name : String) (t : Option Tensor) :
    Except Fault Members := do
  return { ms with buffers := ← ms.register base name t ms.buffers }

def addChild (ms : Members) (base : Base) (name : Document) (child : Option Module) :
    Except Fault Members := do
  match name with
  | .text name => return { ms with children := ← ms.register base name child ms.children }
  | _ => throw .wrongType

/-- Takes the member under a name away; no plain value can stand in its place. -/
def remove {α : Type} (name : String) (value : Document) (kind : List (String × Option α)) :
    Except Fault (List (String × Option α)) :=
  if value.isNull then .ok (put name none kind) else .error .wrongType

def assign (ms : Members) (name : String) (value : Document) : Except Fault Members := do
  if (lookup? name ms.parameters).isSome then
    return { ms with parameters := ← remove name value ms.parameters }
  else if (lookup? name ms.children).isSome then
    return { ms with children := ← remove name value ms.children }
  else if (lookup? name ms.buffers).isSome then
    return { ms with buffers := ← remove name value ms.buffers }
  else return { ms with plain := ms.plain ++ [name] }

def present {α : Type} (kind : List (String × Option α)) : List (String × α) :=
  kind.filterMap fun m => m.2.map fun member => (m.1, member)

def start (base : Base) : Members :=
  match base with
  | .linear => { parameters := [("weight", none), ("bias", none)] }
  | _ => {}

def toModule (ms : Members) (base : Base) (identity : Nat) (className : String) : Module :=
  .node
    { identity := identity
      className := className
      isLinear := base == .linear
      isActivation := false
      parameters := present ms.parameters
      buffers := present ms.buffers
      plain := ms.plain }
    (present ms.children)

end Members

end DenseSketch
