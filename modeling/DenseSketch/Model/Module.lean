import DenseSketch.Tensor

/-!
# Modules

A trained model is a tree of modules.  A module has tensors of its own, trained ones and others, and
named children.  One module may stand at several places of the tree; a walk meets it only once, at
the first of them.  Such a tree is the model handle of SPEC_FULL, section 4.1.
-/

namespace DenseSketch

structure ModuleInfo where
  /-- Modules of the same number are one and the same. -/
  identity : Nat
  className : String
  /-- Is the module a fully connected layer? -/
  isLinear : Bool
  /-- Is the class one of the usual activations? -/
  isActivation : Bool
  /-- The trained tensors by name. -/
  parameters : List (String × Tensor)
  /-- The other tensors by name. -/
  buffers : List (String × Tensor)
  /-- The tensors that a state may leave out. -/
  optional : List String := []
  /-- The names of plain values, which hide methods of the same names. -/
  plain : List String := []
  deriving DecidableEq

inductive Module where
  | node (info : ModuleInfo) (children : List (String × Module))

namespace ModuleInfo

def tensor? (info : ModuleInfo) (name : String) : Option Tensor :=
  (lookup? name info.parameters).or (lookup? name info.buffers)

/-- The weight as inputs by outputs.  Only a fully connected layer is stored the other way round. -/
def weight (info : ModuleInfo) : Except Fault (Option Tensor) :=
  match info.tensor? "weight" with
  | none => .ok none
  | some t =>
    if info.isLinear then
      match t.dims with
      | [outputs, inputs] =>
        let rows := Block.rowsOf inputs outputs t.data
        .ok (some ⟨[inputs, outputs],
          (List.range inputs).flatMap fun j => rows.filterMap fun row => row[j]?⟩)
      | [] | [_] => .ok (some t)
      | _ => .error .tensorMismatch
    else .ok (some t)

def bias (info : ModuleInfo) : Option Tensor := info.tensor? "bias"

def hides (info : ModuleInfo) (methods : List String) : Bool :=
  methods.any info.plain.contains

end ModuleInfo

namespace Module

def info : Module → ModuleInfo
  | .node info _ => info

def children : Module → List (String × Module)
  | .node _ children => children

def isLeaf (m : Module) : Bool := m.children.isEmpty

/-- A module that a walk has met, under the names on the way to it. -/
structure Visit where
  path : String
  info : ModuleInfo
  isLeaf : Bool

def childPath (path name : String) : String :=
  if path == "" then name else path ++ "." ++ name

mutual

/-- Walks through a module: itself first, then its children.  `seen` are the numbers of the modules
    that have been met. -/
def visits (seen : List Nat) (path : String) : Module → List Visit × List Nat
  | .node info children =>
    if seen.contains info.identity then ([], seen)
    else
      let (below, seen) := visitsOf (info.identity :: seen) path children
      (⟨path, info, children.isEmpty⟩ :: below, seen)

def visitsOf (seen : List Nat) (path : String) : List (String × Module) → List Visit × List Nat
  | [] => ([], seen)
  | (name, child) :: rest =>
    let (first, seen) := visits seen (childPath path name) child
    let (more, seen) := visitsOf seen path rest
    (first ++ more, seen)

end

/-- All modules of a tree in the order of a walk, the root under the empty path. -/
def named (m : Module) : List Visit := (visits [] "" m).1

/-- The leaves of a tree by path; a root that is a leaf itself goes by its class. -/
def leaves (m : Module) : List (String × ModuleInfo) :=
  let below := (m.named.filter fun v => v.path != "" && v.isLeaf).map fun v => (v.path, v.info)
  if below.isEmpty && m.isLeaf then [(m.info.className, m.info)] else below

def namedParameters (m : Module) : List (String × Tensor) :=
  m.named.flatMap fun v => v.info.parameters.map fun p => (childPath v.path p.1, p.2)

/-- The methods through which a module shows its children. -/
def childMethods : List String := ["children", "named_children"]

/-- Can the leaves be found?  Plain values in place of the methods that are needed stand in the
    way; the children of the root are asked for only where there is no other leaf. -/
def showsLeaves (m : Module) : Bool :=
  m.named.all (fun v =>
      !v.info.hides ["named_modules"] && (v.path == "" || !v.info.hides childMethods)) &&
    (m.named.any (fun v => v.path != "" && v.isLeaf) || !m.info.hides childMethods)

/-- Can every module be told that training is over? -/
def canRest (m : Module) : Bool :=
  !m.info.hides ["eval"] && m.named.all fun v => !v.info.hides ("train" :: childMethods)

/-! ### State -/

/-- A tensor of a module at one of the places where the module stands. -/
structure Slot where
  path : String
  /-- The number of the module. -/
  owner : Nat
  name : String
  tensor : Tensor
  isOptional : Bool

mutual

/-- All tensors, trained or not, by the path to them.  A module that stands at several places is met
    at each of them. -/
def slots (path : String) : Module → List Slot
  | .node info children =>
    (info.parameters ++ info.buffers).map (fun t =>
        { path := childPath path t.1
          owner := info.identity
          name := t.1
          tensor := t.2
          isOptional := info.optional.contains t.1 }) ++
      slotsOf path children

def slotsOf (path : String) : List (String × Module) → List Slot
  | [] => []
  | (name, child) :: rest => slots (childPath path name) child ++ slotsOf path rest

end

/-- The tensor that a state has for a slot.  A single number may be given as a list, of which the
    first item counts. -/
def Slot.given? (slot : Slot) (state : List (String × Tensor)) : Except Fault (Option Tensor) :=
  match lookup? slot.path state with
  | none => .ok none
  | some t =>
    match slot.tensor.dims, t.dims, t.data with
    | [], [_], [] => .error .outOfBounds
    | [], [_], x :: _ => .ok (some ⟨[], [x]⟩)
    | _, _, _ => .ok (some t)

def Slot.fits (slot : Slot) : Option Tensor → Bool
  | some t => t.dims == slot.tensor.dims
  | none => slot.isOptional

/-- Tensors of a module, each one replaced by the last one that is given for it. -/
def renewed (owner : Nat) (given : List (Slot × Option Tensor)) (tensors : List (String × Tensor)) :
    List (String × Tensor) :=
  tensors.map fun t =>
    let found := given.filterMap fun g =>
      if g.1.owner == owner && g.1.name == t.1 then g.2 else none
    (t.1, found.getLast?.getD t.2)

mutual

def withTensors (given : List (Slot × Option Tensor)) : Module → Module
  | .node info children =>
    .node
      { info with
        parameters := renewed info.identity given info.parameters
        buffers := renewed info.identity given info.buffers }
      (childrenWith given children)

def childrenWith (given : List (Slot × Option Tensor)) :
    List (String × Module) → List (String × Module)
  | [] => []
  | (name, child) :: rest => (name, withTensors given child) :: childrenWith given rest

end

/-- Loads a state, which has to have exactly the tensors of the module. -/
def loadState (m : Module) (state : List (String × Tensor)) : Except Fault Module := do
  let given ← (m.slots "").mapM fun slot => do return (slot, ← slot.given? state)
  let isKnown (path : String) : Bool := given.any (·.1.path == path)
  if given.all (fun g => g.1.fits g.2) && state.all (fun t => isKnown t.1) then
    return m.withTensors given
  else throw .tensorMismatch

end Module

end DenseSketch
