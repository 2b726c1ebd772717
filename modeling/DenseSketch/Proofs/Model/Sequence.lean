import DenseSketch.Proofs.Model.Arrangement
import DenseSketch.Proofs.Model.Compatibility
import DenseSketch.Proofs.Model.Extraction

/-!
# Sequences

A sequence of fully connected layers, positive parts and dropouts passes the scan as soon as it has
a fully connected layer, in whatever order its parts stand.  Its network computes what the sequence
computes, whatever its weights are, if and only if the kinds of its parts match.
-/

namespace DenseSketch

/-! ### Modules of the parts -/

/-- A module of a class without tensors, and without plain values in place of its methods. -/
structure ModuleInfo.IsBare (info : ModuleInfo) (className : String) (isActivation : Bool) :
    Prop where
  className : info.className = className
  isLinear : info.isLinear = false
  isActivation : info.isActivation = isActivation
  parameters : info.parameters = []
  buffers : info.buffers = []
  plain : info.plain = []

/-- The module is the part. -/
def Part.Describes : Part → ModuleInfo → Prop
  | linear s, info => info.Stores s ∧ info.plain = []
  | relu, info => info.IsBare "ReLU" true
  | dropout, info => info.IsBare "Dropout" false

/-- The child is the part, under a name and without children of its own. -/
structure Part.IsChild (child : String × Module) (part : Part) : Prop where
  name : child.1 ≠ ""
  isLeaf : child.2.isLeaf = true
  describes : part.Describes child.2.info

/-- The module passes its input through its children, which are the parts in their order.  Positive
    parts and dropouts may stand at several places, a fully connected layer at one place only. -/
structure Module.IsSequence (m : Module) (parts : List Part) : Prop where
  info : m.info.IsBare "Sequential" false
  children : List.Forall₂ Part.IsChild m.children parts
  outside : ∀ child ∈ m.children, child.2.info.identity ≠ m.info.identity
  once : m.children.Pairwise fun a b =>
    a.2.info.identity = b.2.info.identity → b.2.info.isDense = false

theorem ModuleInfo.hides_of_plain {info : ModuleInfo} (h : info.plain = [])
    (methods : List String) :
    info.hides methods = false := by
  rw [hides, h, List.any_eq_false]
  exact fun method _ => by simp

namespace ModuleInfo.IsBare

variable {info : ModuleInfo} {className : String} {isActivation : Bool}

theorem isWeightless (h : info.IsBare className isActivation) : info.IsWeightless := by
  rw [IsWeightless, tensor?, h.parameters, h.buffers]
  rfl

/-- The scan passes a module without tensors, unless its class changes what is computed. -/
theorem ofView (h : info.IsBare className isActivation) (name : String)
    (hclass : lookup? className Finding.suggestions = none)
    (hactivation : isActivation = true → className ∈ Finding.positionalActivations) :
    Finding.ofView (.ofModule name info) = .ok (.passed (.ofModule name info)) := by
  have hweights : (LayerView.ofModule name info).weights = .ok none := by
    rw [LayerView.ofModule, h.isWeightless.weight_eq]
    rfl
  have hname : (LayerView.ofModule name info).className = className := h.className
  have hpositional :
      (isActivation && !Finding.positionalActivations.contains className) = false := by
    cases isActivation with
    | false => rfl
    | true => simp [hactivation rfl]
  have hpassed : Finding.ofWeightless (.ofModule name info) info =
      .passed (.ofModule name info) := by
    rw [Finding.ofWeightless, h.parameters, hname, hclass, h.isActivation, hpositional]
    rfl
  rw [LayerView.ofView_of_weightless hweights, ← hpassed]
  exact if_neg (by simp [ModuleInfo.hides_of_plain h.plain])

end ModuleInfo.IsBare

namespace Part.Describes

variable {part : Part} {info : ModuleInfo}

theorem plain (h : part.Describes info) : info.plain = [] := by
  cases part with
  | linear s => exact h.2
  | relu => exact ModuleInfo.IsBare.plain h
  | dropout => exact ModuleInfo.IsBare.plain h

theorem isDense (h : part.Describes info) : info.isDense = part.stored?.isSome := by
  cases part with
  | linear s => exact h.1.isDense
  | relu => exact (ModuleInfo.IsBare.isWeightless h).isDense
  | dropout => exact (ModuleInfo.IsBare.isWeightless h).isDense

end Part.Describes

/-! ### Walking through leaves -/

namespace Module

/-- The visit to a child that is a leaf. -/
def visitOf (path : String) (child : String × Module) : Visit :=
  ⟨childPath path child.1, child.2.info, true⟩

theorem visits_of_isLeaf {m : Module} (hleaf : m.isLeaf = true) (seen : List Nat) (path : String) :
    visits seen path m =
      if seen.contains m.info.identity then ([], seen)
      else ([⟨path, m.info, true⟩], m.info.identity :: seen) := by
  obtain ⟨info, children⟩ := m
  obtain rfl : children = [] := List.isEmpty_iff.1 hleaf
  rfl

theorem visitsOf_cons (seen : List Nat) (path : String) (child : String × Module)
    (rest : List (String × Module)) :
    (visitsOf seen path (child :: rest)).1 =
      (visits seen (childPath path child.1) child.2).1 ++
        (visitsOf (visits seen (childPath path child.1) child.2).2 path rest).1 := rfl

variable {children : List (String × Module)} {seen : List Nat} {path : String}

theorem mem_visitsOf (hleaves : ∀ child ∈ children, child.2.isLeaf = true) :
    ∀ visit ∈ (visitsOf seen path children).1, ∃ child ∈ children, visit = visitOf path child := by
  induction children generalizing seen with
  | nil => exact List.forall_mem_nil _
  | cons child rest ih =>
    obtain ⟨hleaf, hrest⟩ := List.forall_mem_cons.1 hleaves
    intro visit hvisit
    rw [visitsOf_cons, List.mem_append] at hvisit
    rcases hvisit with hhere | hbehind
    · rw [visits_of_isLeaf hleaf] at hhere
      split at hhere
      · cases hhere
      · exact ⟨child, List.mem_cons_self, List.mem_singleton.1 hhere⟩
    · obtain ⟨other, hother, rfl⟩ := ih hrest visit hbehind
      exact ⟨other, List.mem_cons_of_mem _ hother, rfl⟩

/-- A fully connected child is visited where it stands, if no earlier place has the same module. -/
theorem filter_visitsOf (path : String) (hleaves : ∀ child ∈ children, child.2.isLeaf = true)
    (hseen : ∀ child ∈ children, child.2.info.isDense = true → child.2.info.identity ∉ seen)
    (honce : children.Pairwise fun a b =>
      a.2.info.identity = b.2.info.identity → b.2.info.isDense = false) :
    (visitsOf seen path children).1.filter (·.info.isDense) =
      (children.filter (·.2.info.isDense)).map (visitOf path) := by
  induction children generalizing seen with
  | nil => rfl
  | cons child rest ih =>
    obtain ⟨hleaf, hrest⟩ := List.forall_mem_cons.1 hleaves
    obtain ⟨hnew, hseenRest⟩ := List.forall_mem_cons.1 hseen
    obtain ⟨hdistinct, honceRest⟩ := List.pairwise_cons.1 honce
    rw [visitsOf_cons, visits_of_isLeaf hleaf, List.filter_append, List.filter_cons]
    split
    · next hmet =>
      -- A module that has been met is no fully connected layer.
      have hdense : ¬ child.2.info.isDense = true := fun hdense =>
        hnew hdense (List.contains_iff_mem.1 hmet)
      rw [if_neg hdense]
      exact ih hrest hseenRest honceRest
    · have hbehind : ∀ other ∈ rest, other.2.info.isDense = true →
          other.2.info.identity ∉ child.2.info.identity :: seen := by
        intro other hother hdense hmem
        rcases List.mem_cons.1 hmem with hsame | hmet
        · exact absurd (hdistinct other hother hsame.symm) (by simp [hdense])
        · exact hseenRest other hother hdense hmet
      rw [ih hrest hbehind honceRest]
      by_cases hdense : child.2.info.isDense = true
      · simp [hdense, visitOf]
      · simp [hdense]

theorem named_eq (m : Module) :
    m.named = ⟨"", m.info, m.isLeaf⟩ :: (visitsOf [m.info.identity] "" m.children).1 := by
  obtain ⟨info, children⟩ := m
  rfl

/-- Where all children are leaves under names of their own, the leaves are what the walk visits behind
    the root. -/
theorem leaves_eq_visits {m : Module} (hroot : m.isLeaf = false)
    (hchildren : ∀ child ∈ m.children, child.1 ≠ "" ∧ child.2.isLeaf = true) :
    m.leaves =
      (visitsOf [m.info.identity] "" m.children).1.map fun visit => (visit.path, visit.info) := by
  have hkept : (m.named.filter fun v => v.path != "" && v.isLeaf) =
      (visitsOf [m.info.identity] "" m.children).1 := by
    rw [named_eq, List.filter_cons_of_neg (by simp), List.filter_eq_self]
    intro visit hvisit
    obtain ⟨child, hchild, rfl⟩ := mem_visitsOf (fun child hchild => (hchildren child hchild).2)
      visit hvisit
    simp [visitOf, childPath, (hchildren child hchild).1]
  simp only [leaves, hkept, hroot, Bool.and_false, Bool.false_eq_true, if_false]

end Module

/-! ### Leaves of a sequence -/

theorem Part.stores_filter {children : List (String × Module)} {parts : List Part}
    (h : List.Forall₂ Part.IsChild children parts) :
    List.Forall₂ (fun child s => child.2.info.Stores s)
      (children.filter (·.2.info.isDense)) (stored parts) := by
  induction h with
  | nil => exact .nil
  | @cons child part children parts hpart _ ih =>
    have hdense := hpart.describes.isDense
    cases part with
    | linear s =>
      rw [List.filter_cons_of_pos (by simpa [stored?] using hdense)]
      exact .cons hpart.describes.1 ih
    | _ =>
      rw [List.filter_cons_of_neg (by simpa [stored?] using hdense)]
      exact ih

theorem ModuleInfo.Stores.shown_eq {info : ModuleInfo} {s : StoredLayer} (h : info.Stores s) :
    info.shown = s.tensors :=
  Prod.ext h.weight h.bias

/-- What the leaves show determines what they store. -/
theorem StoredLayer.eq_of_stores {leaves : List (String × ModuleInfo)}
    {kept : List (String × StoredLayer)} {layers : List StoredLayer}
    (hkept : List.Forall₂ Module.LeafStores leaves kept)
    (hlayers : List.Forall₂ (fun leaf s => leaf.2.Stores s) leaves layers) :
    kept.map Prod.snd = layers := by
  induction hkept generalizing layers with
  | nil => rw [List.forall₂_nil_left_iff.1 hlayers, List.map_nil]
  | @cons leaf k leaves kept hleaf _ ih =>
    obtain ⟨s, rest, hs, hrest, rfl⟩ := List.forall₂_cons_left_iff.1 hlayers
    have htensors : k.2.tensors = s.tensors := hleaf.stores.shown_eq.symm.trans hs.shown_eq
    rw [List.map_cons, ih hrest, tensors_injective htensors]

/-! ### Findings of the leaves -/

/-- The scan calls the leaf dense if it is a fully connected layer and passes it otherwise. -/
def Finding.IsOfLeaf (leaf : String × ModuleInfo) (finding : Finding) : Prop :=
  finding.status = if leaf.2.isDense then .dense else .passThrough

theorem ModuleInfo.IsWeightless.isOfLeaf_passed {leaf : String × ModuleInfo}
    (h : leaf.2.IsWeightless) : Finding.IsOfLeaf leaf (.passed (.ofModule leaf.1 leaf.2)) := by
  rw [Finding.IsOfLeaf, h.isDense]
  rfl

theorem Finding.isCompatible_of_isOfLeaf {leaves : List (String × ModuleInfo)}
    {findings : List Finding} (h : List.Forall₂ IsOfLeaf leaves findings) (name : String) :
    (Report.mk name findings).isCompatible = !(leaves.filter (·.2.isDense)).isEmpty := by
  have hboth : findings.filter (·.status == .unsupported) = [] ∧
      (findings.filter (·.status == .dense)).isEmpty =
        (leaves.filter (·.2.isDense)).isEmpty := by
    induction h with
    | nil => exact ⟨rfl, rfl⟩
    | cons hleaf _ ih =>
      rw [IsOfLeaf] at hleaf
      split_ifs at hleaf with hdense <;> simp [hleaf, hdense, ih]
  rw [Report.isCompatible, Report.unsupported, Report.dense, Report.withStatus, Report.withStatus,
    hboth.1, hboth.2]
  rfl

theorem ModuleInfo.Stores.ofView {info : ModuleInfo} {s : StoredLayer} (h : info.Stores s)
    (name : String) :
    Finding.ofView (.ofModule name info) =
      .ok ⟨.text name, info.className, .dense,
        "Dense layer; compiled to a flash table and a multiply-accumulate loop.", ""⟩ := by
  simp only [Finding.ofView, LayerView.ofModule, h.weight_eq, h.isLinear]
  rfl

namespace Module.IsSequence

variable {m : Module} {parts : List Part}

theorem exists_part (h : m.IsSequence parts) :
    ∀ child ∈ m.children, ∃ part, Part.IsChild child part := by
  have hboth : List.Forall₂ (fun child part => (∃ part, Part.IsChild child part) ∧
      Part.IsChild child part) m.children parts :=
    h.children.imp fun _ part hpart => ⟨⟨part, hpart⟩, hpart⟩
  exact ((List.forall₂_and_left ..).1 hboth).1

theorem children_leaves (h : m.IsSequence parts) :
    ∀ child ∈ m.children, child.1 ≠ "" ∧ child.2.isLeaf = true := by
  intro child hchild
  obtain ⟨part, hpart⟩ := h.exists_part child hchild
  exact ⟨hpart.name, hpart.isLeaf⟩

/-- A leaf is the root, which has no tensors, or a part. -/
theorem describes_leaves (h : m.IsSequence parts) :
    ∀ leaf ∈ m.leaves, leaf.2.IsBare "Sequential" false ∨ ∃ part, Part.Describes part leaf.2 := by
  cases hroot : m.isLeaf with
  | true =>
    rw [leaves_of_isLeaf hroot]
    exact List.forall_mem_singleton.2 (.inl h.info)
  | false =>
    rw [leaves_eq_visits hroot h.children_leaves]
    refine List.forall_mem_map.2 fun visit hvisit => .inr ?_
    obtain ⟨child, hchild, rfl⟩ :=
      mem_visitsOf (fun child hchild => (h.children_leaves child hchild).2) visit hvisit
    obtain ⟨part, hpart⟩ := h.exists_part child hchild
    exact ⟨part, hpart.describes⟩

/-- The fully connected leaves are the fully connected children. -/
theorem denseLeaves_eq (h : m.IsSequence parts) :
    m.denseLeaves =
      (m.children.filter (·.2.info.isDense)).map fun child => (child.1, child.2.info) := by
  cases hroot : m.isLeaf with
  | true =>
    -- The root is its only leaf then, and it has no weights.
    have hnone : m.children = [] := List.isEmpty_iff.1 hroot
    rw [denseLeaves, leaves_of_isLeaf hroot, hnone,
      List.filter_cons_of_neg (by simp [h.info.isWeightless.isDense])]
    rfl
  | false =>
    have hseen : ∀ child ∈ m.children, child.2.info.isDense = true →
        child.2.info.identity ∉ [m.info.identity] := fun child hchild _ => by
      simpa using h.outside child hchild
    have hvisits := filter_visitsOf ""
      (fun child hchild => (h.children_leaves child hchild).2) hseen h.once
    rw [denseLeaves, leaves_eq_visits hroot h.children_leaves, List.filter_map]
    exact (congrArg (List.map _) hvisits).trans (List.map_map ..)

theorem stores_denseLeaves (h : m.IsSequence parts) :
    List.Forall₂ (fun leaf s => leaf.2.Stores s) m.denseLeaves (Part.stored parts) := by
  rw [h.denseLeaves_eq, List.forall₂_map_left_iff]
  exact Part.stores_filter h.children

theorem showsLeaves (h : m.IsSequence parts) : m.showsLeaves = true := by
  have hnamed : ∀ visit ∈ m.named, visit.info.plain = [] := by
    rw [named_eq]
    refine List.forall_mem_cons.2 ⟨h.info.plain, fun visit hvisit => ?_⟩
    obtain ⟨child, hchild, rfl⟩ :=
      mem_visitsOf (fun child hchild => (h.children_leaves child hchild).2) visit hvisit
    obtain ⟨part, hpart⟩ := h.exists_part child hchild
    exact hpart.describes.plain
  rw [Module.showsLeaves, Bool.and_eq_true, List.all_eq_true]
  refine ⟨fun visit hvisit => ?_, ?_⟩
  · simp [ModuleInfo.hides_of_plain (hnamed visit hvisit)]
  · simp [ModuleInfo.hides_of_plain h.info.plain]

/-- A sequence is made of fully connected layers and of modules without weights. -/
theorem isDense (h : m.IsSequence parts) : m.IsDense where
  showsLeaves := h.showsLeaves
  leaves := by
    intro leaf hleaf
    rcases h.describes_leaves leaf hleaf with hroot | ⟨part, hpart⟩
    · exact .inr hroot.isWeightless
    · cases part with
      | linear s => exact .inl ⟨s, hpart.1⟩
      | _ => exact .inr (ModuleInfo.IsBare.isWeightless hpart)

/-! ### The network of a sequence -/

theorem exists_kept (h : m.IsSequence parts) :
    ∃ kept : List (String × StoredLayer), kept.map Prod.snd = Part.stored parts ∧
      (Model.tree m).extract = Network.create (kept.map fun k => k.2.layer k.1) := by
  obtain ⟨kept, hkept, hextract⟩ := h.isDense.exists_kept
  exact ⟨kept, StoredLayer.eq_of_stores hkept h.stores_denseLeaves, hextract⟩

/-! ### The scan of a sequence -/

theorem exists_finding (h : m.IsSequence parts) : ∀ leaf ∈ m.leaves, ∃ finding,
    Finding.ofView (.ofModule leaf.1 leaf.2) = .ok finding ∧ Finding.IsOfLeaf leaf finding := by
  intro leaf hleaf
  rcases h.describes_leaves leaf hleaf with hroot | ⟨part, hpart⟩
  · exact ⟨_, hroot.ofView leaf.1 (by decide) nofun, hroot.isWeightless.isOfLeaf_passed⟩
  · cases part with
    | linear s =>
      refine ⟨_, hpart.1.ofView leaf.1, ?_⟩
      rw [Finding.IsOfLeaf, hpart.1.isDense]
      rfl
    | relu =>
      have hrelu : leaf.2.IsBare "ReLU" true := hpart
      exact ⟨_, hrelu.ofView leaf.1 (by decide) (by decide), hrelu.isWeightless.isOfLeaf_passed⟩
    | dropout =>
      have hdropout : leaf.2.IsBare "Dropout" false := hpart
      exact ⟨_, hdropout.ofView leaf.1 (by decide) nofun, hdropout.isWeightless.isOfLeaf_passed⟩

/-- The scan passes a sequence exactly if it has a fully connected layer. -/
theorem exists_scan (h : m.IsSequence parts) :
    ∃ report, (Model.tree m).scan = .ok report ∧
      (report.isCompatible = true ↔ Part.stored parts ≠ []) := by
  have hviews : (Model.tree m).views =
      .ok (m.leaves.map fun leaf => LayerView.ofModule leaf.1 leaf.2) := if_pos h.showsLeaves
  obtain ⟨findings, hfindings⟩ := exists_mapM_eq_ok.2 (List.forall_mem_map.2 fun leaf hleaf =>
    (h.exists_finding leaf hleaf).imp fun _ => And.left)
  have hstatuses : List.Forall₂ Finding.IsOfLeaf m.leaves findings := by
    have hviewed := List.forall₂_map_left_iff.1 (mapM_eq_ok_iff.1 hfindings)
    refine ((List.forall₂_and_left ..).2 ⟨h.exists_finding, hviewed⟩).imp ?_
    rintro leaf finding ⟨⟨found, hfound, hstatus⟩, hfinding⟩
    rwa [← Except.ok.inj (hfound.symm.trans hfinding)]
  refine ⟨⟨m.info.className, findings⟩, ?_, ?_⟩
  · simp only [Model.scan, hviews, bind_eq_ok, pure_eq_ok]
    exact ⟨_, rfl, _, hfindings, rfl⟩
  · have hdense : m.denseLeaves = [] ↔ Part.stored parts = [] := by
      rw [← List.length_eq_zero_iff, ← List.length_eq_zero_iff, h.stores_denseLeaves.length_eq]
    rw [Finding.isCompatible_of_isOfLeaf hstatuses, ne_eq, ← hdense]
    simp [denseLeaves]

end Module.IsSequence

/-! ### A sequence of any parts -/

/-- The module of a part. -/
def Part.info (identity : Nat) : Part → ModuleInfo
  | linear s =>
    { identity := identity
      className := "Linear"
      isLinear := true
      isActivation := false
      parameters := ("weight", ⟨[s.outputs, s.inputs], s.weights⟩) ::
        (s.bias.map fun b => ("bias", Block.vector b)).toList
      buffers := [] }
  | relu => ⟨identity, "ReLU", false, true, [], [], [], []⟩
  | dropout => ⟨identity, "Dropout", false, false, [], [], [], []⟩

theorem Part.describes_info (part : Part) (identity : Nat) :
    part.Describes (part.info identity) := by
  cases part with
  | linear s =>
    refine ⟨⟨rfl, rfl, ?_⟩, rfl⟩
    cases hbias : s.bias <;>
      simp [info, ModuleInfo.bias, ModuleInfo.tensor?, lookup?, hbias]
  | relu => exact ⟨rfl, rfl, rfl, rfl, rfl, rfl⟩
  | dropout => exact ⟨rfl, rfl, rfl, rfl, rfl, rfl⟩

theorem Part.identity_info (part : Part) (identity : Nat) :
    (part.info identity).identity = identity := by
  cases part <;> rfl

/-- The children of a sequence, numbered from a position on. -/
def Part.childrenFrom (position : Nat) : List Part → List (String × Module)
  | [] => []
  | part :: rest =>
    (toString position, .node (part.info (position + 1)) []) :: childrenFrom (position + 1) rest

/-- The sequence of some parts. -/
def Module.sequence (parts : List Part) : Module :=
  .node ⟨0, "Sequential", false, false, [], [], [], []⟩ (Part.childrenFrom 0 parts)

namespace Part

theorem toString_ne_empty (position : Nat) : toString position ≠ "" := by
  intro hempty
  have hdigits : (toString position).toList = Nat.toDigits 10 position := by
    simp [toString, Nat.repr]
  rw [hempty] at hdigits
  exact Nat.toDigits_ne_nil hdigits.symm

theorem forall₂_childrenFrom (position : Nat) (parts : List Part) :
    List.Forall₂ IsChild (childrenFrom position parts) parts := by
  induction parts generalizing position with
  | nil => exact .nil
  | cons part rest ih =>
    exact .cons ⟨toString_ne_empty position, rfl, part.describes_info _⟩ (ih _)

theorem lt_identity_childrenFrom (position : Nat) (parts : List Part) :
    ∀ child ∈ childrenFrom position parts, position < child.2.info.identity := by
  induction parts generalizing position with
  | nil => exact List.forall_mem_nil _
  | cons part rest ih =>
    refine List.forall_mem_cons.2 ⟨?_, fun child hchild => ?_⟩
    · exact (part.identity_info _).symm ▸ Nat.lt_succ_self position
    · exact (Nat.lt_succ_self position).trans (ih _ child hchild)

theorem pairwise_childrenFrom (position : Nat) (parts : List Part) :
    (childrenFrom position parts).Pairwise fun a b =>
      a.2.info.identity ≠ b.2.info.identity := by
  induction parts generalizing position with
  | nil => exact .nil
  | cons part rest ih =>
    refine .cons (fun child hchild => ?_) (ih _)
    have hlt := lt_identity_childrenFrom (position + 1) rest child hchild
    exact Nat.ne_of_lt ((part.identity_info _).symm ▸ hlt)

end Part

theorem Module.isSequence_sequence (parts : List Part) : (sequence parts).IsSequence parts where
  info := ⟨rfl, rfl, rfl, rfl, rfl, rfl⟩
  children := Part.forall₂_childrenFrom 0 parts
  outside := fun child hchild => (Part.lt_identity_childrenFrom 0 parts child hchild).ne'
  once := (Part.pairwise_childrenFrom 0 parts).imp fun hne hsame => absurd hsame hne

/-! ### What both compute -/

/-- In exact arithmetic the network of a module obtains at its last layer, before the activation, the
    values that the sequence of the parts computes at its last fully connected part. -/
def Module.Computes (m : Module) (parts : List Part) (exp : ℚ → ℚ) (special : Datum → ℚ)
    (x : List ℚ) : Prop :=
  ∃ net y, (Model.tree m).extract = .ok net ∧ Part.lastSum parts x = some y ∧
    Network.logitsFrom (.exact exp special) x net.layers = .ok y ∧
    ∀ variant, net.forward (.exact exp special) variant x =
      Network.activate (.exact exp special) variant y

namespace Module.IsSequence

open StoredLayer

variable {m : Module} {parts : List Part} {x : List ℚ}

/-- The network of a sequence puts a positive part between any two of its fully connected layers. -/
theorem exists_network (h : m.IsSequence parts) (hstored : Part.stored parts ≠ [])
    (hchains : Chains x.length (Part.stored parts)) :
    ∃ net, (Model.tree m).extract = .ok net ∧ net.inputs = x.length ∧ ∀ exp special,
      Network.logitsFrom (.exact exp special) x net.layers =
        .ok (chainSum (Part.stored parts) x) := by
  obtain ⟨kept, hkept, hextract⟩ := h.exists_kept
  have hlayers : (kept.map fun k => k.2.layer k.1) ≠ [] := by
    rintro hnone
    rw [List.map_eq_nil_iff.1 hnone] at hkept
    exact hstored hkept.symm
  refine ⟨⟨_, hlayers⟩, hextract.trans (dif_pos hlayers), ?_, ?_⟩
  · cases kept with
    | nil => exact absurd rfl hlayers
    | cons k rest =>
      rw [← hkept] at hchains
      exact hchains.1.symm
  · rw [← hkept] at hchains ⊢
    exact fun exp special => logitsFrom_exact exp special hchains

theorem computes_iff (h : m.IsSequence parts) (hstored : Part.stored parts ≠ [])
    (hchains : Chains x.length (Part.stored parts)) (exp : ℚ → ℚ) (special : Datum → ℚ) :
    m.Computes parts exp special x ↔
      Part.lastSum parts x = some (chainSum (Part.stored parts) x) := by
  obtain ⟨net, hextract, hinputs, hvalues⟩ := h.exists_network hstored hchains
  have hlogits := hvalues exp special
  constructor
  · rintro ⟨other, y, hother, hsum, hy, -⟩
    obtain rfl := Except.ok.inj (hother.symm.trans hextract)
    rw [hsum, Except.ok.inj (hy.symm.trans hlogits)]
  · intro hsum
    refine ⟨net, _, hextract, hsum, hlogits, fun variant => ?_⟩
    rw [Network.forward, if_neg (by simp [hinputs]), hlogits]
    rfl

end Module.IsSequence

/-- A sequence is compiled to what it computes, whatever its weights and its inputs are, if and only
    if the kinds of its parts match; the scan does not look at their order. -/
theorem PartKind.areMatched_iff_computes (kinds : List PartKind) :
    AreMatched kinds ↔ ∀ m parts report exp special x, Module.IsSequence m parts →
      parts.map Part.kind = kinds → (Model.tree m).scan = .ok report →
      report.isCompatible = true → StoredLayer.Chains x.length (Part.stored parts) →
      m.Computes parts exp special x := by
  constructor
  · rintro hmatched m parts report exp special x hm rfl hreport hcompatible hchains
    obtain ⟨found, hfound, hstored⟩ := hm.exists_scan
    obtain rfl := Except.ok.inj (hfound.symm.trans hreport)
    have hsome := hstored.1 hcompatible
    exact (hm.computes_iff hsome hchains exp special).2
      (Part.lastSum_of_matchesFrom hmatched hsome x)
  · intro hcomputes
    by_contra hkinds
    -- Some weights tell the two apart, and the scan passes them as it passes any others.
    obtain ⟨isNegative, parts, y, hparts, hchains, hsum, hne⟩ :=
      Part.exists_lastSum_ne (Bool.eq_false_iff.2 hkinds)
    have hsequence := Module.isSequence_sequence parts
    have hsome : Part.stored parts ≠ [] := fun hnone => by
      simp [Part.lastSum_eq_none hnone] at hsum
    obtain ⟨report, hreport, hcompatible⟩ := hsequence.exists_scan
    have hwidth : StoredLayer.Chains ((StoredLayer.unit isNegative).apply [1]).length
        (Part.stored parts) := by
      rwa [StoredLayer.length_apply]
    have hsame := (hsequence.computes_iff hsome hwidth id fun _ => 0).1
      (hcomputes _ _ report id (fun _ => 0) _ hsequence hparts hreport (hcompatible.2 hsome) hwidth)
    exact hne (Option.some.inj (hsum.symm.trans hsame))

/-- Two fully connected layers with a positive part and a dropout between them. -/
def Part.sample : List Part := [.linear (.unit true), .relu, .dropout, .linear (.unit false)]

theorem PartKind.areMatched_iff_computes_sample :
    (Module.sequence Part.sample).Computes Part.sample id (fun _ => 0) [1] := by
  have hsequence := Module.isSequence_sequence Part.sample
  obtain ⟨report, hreport, hcompatible⟩ := hsequence.exists_scan
  exact (areMatched_iff_computes [.linear, .relu, .dropout, .linear]).1 (by decide) _ _ report id
    (fun _ => 0) [1] hsequence rfl hreport (hcompatible.2 nofun) ⟨rfl, rfl, trivial⟩

/-- Two fully connected layers with nothing between them. -/
def Part.adjacent : List Part := [.linear (.unit true), .linear (.unit false)]

/-- The scan passes them, and their network takes the positive part of what the first one yields. -/
theorem Module.not_computes_adjacent :
    (∃ report, (Model.tree (sequence Part.adjacent)).scan = .ok report ∧
      report.isCompatible = true) ∧
    Part.lastSum Part.adjacent [1] = some [-1] ∧
    ∃ net, (Model.tree (sequence Part.adjacent)).extract = .ok net ∧ ∀ exp special,
      Network.logitsFrom (.exact exp special) [1] net.layers = .ok [0] := by
  have hsequence := isSequence_sequence Part.adjacent
  obtain ⟨report, hreport, hcompatible⟩ := hsequence.exists_scan
  obtain ⟨net, hextract, -, hlogits⟩ :=
    hsequence.exists_network (x := [1]) nofun ⟨rfl, rfl, trivial⟩
  have hsum : Part.lastSum Part.adjacent [1] = some [-1] := by
    rw [Part.adjacent, Part.lastSum_linear, Part.lastSum_linear, StoredLayer.apply_unit]
    simp [Part.lastSum]
  have hchain : StoredLayer.chainSum (Part.stored Part.adjacent) [1] = [0] := by
    change (StoredLayer.unit false).apply (rectify ((StoredLayer.unit true).apply [1])) = [0]
    simp [rectify]
  rw [hchain] at hlogits
  exact ⟨⟨report, hreport, hcompatible.2 nofun⟩, hsum, net, hextract, hlogits⟩

end DenseSketch
