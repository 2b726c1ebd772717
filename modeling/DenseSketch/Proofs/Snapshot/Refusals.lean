import DenseSketch.Proofs.Tensor.Nested
import DenseSketch.Snapshot.Basic

/-!
# Why a snapshot is refused

A text that is no snapshot is refused for a value of it, or because something in it has not the form
of what is looked for in its place.  A key that is missing is a wrong value.
-/

namespace DenseSketch

open RefusedFor

/-- The reasons that lie in the form of a document: something of another type, a number that is too
    large, or too many levels. -/
inductive Fault.IsOfForm : Fault → Prop
  | wrongType : IsOfForm .wrongType
  | noSuchMember : IsOfForm .noSuchMember
  | labelsText : IsOfForm .labelsText
  | overflow : IsOfForm .overflow
  | tooDeep : IsOfForm .tooDeep

theorem Fault.IsOfForm.not_isValueFault {fault : Fault} (h : fault.IsOfForm) :
    fault.isValueFault = false := by
  cases h <;> rfl

/-- The reasons for which a snapshot is refused. -/
def Fault.IsOfSnapshot (fault : Fault) : Prop := fault.isValueFault = true ∨ fault.IsOfForm

theorem Fault.IsOfNumber.isOfSnapshot {fault : Fault} (h : fault.IsOfNumber) :
    fault.IsOfSnapshot := by
  cases h with
  | wrongType => exact .inr .wrongType
  | badValue => exact .inl rfl
  | overflow => exact .inr .overflow

/-! ### Reading a text -/

namespace Document.Reader

theorem refusedFor_readNumber (negative : Bool) (cs : List Char) :
    RefusedFor Fault.IsOfSnapshot (readNumber negative cs) := by
  unfold readNumber
  dsimp only
  split
  · exact error (.inl rfl)
  · split
    · split
      · exact error (.inl rfl)
      · exact ok _
    · exact ok _

theorem refusedFor_expect (word : String) (value : Document) (cs : List Char) :
    RefusedFor Fault.IsOfSnapshot (expect word value cs) := by
  unfold expect
  split
  · exact ok _
  · exact error (.inl rfl)

theorem refusedFor_readPlain (cs : List Char) :
    RefusedFor Fault.IsOfSnapshot (readPlain cs) := by
  unfold readPlain
  split
  · split
    · exact ok _
    · exact error (.inl rfl)
  all_goals first
    | exact refusedFor_expect _ _ _
    | exact refusedFor_readNumber _ _

/-- With this fuel, what the reader refuses it refuses for one of these reasons. -/
def RefusesSnapshots {α : Type} (reader : Nat → Nat → List Char → Except Fault α) (fuel : Nat) :
    Prop :=
  ∀ depth cs, RefusedFor Fault.IsOfSnapshot (reader fuel depth cs)

theorem refusedFor_readValue_succ {fuel : Nat} (hitems : RefusesSnapshots readItems fuel)
    (hmembers : RefusesSnapshots readMembers fuel) : RefusesSnapshots readValue (fuel + 1) := by
  intro depth cs
  unfold readValue
  split
  · cases ‹fuel + 1 = 0›
  · exact error (.inr .tooDeep)
  · exact error (.inr .tooDeep)
  · cases ‹fuel + 1 = _›
    split
    · exact ok _
    · split
      · exact ok _
      · next fault h => exact error (hitems _ _ fault h)
  · cases ‹fuel + 1 = _›
    split
    · exact ok _
    · split
      · exact ok _
      · next fault h => exact error (hmembers _ _ fault h)
  · exact refusedFor_readPlain _

theorem refusedFor_readItems_succ {fuel : Nat} (hvalue : RefusesSnapshots readValue fuel)
    (hitems : RefusesSnapshots readItems fuel) : RefusesSnapshots readItems (fuel + 1) := by
  intro depth cs
  rw [readItems]
  split
  · next fault h => exact error (hvalue _ _ fault h)
  · split
    · exact ok _
    · split
      · exact ok _
      · next fault h => exact error (hitems _ _ fault h)
    · exact error (.inl rfl)

theorem refusedFor_readMembers_succ {fuel : Nat} (hvalue : RefusesSnapshots readValue fuel)
    (hmembers : RefusesSnapshots readMembers fuel) : RefusesSnapshots readMembers (fuel + 1) := by
  intro depth cs
  unfold readMembers
  split
  · cases ‹fuel + 1 = 0›
  · cases ‹fuel + 1 = _›
    split
    · exact error (.inl rfl)
    · split
      · split
        · next fault h => exact error (hvalue _ _ fault h)
        · split
          · exact ok _
          · split
            · exact ok _
            · next fault h => exact error (hmembers _ _ fault h)
          · exact error (.inl rfl)
      · exact error (.inl rfl)
  · exact error (.inl rfl)

theorem refusedFor_reading (fuel : Nat) :
    RefusesSnapshots readValue fuel ∧ RefusesSnapshots readItems fuel ∧
      RefusesSnapshots readMembers fuel := by
  -- The three readers call each other with less fuel.
  induction fuel with
  | zero =>
    exact ⟨fun _ _ => error (.inl rfl), fun _ _ => error (.inl rfl), fun _ _ => error (.inl rfl)⟩
  | succ fuel ih =>
    obtain ⟨hvalue, hitems, hmembers⟩ := ih
    exact ⟨refusedFor_readValue_succ hitems hmembers, refusedFor_readItems_succ hvalue hitems,
      refusedFor_readMembers_succ hvalue hmembers⟩

end Document.Reader

theorem Document.refusedFor_read (s : String) :
    RefusedFor Fault.IsOfSnapshot (Document.read s) := by
  unfold Document.read
  dsimp only
  split
  · next fault hvalue => exact error ((Reader.refusedFor_reading _).1 _ _ fault hvalue)
  · split
    · exact ok _
    · exact error (.inl rfl)

/-! ### Layers and metadata -/

theorem Layer.refusedFor_create (name : Document) (inputs outputs : Int)
    (shownInputs shownOutputs : String) (weights : List Datum) (bias : Option (List Datum)) :
    RefusedFor Fault.IsOfSnapshot
      (Layer.create name inputs outputs shownInputs shownOutputs weights bias) := by
  unfold Layer.create
  repeat' split
  all_goals first
    | exact ok _
    | exact error (.inl rfl)

theorem LayerParts.refusedFor_toLayer (parts : LayerParts) :
    RefusedFor Fault.IsOfSnapshot parts.toLayer := by
  have htensor (d : Document) : RefusedFor Fault.IsOfSnapshot (Tensor.ofDocument d) :=
    (Tensor.refusedFor_ofDocument d).mono fun _ => Fault.IsOfNumber.isOfSnapshot
  have hcount (d : Document) : RefusedFor Fault.IsOfSnapshot d.toInt :=
    d.refusedFor_toInt.mono fun _ => Fault.IsOfNumber.isOfSnapshot
  -- Whatever the bias and the kind are, the counts are read next.
  have hcounts (weights : Tensor) (bias : Option Tensor) : RefusedFor Fault.IsOfSnapshot (do
      let inputs ← parts.inputs.toInt
      if inputs ≤ 0 then
        throw (.shape (.units parts.name.shown parts.inputs.shown parts.outputs.shown))
      let outputs ← parts.outputs.toInt
      Layer.create parts.name inputs outputs parts.inputs.shown parts.outputs.shown weights.data
        (bias.map (·.data))) := by
    refine (hcount _).bind fun inputs _ => .refuse (fun _ => .inl rfl) ?_
    exact (hcount _).bind fun outputs _ => Layer.refusedFor_create _ _ _ _ _ _ _
  refine (htensor _).bind fun weights _ => ?_
  dsimp only
  split
  on_goal 2 => refine ((htensor _).map some).bind fun bias _ => ?_
  all_goals
    split
    · split
      · exact hcounts weights _
      · exact error (.inl rfl)
    · exact error (.inl rfl)

theorem Variant.refusedFor_ofDocument (d : Document) :
    RefusedFor Fault.IsOfSnapshot (Variant.ofDocument d) := by
  unfold Variant.ofDocument
  dsimp only
  split
  · next s =>
    cases ofName? s with
    | none => exact error (.inl rfl)
    | some variant => exact ok variant
  · split
    · exact error (.inr .noSuchMember)
    · exact error (.inl rfl)

theorem Document.refusedFor_items? (d : Document) : RefusedFor Fault.IsOfSnapshot d.items? := by
  cases d with
  | list | text | record => exact ok _
  | null | truth | integer | real => exact error (.inr .wrongType)

theorem Metadata.refusedFor_create (labels : List String) (variant : Variant) (window : Document) :
    RefusedFor Fault.IsOfSnapshot (Metadata.create labels variant window) := by
  refine (window.refusedFor_toInt.mono fun _ => Fault.IsOfNumber.isOfSnapshot).bind fun count _ => ?_
  split
  · exact ok _
  · exact error (.inl rfl)

theorem Metadata.refusedFor_ofDocuments (labels window variant : Document) :
    RefusedFor Fault.IsOfSnapshot (Metadata.ofDocuments labels window variant) := by
  refine .bind ?labels fun _ _ =>
    (Variant.refusedFor_ofDocument variant).bind fun _ _ => Metadata.refusedFor_create _ _ _
  unfold Metadata.labelsOf
  split
  · exact error (.inr .labelsText)
  · exact (Document.refusedFor_items? _).map _

/-! ### Snapshots -/

namespace Snapshot

/-- The same reasons, and keys that are missing. -/
def IsOfContent (fault : Fault) : Prop := fault.IsOfSnapshot ∨ ∃ key, fault = .noSuchKey key

theorem refusedFor_at? (d : Document) (key : String) : RefusedFor IsOfContent (at? d key) := by
  unfold at?
  split
  · split
    · exact ok _
    · exact error (.inr ⟨_, rfl⟩)
  · exact error (.inl (.inr .wrongType))

theorem refusedFor_toLayer (d : Document) : RefusedFor IsOfContent (toLayer d) := by
  have hcount (d : Document) : RefusedFor IsOfContent d.toInt :=
    d.refusedFor_toInt.mono fun _ h => .inl h.isOfSnapshot
  refine (refusedFor_at? _ _).bind fun _ _ => (refusedFor_at? _ _).bind fun _ _ =>
    (hcount _).bind fun _ _ => (refusedFor_at? _ _).bind fun _ _ =>
    (hcount _).bind fun _ _ => (refusedFor_at? _ _).bind fun _ _ => ?_
  exact (LayerParts.refusedFor_toLayer _).mono fun _ => .inl

theorem refusedFor_toMetadata (d : Document) : RefusedFor IsOfContent (toMetadata d) :=
  (refusedFor_at? _ _).bind fun _ _ => (refusedFor_at? _ _).bind fun _ _ =>
    (refusedFor_at? _ _).bind fun _ _ =>
      (Metadata.refusedFor_ofDocuments _ _ _).mono fun _ => .inl

theorem refusedFor_content (d : Document) : RefusedFor IsOfContent (content d) := by
  refine (refusedFor_at? _ _).bind fun _ _ => (refusedFor_at? _ _).bind fun layers _ => ?_
  refine (layers.refusedFor_items?.mono fun _ => .inl).bind fun entries _ => ?_
  refine (RefusedFor.mapM fun entry _ => refusedFor_toLayer entry).bind fun layers _ => ?_
  exact (refusedFor_at? _ _).bind fun metadata _ =>
    (refusedFor_toMetadata metadata).bind fun _ _ => ok _

theorem refusedFor_namingMissing {α : Type} {result : Except Fault α}
    (h : RefusedFor IsOfContent result) : RefusedFor Fault.IsOfSnapshot (namingMissing result) := by
  unfold namingMissing
  split
  · exact error (.inl rfl)
  · next other hother =>
    intro fault hfault
    rcases h fault hfault with hallowed | ⟨key, rfl⟩
    · exact hallowed
    · exact absurd hfault (hother key)

theorem refusedFor_checkForm (d : Document) : RefusedFor Fault.IsOfSnapshot (checkForm d) := by
  unfold checkForm
  split
  · split
    · split
      · dsimp only
        split
        · exact ok _
        · exact error (.inl rfl)
      · exact error (.inl rfl)
    · exact error (.inl rfl)
  · exact error (.inr .noSuchMember)

theorem refusedFor_ofDocument (d : Document) :
    RefusedFor Fault.IsOfSnapshot (ofDocument d) := by
  refine (refusedFor_checkForm d).bind fun _ _ =>
    (refusedFor_namingMissing (refusedFor_content d)).bind fun found _ => ?_
  refine RefusedFor.bind ?_ fun net _ => ok _
  unfold Network.create
  split
  · exact ok _
  · exact error (.inl rfl)

/-- Whatever a text says, it is refused as a snapshot for one of these reasons, if it is refused. -/
theorem refusedFor_ofText (s : String) : RefusedFor Fault.IsOfSnapshot (ofText s) :=
  (Document.refusedFor_read s).bind fun d _ => refusedFor_ofDocument d

end Snapshot

end DenseSketch
