import DenseSketch.Artifact
import DenseSketch.Proofs.Fault.Results
import DenseSketch.Snapshot.Basic

/-!
# Refusals of the storage

What the files and directories refuse is refused for their sake: a place is not as it should be, or
a name or a text cannot be written down.  Such a fault has no wording of its own, unlike that of a
check; and it says that a value is wrong only where a name or a text is.
-/

namespace DenseSketch

variable {α β : Type}

/-- The result is no refusal, or one without a wording. -/
def Silent (result : Except Fault α) : Prop :=
  ∀ fault, result = .error fault → fault.message? = none

namespace Silent

theorem ok (a : α) : Silent (.ok a) := fun _ h => by cases h

theorem error {fault : Fault} (hfault : fault.message? = none) :
    Silent (.error fault : Except Fault α) := by
  rintro _ ⟨⟩
  exact hfault

end Silent

/-- Does the fault say that a place is not as it should be? -/
def Fault.isOfPlace : Fault → Bool
  | .noSuchFile | .isDirectory | .notDirectory | .fileExists | .nameTooLong => true
  | _ => false

/-- The result is refused for a place only, or, if some name or text is unfit, for that. -/
def Stores (unfit : Prop) (result : Except Fault α) : Prop :=
  ∀ fault, result = .error fault →
    fault.isOfPlace = true ∨ unfit ∧ (fault = .badValue ∨ fault = .unencodable)

namespace Stores

variable {unfit : Prop}

theorem ok (a : α) : Stores unfit (.ok a) := fun _ h => by cases h

theorem place {fault : Fault} (hfault : fault.isOfPlace = true) :
    Stores unfit (.error fault : Except Fault α) := by
  rintro _ ⟨⟩
  exact .inl hfault

theorem value {fault : Fault} (hunfit : unfit) (hfault : fault = .badValue ∨ fault = .unencodable) :
    Stores unfit (.error fault : Except Fault α) := by
  rintro _ ⟨⟩
  exact .inr ⟨hunfit, hfault⟩

theorem error {fault : Fault} {result : Except Fault β} (hresult : Stores unfit result)
    (hfault : result = .error fault) : Stores unfit (.error fault : Except Fault α) := by
  rintro _ ⟨⟩
  exact hresult fault hfault

theorem map {result : Except Fault α} (hresult : Stores unfit result) (f : α → β) :
    Stores unfit (result.map f) := by
  cases result with
  | error fault => exact hresult.error rfl
  | ok a => exact ok (f a)

theorem bind {result : Except Fault α} {next : α → Except Fault β} (hresult : Stores unfit result)
    (hnext : ∀ a, Stores unfit (next a)) : Stores unfit (result >>= next) := by
  cases result with
  | error fault => exact hresult.error rfl
  | ok a => exact hnext a

theorem ite {p : Prop} [Decidable p] {first second : Except Fault α} (hfirst : Stores unfit first)
    (hsecond : Stores unfit second) : Stores unfit (if p then first else second) := by
  split
  · exact hfirst
  · exact hsecond

theorem foldlM {step : β → α → Except Fault β} (hstep : ∀ b a, Stores unfit (step b a))
    (xs : List α) (b : β) : Stores unfit (xs.foldlM step b) := by
  induction xs generalizing b with
  | nil => exact ok b
  | cons x xs ih => exact bind (hstep b x) ih

theorem silent {result : Except Fault α} (hresult : Stores unfit result) : Silent result := by
  intro fault hfault
  rcases hresult fault hfault with hplace | ⟨-, rfl | rfl⟩
  · cases fault <;> first | rfl | cases hplace
  · rfl
  · rfl

/-- What refuses a place does not say that a value is wrong. -/
theorem isValueFault {result : Except Fault α} (hresult : Stores False result) {fault : Fault}
    (hfault : result = .error fault) : fault.isValueFault = false := by
  rcases hresult fault hfault with hplace | ⟨hunfit, -⟩
  · cases fault <;> first | rfl | cases hplace
  · exact hunfit.elim

end Stores

variable {unfit : Prop}

/-! ### Names -/

namespace Location

variable {l other : Location}

/-- Every part of the location can be written down. -/
def IsFit (l : Location) : Prop :=
  ∀ part ∈ l.parts, part.toList.contains '\x00' = false ∧ Text.isEncodable part = true

instance (l : Location) : Decidable l.IsFit :=
  inferInstanceAs (Decidable (∀ part ∈ l.parts, _))

theorem IsFit.parent (h : l.IsFit) : l.parent.IsFit :=
  fun part hpart => h part (List.dropLast_subset _ hpart)

theorem IsFit.join (h : l.IsFit) (hother : other.IsFit) : (l.join other).IsFit := by
  unfold Location.join
  split
  · exact hother
  · intro part hpart
    rcases List.mem_append.1 hpart with hbase | hrest
    · exact h part hbase
    · exact hother part hrest

theorem stores_checkWriting (h : unfit ∨ l.IsFit) : Stores unfit l.checkWriting := by
  rcases h with hunfit | hfit
  · exact .ite (.value hunfit (.inl rfl)) (.ite (.value hunfit (.inr rfl)) (.ok ()))
  · have hzero : (l.parts.any fun part => part.toList.contains '\x00') = false :=
      List.any_eq_false.2 fun part hpart => by simpa using (hfit part hpart).1
    have hencodable : l.parts.all Text.isEncodable = true :=
      List.all_eq_true.2 fun part hpart => (hfit part hpart).2
    rw [checkWriting, hzero, hencodable]
    exact .ok ()

theorem stores_check (h : unfit ∨ l.IsFit) : Stores unfit l.check :=
  .bind (stores_checkWriting h) fun _ => .ite (.place rfl) (.ok ())

theorem silent_ofDocument (d : Document) : Silent (ofDocument d) := by
  cases d with
  | text s => exact .ok _
  | _ => exact .error rfl

end Location

namespace Tree

variable {tree : Tree} {l : Location}

theorem stores_enter (tree : Tree) (key : List String) (part : String) :
    Stores unfit (tree.enter key part) :=
  .ite (.place rfl) (.ite (.ok _) (.place rfl))

theorem stores_find (tree : Tree) (h : unfit ∨ l.IsFit) : Stores unfit (tree.find l) := by
  refine .bind (Location.stores_check h) fun _ =>
    .bind (.foldlM tree.stores_enter _ _) fun directory => ?_
  cases l.parts.getLast? <;> exact .ok _

/-! ### Directories -/

theorem stores_addDirectory (tree : Tree) (h : unfit ∨ l.IsFit) :
    Stores unfit (tree.addDirectory l) :=
  .bind (tree.stores_find h) fun _ => .ite (.place rfl) (.ok _)

theorem stores_ensureDirectory (tree : Tree) (h : unfit ∨ l.IsFit) :
    Stores unfit (tree.ensureDirectory l) := by
  have hadd := tree.stores_addDirectory h
  unfold ensureDirectory
  split
  · next fault hfault => exact .ite (.ok _) (hadd.error hfault)
  · exact hadd

/-- Each attempt to make a directory is refused only for what stands in its way. -/
theorem stores_makeWithin (tree : Tree) (h : unfit ∨ l.IsFit) (above : Nat) :
    Stores unfit (tree.makeWithin l above) := by
  induction above generalizing l with
  | zero => exact tree.stores_ensureDirectory h
  | succ above ih =>
    rw [makeWithin]
    split
    · split
      · next fault hfault => exact (ih (h.imp_right Location.IsFit.parent)).error hfault
      · next made _ => exact made.stores_ensureDirectory h
    · exact tree.stores_ensureDirectory h

theorem stores_makeDirectory (tree : Tree) (h : unfit ∨ l.IsFit) :
    Stores unfit (tree.makeDirectory l) :=
  tree.stores_makeWithin h _

/-! ### Files -/

theorem stores_write (tree : Tree) (h : unfit ∨ l.IsFit) {text : String}
    (htext : unfit ∨ Text.isEncodable text = true) : Stores unfit (tree.write l text).2 := by
  have hfind := tree.stores_find h
  unfold write
  split
  · next fault hfault => exact hfind.error hfault
  · split
    · exact .place rfl
    · split
      · exact .ok ()
      · next hencodable => exact .value (htext.resolve_right hencodable) (.inr rfl)

end Tree

theorem Snapshot.stores_save {l : Location} {text : String} (h : unfit ∨ l.IsFit)
    (htext : unfit ∨ Text.isEncodable text = true) (tree : Tree) :
    Stores unfit (save l text tree).2 := by
  have hdirectory := tree.stores_makeDirectory (h.imp_right Location.IsFit.parent)
  unfold save
  split
  · next fault hfault => exact hdirectory.error hfault
  · next made _ => exact (made.stores_write h htext).map _

theorem Snapshot.silent_save (l : Location) (text : String) (tree : Tree) :
    Silent (save l text tree).2 :=
  (stores_save (.inl trivial) (.inl trivial) tree).silent

namespace Artifact

/-- All texts of the files can be encoded. -/
def IsEncodable (a : Artifact) : Prop := ∀ file ∈ a.files, Text.isEncodable file.2 = true

theorem stores_writeFiles {directory : Location} {files : List (String × String)}
    (h : unfit ∨ directory.IsFit)
    (hfiles : ∀ file ∈ files,
      unfit ∨ (Location.ofText file.1).IsFit ∧ Text.isEncodable file.2 = true)
    (tree : Tree) : Stores unfit (writeFiles directory tree files).2 := by
  induction files generalizing tree with
  | nil => exact .ok []
  | cons file rest ih =>
    obtain ⟨hfile, hrest⟩ := List.forall_mem_cons.1 hfiles
    have hwrite := tree.stores_write (h.elim .inl fun hfit => hfile.imp_right (hfit.join ·.1))
      (hfile.imp_right And.right)
    unfold writeFiles
    dsimp only
    split
    · next changed fault hfault => exact hwrite.error (by rw [hfault])
    · exact (ih hrest _).map _

theorem stores_writeTo {a : Artifact} {directory : Location} (h : unfit ∨ directory.IsFit)
    (hfiles : ∀ file ∈ a.files,
      unfit ∨ (Location.ofText file.1).IsFit ∧ Text.isEncodable file.2 = true) (tree : Tree) :
    Stores unfit (a.writeTo directory tree).2 := by
  have hdirectory := tree.stores_makeDirectory h
  unfold writeTo
  split
  · next fault hfault => exact hdirectory.error hfault
  · exact stores_writeFiles h hfiles _

theorem silent_writeTo (a : Artifact) (directory : Location) (tree : Tree) :
    Silent (a.writeTo directory tree).2 :=
  (stores_writeTo (.inl trivial) (fun _ _ => .inl trivial) tree).silent

end Artifact

end DenseSketch
