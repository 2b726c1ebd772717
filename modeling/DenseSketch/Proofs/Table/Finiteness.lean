import DenseSketch.Proofs.Document.Values
import DenseSketch.Table.Basic

/-!
# Tables of finite values

The flash tables of a network are there when all its values are finite; otherwise they are refused
for one of the values that are not.
-/

namespace DenseSketch

variable {α β : Type}

/-- A result that is there when all of some values are finite, and otherwise refused for one that is
    not. -/
inductive NeedsFinite (values : List Datum) : Except Fault α → Prop where
  | ok {a : α} : (∀ x ∈ values, x.isFinite) → NeedsFinite values (.ok a)
  | error {x : Datum} : x ∈ values → x.isFinite = false →
      NeedsFinite values (.error (.nonFinite (.value x)))

namespace NeedsFinite

variable {xs ys : List Datum} {result : Except Fault α}

theorem pure (a : α) : NeedsFinite [] (.ok a) :=
  .ok (by simp)

theorem bind {next : α → Except Fault β} (hresult : NeedsFinite xs result)
    (hnext : ∀ a, NeedsFinite ys (next a)) : NeedsFinite (xs ++ ys) (result >>= next) := by
  cases hresult with
  | error hmem hx => exact .error (List.mem_append_left ys hmem) hx
  | @ok a hfinite =>
    have ha := hnext a
    change NeedsFinite (xs ++ ys) (next a)
    cases hstep : next a with
    | error fault =>
      rw [hstep] at ha
      cases ha with
      | error hmem hx => exact .error (List.mem_append_right xs hmem) hx
    | ok b =>
      rw [hstep] at ha
      cases ha with
      | ok hmore => exact .ok (List.forall_mem_append.2 ⟨hfinite, hmore⟩)

theorem map (f : α → β) (hresult : NeedsFinite xs result) :
    NeedsFinite xs (result >>= fun a => .ok (f a)) := by
  have hbind := hresult.bind fun a => NeedsFinite.pure (f a)
  rwa [List.append_nil] at hbind

theorem exists_eq_ok_iff (hresult : NeedsFinite xs result) :
    (∃ a, result = .ok a) ↔ ∀ x ∈ xs, x.isFinite := by
  cases hresult with
  | ok hfinite => exact ⟨fun _ => hfinite, fun _ => ⟨_, rfl⟩⟩
  | error hmem hx => simpa using ⟨_, hmem, hx⟩

theorem exists_of_eq_error (hresult : NeedsFinite xs result) {fault : Fault}
    (herror : result = .error fault) :
    ∃ x ∈ xs, x.isFinite = false ∧ fault = .nonFinite (.value x) := by
  cases hresult with
  | ok _ => cases herror
  | error hmem hx =>
    cases herror
    exact ⟨_, hmem, hx, rfl⟩

end NeedsFinite

namespace Table

variable {perLine : Document} {n : Int}

theorem needsFinite_literal (x : Datum) : NeedsFinite [x] (literal x) := by
  unfold literal
  split
  · next hx => exact .ok (by simpa using hx)
  · next hx => exact .error (List.mem_singleton_self x) (by simpa using hx)

theorem needsFinite_literals (values : List Datum) : NeedsFinite values (values.mapM literal) := by
  induction values with
  | nil => exact .pure []
  | cons x values ih =>
    rw [List.mapM_cons]
    exact (needsFinite_literal x).bind fun text => ih.map fun texts => text :: texts

theorem needsFinite_bodyLines (hwhole : perLine.wholeNumber = .ok n) (hpos : 0 < n)
    (values : List Datum) : NeedsFinite values (bodyLines values perLine) := by
  have hpositive : perLine.isNotPositive = .ok false := by
    rw [Document.isNotPositive_of_wholeNumber hwhole, decide_eq_false (Int.not_le.2 hpos)]
  have hlines := (needsFinite_literals values).map fun texts =>
    rowLines (Text.chunks n.toNat texts)
  rw [bodyLines, layout, hpositive, hwhole]
  exact hlines

theorem needsFinite_tableLines {values : List Datum} {body : Except Fault (List String)}
    (hbody : NeedsFinite values body) (name : String) (qualifier : Document) :
    NeedsFinite values (tableLines name body qualifier) :=
  hbody.map _

theorem needsFinite_layerLines (hwhole : perLine.wholeNumber = .ok n) (hpos : 0 < n)
    (suffix : String) (layer : Layer) (qualifier : Document) :
    NeedsFinite layer.parameters (layerLines suffix layer perLine qualifier) := by
  have htable : ∀ role values, NeedsFinite values
      (tableLines (suffixedName suffix role) (bodyLines values perLine) qualifier) :=
    fun role values => needsFinite_tableLines (needsFinite_bodyLines hwhole hpos values) _ _
  unfold layerLines Layer.parameters
  refine (htable .weights layer.weights).bind fun weights => ?_
  cases layer.bias with
  | none => exact .pure _
  | some bias => exact (htable .bias bias).map _

theorem needsFinite_layersLines (hwhole : perLine.wholeNumber = .ok n) (hpos : 0 < n)
    (qualifier : Document) (index : Nat) (layers : List Layer) :
    NeedsFinite (layers.flatMap Layer.parameters) (layersLines perLine qualifier index layers) := by
  have hlayer := fun (index : Nat) layer =>
    needsFinite_layerLines hwhole hpos (toString index) layer qualifier
  fun_induction layersLines perLine qualifier index layers with
  | case1 => exact .pure []
  | case2 index layer =>
    rw [List.flatMap_singleton]
    exact hlayer index layer
  | case3 index layer rest _ ih =>
    rw [List.flatMap_cons]
    exact (hlayer index layer).bind fun here => ih.map _

/-- The tables of a network need all its values to be finite, and nothing else. -/
theorem needsFinite_networkLines (hwhole : perLine.wholeNumber = .ok n) (hpos : 0 < n)
    (net : Network) (qualifier : Document) :
    NeedsFinite (net.layers.flatMap Layer.parameters) (networkLines net perLine qualifier) :=
  needsFinite_layersLines hwhole hpos qualifier 0 net.layers

end Table

end DenseSketch
