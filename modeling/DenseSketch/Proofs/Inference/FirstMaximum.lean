import DenseSketch.Inference.Argmax
import DenseSketch.Inference.Reference
import DenseSketch.Proofs.Document.Values
import DenseSketch.Proofs.List.Monadic
import DenseSketch.Proofs.Number.Nearest
import DenseSketch.Proofs.Report.Confidence
import DenseSketch.Proofs.Tensor.Nested

/-!
# The first maximum

A host looks for the first largest of a list of numbers, and a board for that of its outputs.  A
scan that keeps a position, one that keeps a value as well, and the scan of a sketch all stop at the
same position, whatever is among the values.  Without one that is not a number, it is the position
of the first maximum.  This is the tie-break of SPEC_FULL, section 4.2.
-/

namespace DenseSketch

/-! ### First maxima -/

/-- The first largest of the values stands at a position: those before it are below it, and those
    behind it are not above it. -/
def IsFirstMaximum (values : List Datum) (b : Nat) (top : Datum) : Prop :=
  ∃ before after, values = before ++ top :: after ∧ before.length = b ∧
    (∀ x ∈ before, x.lt top) ∧ ∀ x ∈ after, x.le top

namespace IsFirstMaximum

variable {seen values : List Datum} {b : Nat} {top x : Datum}

theorem singleton (top : Datum) : IsFirstMaximum [top] 0 top :=
  ⟨[], [], rfl, rfl, List.forall_mem_nil _, List.forall_mem_nil _⟩

/-- A larger value takes over. -/
theorem append_larger (h : IsFirstMaximum seen b top) (hx : top.lt x) :
    IsFirstMaximum (seen ++ [x]) seen.length x := by
  refine ⟨seen, [], rfl, rfl, ?_, List.forall_mem_nil _⟩
  obtain ⟨before, after, rfl, -, hbefore, hafter⟩ := h
  intro y hy
  rcases List.mem_append.1 hy with hy | hy
  · exact Datum.lt_of_le_of_lt (Datum.le_of_lt (hbefore y hy)) hx
  · rcases List.mem_cons.1 hy with rfl | hy
    · exact hx
    · exact Datum.lt_of_le_of_lt (hafter y hy) hx

/-- A value that is not larger changes nothing. -/
theorem append_le (h : IsFirstMaximum seen b top) (hx : x.le top) :
    IsFirstMaximum (seen ++ [x]) b top := by
  obtain ⟨before, after, rfl, hlength, hbefore, hafter⟩ := h
  refine ⟨before, after ++ [x], by simp, hlength, hbefore, ?_⟩
  rw [List.forall_mem_append, List.forall_mem_singleton]
  exact ⟨hafter, hx⟩

/-- A scan over numbers goes on from the first maximum so far to that of the whole list. -/
theorem exists_argmaxFrom {rest : List Datum} (h : IsFirstMaximum seen b top) (htop : top ≠ .nan)
    (hrest : ∀ x ∈ rest, x ≠ .nan) :
    ∃ p, IsFirstMaximum (seen ++ rest) (argmaxFrom Datum.lt top b seen.length rest) p := by
  -- On the values that are left; what is kept is the first maximum of those that have been seen.
  induction rest generalizing seen b top with
  | nil => exact ⟨top, by simpa [argmaxFrom] using h⟩
  | cons x rest ih =>
    obtain ⟨hx, hrest⟩ := List.forall_mem_cons.1 hrest
    have hnext : seen.length + 1 = (seen ++ [x]).length := by simp
    rw [argmaxFrom, List.append_cons, hnext]
    split
    · next hlarger => exact ih (h.append_larger hlarger) hx hrest
    · next hlarger =>
      have hle : x.le top := Datum.le_of_not_lt htop hx hlarger
      exact ih (h.append_le hle) htop hrest

theorem getElem? (h : IsFirstMaximum values b top) : values[b]? = some top := by
  obtain ⟨before, after, rfl, rfl, -, -⟩ := h
  simp

/-- No value is above the first maximum, and those at lower positions are below it. -/
theorem le_and_lt (h : IsFirstMaximum values b top) (htop : top ≠ .nan) {i : Nat}
    (hi : values[i]? = some x) : x.le top ∧ (i < b → x.lt top) := by
  obtain ⟨before, after, rfl, rfl, hbefore, hafter⟩ := h
  rcases lt_or_ge i before.length with hlt | hge
  · rw [List.getElem?_append_left hlt] at hi
    have hx := hbefore x (List.mem_of_getElem? hi)
    exact ⟨Datum.le_of_lt hx, fun _ => hx⟩
  · rw [List.getElem?_append_right hge] at hi
    refine ⟨?_, fun hlt => absurd hlt hge.not_gt⟩
    rcases List.mem_cons.1 (List.mem_of_getElem? hi) with rfl | hx
    · exact Datum.le_self htop
    · exact hafter x hx

end IsFirstMaximum

theorem isFirstMaximum_of_argmax {values : List Datum} {b : Nat}
    (hb : argmax Datum.lt values = .ok b) (hnumbers : ∀ x ∈ values, x ≠ .nan) :
    ∃ p, IsFirstMaximum values b p := by
  cases values with
  | nil => cases hb
  | cons first rest =>
    obtain ⟨hfirst, hrest⟩ := List.forall_mem_cons.1 hnumbers
    cases hb
    exact (IsFirstMaximum.singleton first).exists_argmaxFrom hfirst hrest

/-! ### Positions without values -/

section Positions

variable {α : Type} {lt : α → α → Bool} {values : List α}

/-- Round `i` of a scan that keeps a position only: the values at both positions are read from the
    list. -/
def positionRound (lt : α → α → Bool) (values : List α) (best i : Nat) : Option Nat := do
  let top ← values[best]?
  let x ← values[i]?
  return if lt top x then i else best

/-- Scans a list that is not empty and keeps a position only.  There is no result if a round reads
    beyond the list. -/
def positionScan (lt : α → α → Bool) (values : List α) : Option Nat :=
  (List.range' 1 (values.length - 1)).foldlM (positionRound lt values) 0

/-- The rounds from `i` on find what the scan finds there that keeps the value too, which always is
    the one at the position. -/
theorem foldlM_positionRound {i best : Nat} {top : α} {rest : List α}
    (hrest : values.drop i = rest) (htop : values[best]? = some top) :
    (List.range' i rest.length).foldlM (positionRound lt values) best =
        some (argmaxFrom lt top best i rest) ∧
      argmaxFrom lt top best i rest < values.length := by
  -- On the values that are left; what the other scan keeps is `top`.
  induction rest generalizing i best top with
  | nil => exact ⟨rfl, (List.getElem?_eq_some_iff.1 htop).1⟩
  | cons x rest ih =>
    obtain ⟨hx, hnext⟩ := getElem?_of_drop_eq_cons hrest
    have hround : positionRound lt values best i = some (if lt top x then i else best) := by
      simp [positionRound, htop, hx]
    rw [List.length_cons, List.range'_succ, List.foldlM_cons, hround, argmaxFrom,
      Option.bind_eq_bind, Option.bind_some]
    split
    · exact ih hnext hx
    · exact ih hnext htop

theorem positionScan_eq {b : Nat} (hb : argmax lt values = .ok b) :
    positionScan lt values = some b ∧ b < values.length := by
  cases values with
  | nil => cases hb
  | cons first rest =>
    have hrest : (first :: rest).drop 1 = rest := rfl
    have htop : (first :: rest)[0]? = some first := rfl
    cases hb
    exact foldlM_positionRound hrest htop

end Positions

/-! ### Numbers in one form -/

/-- The plain value is a number: a whole one, a real or a truth value. -/
def Document.IsNumber (d : Document) : Prop := d.quantity?.isSome

instance (d : Document) : Decidable d.IsNumber := inferInstanceAs (Decidable (_ = true))

/-- The exact numbers among plain values. -/
def exactNumbers (values : List Document) : List Datum :=
  (values.filterMap Document.quantity?).map Quantity.exact

/-- The numbers in the form in which they are compared.  With a whole number of more than 64 bits
    among them they are exact, and so are whole numbers that have room in one kind; otherwise they
    are doubles. -/
def compared (values : List Document) : List Datum :=
  if !values.any isArbitrary && areDoubles values then
    (exactNumbers values).map Format.binary64.round
  else exactNumbers values

section Numbers

variable {d : Document} {values : List Document}

namespace Document.IsNumber

theorem exists_quantity? (hd : d.IsNumber) : ∃ q, d.quantity? = some q :=
  Option.isSome_iff_exists.1 hd

theorem isScalar (hd : d.IsNumber) : d.IsScalar := by
  cases d with
  | list => cases hd
  | null | truth | integer | real | text | record => trivial

theorem isText_eq_false (hd : d.IsNumber) : isText d = false := by
  cases d with
  | text => cases hd
  | null | truth | integer | real | list | record => rfl

end Document.IsNumber

theorem exactNumbers_cons {q : Quantity} (hd : d.quantity? = some q) (rest : List Document) :
    exactNumbers (d :: rest) = q.exact :: exactNumbers rest := by
  rw [exactNumbers, List.filterMap_cons_some hd, List.map_cons, exactNumbers]

theorem mapM_quantity (hvalues : ∀ v ∈ values, v.IsNumber) :
    values.mapM Document.quantity = .ok (values.filterMap Document.quantity?) := by
  induction values with
  | nil => rfl
  | cons v values ih =>
    obtain ⟨hv, hvalues⟩ := List.forall_mem_cons.1 hvalues
    obtain ⟨q, hq⟩ := hv.exists_quantity?
    rw [List.mapM_cons, ih hvalues, Document.quantity, hq, List.filterMap_cons_some hq]
    rfl

/-- All numbers have an order, so that a scan that may be refused comes to its end. -/
theorem argmaxChecked_eq {best : Document} {q : Quantity} (hbest : best.quantity? = some q)
    (hvalues : ∀ v ∈ values, v.IsNumber) (position i : Nat) :
    argmaxChecked best position i values =
      .ok (argmaxFrom Datum.lt q.exact position i (exactNumbers values)) := by
  induction values generalizing best q position i with
  | nil => rfl
  | cons v values ih =>
    obtain ⟨hv, hvalues⟩ := List.forall_mem_cons.1 hvalues
    obtain ⟨r, hr⟩ := hv.exists_quantity?
    rw [argmaxChecked, Document.isBelow_of_quantity? hbest hr, exactNumbers_cons hr, argmaxFrom]
    simp only [bind, Except.bind]
    split
    · exact ih hr hvalues i (i + 1)
    · exact ih hbest hvalues position (i + 1)

theorem argmaxOfLeaves_eq (hvalues : ∀ v ∈ values, v.IsNumber) :
    argmaxOfLeaves values = argmax Datum.lt (compared values) := by
  unfold argmaxOfLeaves compared
  by_cases harbitrary : values.any isArbitrary
  · rw [if_pos harbitrary]
    simp only [harbitrary, Bool.not_true, Bool.false_and, Bool.false_eq_true, if_false]
    cases values with
    | nil => rfl
    | cons v values =>
      obtain ⟨hv, hvalues⟩ := List.forall_mem_cons.1 hvalues
      obtain ⟨q, hq⟩ := hv.exists_quantity?
      rw [exactNumbers_cons hq]
      exact argmaxChecked_eq hq hvalues 0 1
  · have htext : values.any isText = false :=
      List.any_eq_false.2 fun v hv => by simp [(hvalues v hv).isText_eq_false]
    rw [if_neg harbitrary, htext, mapM_quantity hvalues]
    simp [harbitrary, exactNumbers, bind, Except.bind]

/-- A list of numbers is scanned in one form. -/
theorem argmaxOf_list (hvalues : ∀ v ∈ values, v.IsNumber) :
    argmaxOf (.list values) = argmax Datum.lt (compared values) := by
  have hscalars : ∀ v ∈ values, v.IsScalar := fun v hv => (hvalues v hv).isScalar
  have hdims : Tensor.dimsOf (.list values) = .ok [values.length] := by
    rw [Tensor.dimsOf, Tensor.shapeOf_list hscalars]
    rfl
  rw [argmaxOf, hdims, Tensor.leaves, Tensor.leavesOf_of_isScalar hscalars,
    ← argmaxOfLeaves_eq hvalues]
  rfl

theorem length_compared (hvalues : ∀ v ∈ values, v.IsNumber) :
    (compared values).length = values.length := by
  have hexact : (exactNumbers values).length = values.length := by
    rw [exactNumbers, List.length_map, List.filterMap_length_eq_length]
    exact hvalues
  rw [compared]
  split
  · rw [List.length_map, hexact]
  · exact hexact

theorem nan_not_mem_exactNumbers (hnan : .real .nan ∉ values) : .nan ∉ exactNumbers values := by
  intro hmem
  obtain ⟨q, hq, hexact⟩ := List.mem_map.1 hmem
  obtain ⟨v, hv, hquantity⟩ := List.mem_filterMap.1 hq
  cases q with
  | whole n =>
    have hfinite := Datum.isFinite_ofInt n
    rw [show Datum.ofInt n = .nan from hexact] at hfinite
    cases hfinite
  | real x =>
    obtain rfl : x = .nan := hexact
    cases v <;> cases hquantity
    exact hnan hv

/-- In one form all numbers still are numbers. -/
theorem ne_nan_of_mem_compared (hnan : .real .nan ∉ values) : ∀ x ∈ compared values, x ≠ .nan := by
  have hexact : ∀ x ∈ exactNumbers values, x ≠ .nan := by
    rintro x hx rfl
    exact nan_not_mem_exactNumbers hnan hx
  rw [compared]
  split
  · rw [List.forall_mem_map]
    exact fun x hx => Format.round_ne_nan (hexact x hx)
  · exact hexact

/-- Doubles stay as they are. -/
theorem compared_reals {xs : List Datum} (hxs : ∀ x ∈ xs, Format.binary64.Holds x) :
    compared (xs.map .real) = xs := by
  have hexact : exactNumbers (xs.map .real) = xs := by
    simp [exactNumbers, List.filterMap_map, Function.comp_def, Document.quantity?, Quantity.exact]
  rw [compared, hexact]
  split
  · exact (List.map_congr_left fun x hx => (hxs x hx).round_eq).trans (List.map_id xs)
  · rfl

end Numbers

/-! ### Host and board -/

/-- The scan of a report stops with this index and this probability. -/
def ClassReport.Call.Selects (call : ClassReport.Call) (b : Nat) (p : Datum) : Prop :=
  ClassReport.scanning.foldlM (fun s statement => statement.run call s) {} =
    some { pred := b, maxConf := p }

/-- A board selects the index that a host finds. -/
theorem ClassReport.selects_of_argmax {call : ClassReport.Call} {values : List Datum} {b : Nat}
    {p : Datum} (hprobs : call.probs = values) (houtputs : call.outputs = values.length)
    (hb : argmax Datum.lt values = .ok b) (hp : values[b]? = some p) : call.Selects b p := by
  subst hprobs
  obtain ⟨q, hq, hselects⟩ := ClassReport.exists_scanning_eq houtputs.symm hb
  obtain rfl : p = q := Option.some.inj (hp.symm.trans hq)
  exact hselects

theorem argmax_eq_error_iff {values : List Datum} {fault : Fault} :
    argmax Datum.lt values = .error fault ↔ values = [] ∧ fault = .vector .emptyArgmax := by
  cases values with
  | nil => simp [argmax, eq_comm]
  | cons first rest => simp [argmax]

/-- The position `b` of the value `p` is what host and board find in a list of numbers. -/
structure IsPicked (values : List Document) (b : Nat) (p : Datum) : Prop where
  host : argmaxOf (.list values) = .ok b
  inside : b < values.length
  value : (compared values)[b]? = some p
  /-- A scan that keeps a position only stops there. -/
  byPosition : positionScan Datum.lt (compared values) = some b
  /-- A board that is given these values selects the index. -/
  board : ∀ call : ClassReport.Call,
    call.probs = compared values → call.outputs = values.length → call.Selects b p
  /-- If all are numbers, none is above the one picked, and those before it are below it. -/
  first : .real .nan ∉ values →
    ∀ i x, (compared values)[i]? = some x → x.le p ∧ (i < b → x.lt p)

theorem exists_isPicked {values : List Document} (hvalues : ∀ v ∈ values, v.IsNumber)
    (hne : values ≠ []) : ∃ b p, IsPicked values b p := by
  have hlength := length_compared hvalues
  have hcompared : compared values ≠ [] :=
    List.ne_nil_of_length_pos (hlength ▸ List.length_pos_of_ne_nil hne)
  obtain ⟨b, hb⟩ := exists_argmax_eq_ok Datum.lt hcompared
  obtain ⟨hposition, hinside⟩ := positionScan_eq hb
  have hp := List.getElem?_eq_getElem hinside
  refine ⟨b, (compared values)[b], ?_, hlength ▸ hinside, hp, hposition, ?_, ?_⟩
  · rw [argmaxOf_list hvalues, hb]
  · intro call hprobs houtputs
    exact ClassReport.selects_of_argmax hprobs (houtputs.trans hlength.symm) hb hp
  · intro hnan i x hi
    have hnumbers := ne_nan_of_mem_compared hnan
    obtain ⟨p, hfirst⟩ := isFirstMaximum_of_argmax hb hnumbers
    obtain rfl : (compared values)[b] = p := Option.some.inj (hp.symm.trans hfirst.getElem?)
    exact hfirst.le_and_lt (hnumbers _ (List.getElem_mem hinside)) hi

/-- **Host and board pick the first maximum.**  Of each list of numbers that is not empty, infinities
    and what is not a number included, the host picks a position inside the list, the one that a scan
    keeps which keeps positions only and the one that the report in each sketch of a classifier
    selects of the same values.  If all of them are numbers, none is above the one picked, and those
    before it are below it.  A list is refused exactly if it is empty, for a wrong value.  The numbers
    are compared in one form, and a list of doubles has this form already. -/
theorem isPicked_or_refused {values : List Document} (hvalues : ∀ v ∈ values, v.IsNumber) :
    (values ≠ [] → ∃ b p, IsPicked values b p) ∧
      (∀ fault, argmaxOf (.list values) = .error fault ↔
        values = [] ∧ fault = .vector .emptyArgmax) ∧
      (Fault.vector .emptyArgmax).isValueFault ∧
      (∀ xs, values = xs.map .real → (∀ x ∈ xs, Format.binary64.Holds x) →
        compared values = xs) ∧
      ∀ project d s reading, ClassReport.function <:+ Sketch.classifier project d s reading := by
  refine ⟨exists_isPicked hvalues, fun fault => ?_, rfl, ?_, ClassReport.function_suffix_classifier⟩
  · rw [argmaxOf_list hvalues, argmax_eq_error_iff, ← List.length_eq_zero_iff,
      length_compared hvalues, List.length_eq_zero_iff]
  · rintro xs rfl hxs
    exact compared_reals hxs

-- Nothing is above what is not a number.
example : argmaxOf (.list [.real .nan, .integer 1]) = .ok 0 := rfl

/-- Numbers of which the last two are infinite. -/
def infiniteValues : List Document :=
  [.real (.infinite true), .integer 1, .real (.infinite false), .real (.infinite false)]

/-- A call with these numbers as its outputs. -/
def ClassReport.infiniteCall : ClassReport.Call :=
  { ClassReport.sampleCall with
    outputs := 4
    probs := [.infinite true, .one, .infinite false, .infinite false] }

/-- Of two infinities the first one is picked. -/
theorem isPicked_or_refused_infinite :
    (∀ v ∈ infiniteValues, v.IsNumber) ∧ argmaxOf (.list infiniteValues) = .ok 2 ∧
      ClassReport.infiniteCall.Selects 2 (.infinite false) ∧ Datum.one.lt (.infinite false) := by
  have hvalues : ∀ v ∈ infiniteValues, v.IsNumber := by decide
  have hcompared : compared infiniteValues = ClassReport.infiniteCall.probs := by decide
  have hnan : .real .nan ∉ infiniteValues := by simp [infiniteValues]
  obtain ⟨hpicked, -⟩ := isPicked_or_refused hvalues
  obtain ⟨b, p, h⟩ := hpicked (List.cons_ne_nil _ _)
  have hvalue := h.value
  have hone : (compared infiniteValues)[1]? = some .one := by rw [hcompared]; rfl
  obtain rfl : b = 2 := Except.ok.inj h.host.symm
  rw [hcompared] at hvalue
  obtain rfl : p = .infinite false := (Option.some.inj hvalue).symm
  exact ⟨hvalues, h.host, h.board _ hcompared.symm rfl, (h.first hnan 1 .one hone).2 (by decide)⟩

end DenseSketch
