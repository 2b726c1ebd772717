import DenseSketch.Proofs.Model.StoredLayer

/-!
# Arrangements of the parts of a sequence

A sequence passes its input through fully connected layers, positive parts and dropouts in any
order.  Its network keeps the fully connected layers and puts a positive part between any two of
them, so it computes what the sequence computes exactly when the sequence has its positive parts
there: none before the first fully connected layer, and at least one between any two.
-/

namespace DenseSketch

/-! ### What a sequence computes -/

/-- The kind of a part. -/
inductive PartKind where
  | linear
  | relu
  | dropout
  deriving DecidableEq

/-- A part of a sequence. -/
inductive Part where
  | linear (s : StoredLayer)
  | relu
  | dropout

/-- The positive part of each value. -/
def rectify (x : List ℚ) : List ℚ := x.map (max 0)

theorem rectify_rectify (x : List ℚ) : rectify (rectify x) = rectify x := by
  rw [rectify, rectify, List.map_map]
  exact List.map_congr_left fun a _ => max_eq_right (le_max_left 0 a)

/-- The matrix of a stored layer times some values, plus its bias. -/
def StoredLayer.apply (s : StoredLayer) (x : List ℚ) : List ℚ :=
  List.ofFn (s.matrix.mulVec (fun j => x.getD j 0) + s.shift)

@[simp]
theorem StoredLayer.length_apply (s : StoredLayer) (x : List ℚ) : (s.apply x).length = s.outputs :=
  List.length_ofFn

namespace Part

def kind : Part → PartKind
  | linear _ => .linear
  | relu => .relu
  | dropout => .dropout

/-- The stored layer of a fully connected part. -/
def stored? : Part → Option StoredLayer
  | linear s => some s
  | _ => none

/-- What a part makes of values.  Nothing is dropped once training is over. -/
def apply : Part → List ℚ → List ℚ
  | linear s => s.apply
  | relu => rectify
  | dropout => id

/-- The stored layers of the fully connected parts. -/
def stored (parts : List Part) : List StoredLayer := parts.filterMap stored?

/-- The values that a sequence computes at its last fully connected part. -/
def lastSum : List Part → List ℚ → Option (List ℚ)
  | [], _ => none
  | part :: rest, x =>
    (lastSum rest (part.apply x)).or (part.stored?.map fun _ => part.apply x)

variable {parts rest : List Part} {x : List ℚ}

@[simp]
theorem stored_linear (s : StoredLayer) (rest : List Part) :
    stored (linear s :: rest) = s :: stored rest := rfl

@[simp]
theorem stored_relu (rest : List Part) : stored (relu :: rest) = stored rest := rfl

@[simp]
theorem stored_dropout (rest : List Part) : stored (dropout :: rest) = stored rest := rfl

@[simp]
theorem lastSum_linear (s : StoredLayer) (rest : List Part) (x : List ℚ) :
    lastSum (linear s :: rest) x = (lastSum rest (s.apply x)).or (some (s.apply x)) := rfl

@[simp]
theorem lastSum_relu (rest : List Part) (x : List ℚ) :
    lastSum (relu :: rest) x = lastSum rest (rectify x) := Option.or_none

@[simp]
theorem lastSum_dropout (rest : List Part) (x : List ℚ) :
    lastSum (dropout :: rest) x = lastSum rest x := Option.or_none

theorem lastSum_eq_none (h : stored parts = []) : lastSum parts x = none := by
  induction parts generalizing x with
  | nil => rfl
  | cons part rest ih =>
    cases part with
    | linear s => cases h
    | relu => rw [lastSum_relu, ih h]
    | dropout => rw [lastSum_dropout, ih h]

end Part

/-! ### What its network computes -/

namespace StoredLayer

/-- The values at the last layer where a positive part stands between any two. -/
def chainSum : List StoredLayer → List ℚ → List ℚ
  | [], x => x
  | [s], x => s.apply x
  | s :: rest, x => chainSum rest (rectify (s.apply x))

theorem chainSum_cons {rest : List StoredLayer} (s : StoredLayer) (x : List ℚ)
    (hrest : rest ≠ []) : chainSum (s :: rest) x = chainSum rest (rectify (s.apply x)) := by
  cases rest with
  | nil => exact absurd rfl hrest
  | cons => rfl

/-- The layers chain, and the first one reads this many values. -/
def Chains (width : Nat) : List StoredLayer → Prop
  | [] => True
  | s :: rest => width = s.inputs ∧ Chains s.outputs rest

variable (exp : ℚ → ℚ) (special : Datum → ℚ)

theorem linear_apply {s : StoredLayer} {x : List ℚ} (name : String) (hx : x.length = s.inputs) :
    (s.layer name).linear (.exact exp special) x = .ok (s.apply x) := by
  have hvalues : List.ofFn (fun j : Fin s.inputs => x.getD j 0) = x := by
    refine List.ext_getElem (by simp [hx]) fun i hi _ => ?_
    have hi' : i < x.length := by simpa [hx] using hi
    simp [hi']
  have hlinear := s.linear_layer exp special name fun j => x.getD j 0
  rwa [hvalues] at hlinear

theorem logitsFrom_exact {kept : List (String × StoredLayer)} {x : List ℚ}
    (h : Chains x.length (kept.map Prod.snd)) :
    Network.logitsFrom (.exact exp special) x (kept.map fun k => k.2.layer k.1) =
      .ok (chainSum (kept.map Prod.snd) x) := by
  induction kept generalizing x with
  | nil => rfl
  | cons k rest ih =>
    obtain ⟨hwidth, hrest⟩ := h
    have hlinear := linear_apply exp special k.1 hwidth
    cases rest with
    | nil => exact hlinear
    | cons next rest =>
      have hnext := ih (x := rectify (k.2.apply x)) (by simpa [rectify] using hrest)
      simp only [List.map_cons, Network.logitsFrom, hlinear, bind, Except.bind]
      exact hnext

end StoredLayer

/-! ### Arrangements -/

namespace PartKind

/-- Does every fully connected part read what its layer reads?  `met` says that one has been met,
    `rectified` that a positive part has been met behind it. -/
def matchesFrom (met rectified : Bool) : List PartKind → Bool
  | [] => true
  | linear :: rest => met == rectified && matchesFrom true false rest
  | relu :: rest => matchesFrom met true rest
  | dropout :: rest => matchesFrom met rectified rest

/-- No positive part stands before the first fully connected part, and at least one between any
    two. -/
def AreMatched (kinds : List PartKind) : Prop := matchesFrom false false kinds = true

instance (kinds : List PartKind) : Decidable (AreMatched kinds) :=
  inferInstanceAs (Decidable (_ = true))

end PartKind

/-- The positive parts where a condition holds, the values as they are otherwise. -/
def rectifyIf (condition : Bool) (x : List ℚ) : List ℚ := if condition then rectify x else x

theorem rectify_rectifyIf (condition : Bool) (x : List ℚ) :
    rectify (rectifyIf condition x) = rectifyIf true x := by
  cases condition with
  | false => rfl
  | true => exact rectify_rectify x

namespace Part

open StoredLayer PartKind

variable {parts : List Part} {met rectified : Bool}

/-- Where the kinds match, a sequence and its network come to the same values.  Both start out from
    one list of values, of which the network has taken the positive parts if a fully connected part
    has been met, and the sequence if a positive part has been met behind it. -/
theorem lastSum_of_matchesFrom (hkinds : matchesFrom met rectified (parts.map kind) = true)
    (hstored : stored parts ≠ []) (x : List ℚ) :
    lastSum parts (rectifyIf rectified x) =
      some (chainSum (stored parts) (rectifyIf met x)) := by
  induction parts generalizing met rectified x with
  | nil => exact absurd rfl hstored
  | cons part rest ih =>
    cases part with
    | relu =>
      rw [lastSum_relu, rectify_rectifyIf]
      exact ih hkinds hstored x
    | dropout =>
      rw [lastSum_dropout]
      exact ih hkinds hstored x
    | linear s =>
      obtain ⟨hsame, hrest⟩ := Bool.and_eq_true_iff.1 hkinds
      rw [lastSum_linear, stored_linear, eq_of_beq hsame]
      by_cases hlast : stored rest = []
      · rw [lastSum_eq_none hlast, hlast]
        rfl
      · have hnext := ih hrest hlast (s.apply (rectifyIf rectified x))
        rw [chainSum_cons s _ hlast]
        exact congrArg (Option.or · _) hnext

end Part

/-! ### Parts that tell a sequence from its network -/

/-- A layer that keeps its only value, or changes its sign. -/
def StoredLayer.unit (isNegative : Bool) : StoredLayer where
  inputs := 1
  outputs := 1
  weights := [.finite isNegative 1 0]
  bias := none
  inputs_pos := Nat.one_pos
  outputs_pos := Nat.one_pos
  weights_length := rfl
  bias_length := nofun
  weights_finite := by simp [Datum.isFinite]
  bias_finite := nofun

@[simp]
theorem StoredLayer.apply_unit (isNegative : Bool) (a : ℚ) :
    (unit isNegative).apply [a] = [if isNegative then -a else a] := by
  have hsum : (unit isNegative).apply [a] =
      [(∑ j : Fin 1, ([Datum.finite isNegative 1 0].getD (0 * 1 + j) .zero).toRat * [a].getD j 0) +
        Datum.zero.toRat] := rfl
  rw [hsum, Fin.sum_univ_one]
  cases isNegative <;> simp [Datum.toRat, Datum.zero]

/-- The part of a kind that keeps a value which is not negative. -/
def PartKind.keeping : PartKind → Part
  | linear => .linear (.unit false)
  | relu => .relu
  | dropout => .dropout

theorem rectify_singleton {a : ℚ} (ha : 0 ≤ a) : rectify [a] = [a] := by
  rw [rectify, List.map_singleton, max_eq_right ha]

namespace Part

open StoredLayer PartKind

variable {kinds : List PartKind} {met rectified : Bool} {a : ℚ}

theorem map_kind_keeping (kinds : List PartKind) : (kinds.map keeping).map kind = kinds := by
  rw [List.map_map]
  refine (List.map_congr_left fun k _ => ?_).trans (List.map_id _)
  cases k <;> rfl

theorem chains_keeping (kinds : List PartKind) : Chains 1 (stored (kinds.map keeping)) := by
  induction kinds with
  | nil => trivial
  | cons k rest ih =>
    cases k with
    | linear => exact ⟨rfl, ih⟩
    | _ => exact ih

theorem lastSum_keeping (kinds : List PartKind) (ha : 0 ≤ a) :
    (lastSum (kinds.map keeping) [a]).getD [a] = [a] := by
  induction kinds with
  | nil => rfl
  | cons k rest ih =>
    cases k with
    | linear => simpa [keeping] using ih
    | relu => simpa [keeping, rectify_singleton ha] using ih
    | dropout => simpa [keeping] using ih

theorem chainSum_keeping (kinds : List PartKind) (ha : 0 ≤ a) :
    chainSum (stored (kinds.map keeping)) [a] = [a] := by
  induction kinds with
  | nil => rfl
  | cons k rest ih =>
    cases k with
    | linear =>
      by_cases hlast : stored (rest.map keeping) = []
      · simp [keeping, hlast, chainSum]
      · simpa [keeping, chainSum_cons _ _ hlast, rectify_singleton ha] using ih
    | relu => exact ih
    | dropout => exact ih

/-- A change of sign before parts that keep what comes of it. -/
theorem lastSum_changing (kinds : List PartKind) (ha : 0 ≤ -a) :
    lastSum (linear (unit true) :: kinds.map keeping) [a] = some [-a] := by
  rw [lastSum_linear, apply_unit, Option.or_some]
  exact congrArg some (lastSum_keeping kinds ha)

theorem chainSum_changing (kinds : List PartKind) (ha : 0 ≤ -a) :
    chainSum (unit true :: stored (kinds.map keeping)) [a] = [-a] := by
  by_cases hlast : stored (kinds.map keeping) = []
  · rw [hlast]
    exact apply_unit true a
  · rw [chainSum_cons _ _ hlast, apply_unit, if_pos rfl, rectify_singleton ha]
    exact chainSum_keeping kinds ha

/-- Where the kinds do not match, some parts of these kinds tell a sequence from its network. -/
theorem exists_lastSum_ne (hkinds : matchesFrom met rectified kinds = false) :
    ∃ isNegative parts y, parts.map kind = kinds ∧ Chains 1 (stored parts) ∧
      lastSum parts (rectifyIf rectified ((unit isNegative).apply [1])) = some y ∧
      y ≠ chainSum (stored parts) (rectifyIf met ((unit isNegative).apply [1])) := by
  induction kinds generalizing met rectified with
  | nil => cases hkinds
  | cons k rest ih =>
    cases k with
    | relu =>
      obtain ⟨isNegative, parts, y, hparts, hchains, hsum, hne⟩ := ih hkinds
      refine ⟨isNegative, relu :: parts, y, congrArg (_ :: ·) hparts, hchains, ?_, hne⟩
      rw [lastSum_relu, rectify_rectifyIf, hsum]
    | dropout =>
      obtain ⟨isNegative, parts, y, hparts, hchains, hsum, hne⟩ := ih hkinds
      exact ⟨isNegative, dropout :: parts, y, congrArg (_ :: ·) hparts, hchains,
        (lastSum_dropout parts _).trans hsum, hne⟩
    | linear =>
      by_cases hsame : met = rectified
      · -- The parts behind this one tell them apart, from the value that this one is made to yield.
        subst hsame
        have hrest : matchesFrom true false rest = false := by simpa [matchesFrom] using hkinds
        obtain ⟨isNegative, parts, y, hparts, hchains, hsum, hne⟩ := ih hrest
        have hstored : stored parts ≠ [] := fun hnone => by simp [lastSum_eq_none hnone] at hsum
        have hone : rectifyIf met ((unit false).apply [1]) = [1] := by
          cases met <;> simp [rectifyIf, rectify]
        refine ⟨false, linear (unit isNegative) :: parts, y, congrArg (_ :: ·) hparts,
          ⟨rfl, hchains⟩, ?_, ?_⟩
        · rw [hone, lastSum_linear]
          exact congrArg (Option.or · _) hsum
        · rwa [hone, stored_linear, chainSum_cons _ _ hstored]
      · -- One of both reads 0 and the other one -1; this part makes 0 and 1 of them, which the parts
        -- behind it keep.
        have hzero : rectifyIf true ((unit true).apply [1]) = [0] := by
          simp [rectifyIf, rectify]
        have hminus : rectifyIf false ((unit true).apply [1]) = [-1] := by
          simp [rectifyIf]
        refine ⟨true, linear (unit true) :: rest.map keeping, ?_⟩
        cases met with
        | false =>
          obtain rfl : rectified = true := by simpa using hsame
          rw [hzero, hminus, stored_linear, chainSum_changing rest (by simp)]
          exact ⟨[-0], congrArg (_ :: ·) (map_kind_keeping rest), ⟨rfl, chains_keeping rest⟩,
            lastSum_changing rest (by simp), by decide⟩
        | true =>
          obtain rfl : rectified = false := by simpa using hsame
          rw [hzero, hminus, stored_linear, chainSum_changing rest (by simp)]
          exact ⟨[- -1], congrArg (_ :: ·) (map_kind_keeping rest), ⟨rfl, chains_keeping rest⟩,
            lastSum_changing rest (by simp), by decide⟩

end Part

end DenseSketch
