import DenseSketch.Proofs.Document.RoundTrip
import DenseSketch.Proofs.List.Lookup
import Mathlib.Data.List.Lex

/-!
# Canonical texts are read back

Putting the members of records in order changes neither how deep a document is nor whether it can be
written, and every member is found under its key as before.  So the canonical text of a document is
read back as the document, up to the order of members.  What is read back has the same canonical
text, and so has every document that differs in nothing but the order of members.
-/

/-! ### The order of texts -/

namespace DenseSketch.Text

theorem codeOf_injective : Function.Injective codeOf := by
  intro c d hcode
  rw [codeOf, codeOf] at hcode
  -- The code of a stand-in is a surrogate, and no character has one of its own.
  cases hc : surrogate? c with
  | none =>
    cases hd : surrogate? d with
    | none =>
      rw [hc, hd] at hcode
      exact Char.toNat_inj.1 hcode
    | some n =>
      rw [hc, hd, Option.getD_none, Option.getD_some] at hcode
      have hother := not_isSurrogate_toNat c
      rw [hcode, (surrogate?_eq_some hd).1] at hother
      cases hother
  | some m =>
    cases hd : surrogate? d with
    | none =>
      rw [hc, hd, Option.getD_none, Option.getD_some] at hcode
      have hother := not_isSurrogate_toNat d
      rw [← hcode, (surrogate?_eq_some hc).1] at hother
      cases hother
    | some n =>
      rw [hc, hd, Option.getD_some, Option.getD_some] at hcode
      rw [← charOf_of_surrogate? hc, ← charOf_of_surrogate? hd, hcode]

theorem not_isBelow_iff {s t : String} :
    (!isBelow t s) = true ↔ s.toList.map codeOf ≤ t.toList.map codeOf := by
  rw [isBelow, Bool.not_eq_true', decide_eq_false_iff_not]
  exact not_lt

theorem eq_of_not_isBelow {s t : String} (hst : (!isBelow t s) = true)
    (hts : (!isBelow s t) = true) : s = t := by
  have hcodes := le_antisymm (not_isBelow_iff.1 hst) (not_isBelow_iff.1 hts)
  exact String.toList_injective (List.map_injective_iff.2 codeOf_injective hcodes)

end DenseSketch.Text

namespace DenseSketch.Document

/-! ### Members in the order of their keys -/

section

variable {α β : Type}

/-- The members in the order of their keys. -/
def ordered (members : List (String × α)) : List (String × α) :=
  members.mergeSort fun a b => !Text.isBelow b.1 a.1

theorem ordered_perm (members : List (String × α)) : (ordered members).Perm members :=
  List.mergeSort_perm _ _

theorem pairwise_ordered (members : List (String × α)) :
    (ordered members).Pairwise fun a b => (!Text.isBelow b.1 a.1) = true := by
  refine List.pairwise_mergeSort (fun a b c hab hbc => ?_) (fun a b => ?_) members
  · rw [Text.not_isBelow_iff] at hab hbc ⊢
    exact hab.trans hbc
  · rw [Bool.or_eq_true, Text.not_isBelow_iff, Text.not_isBelow_iff]
    exact le_total _ _

@[simp]
theorem ordered_ordered (members : List (String × α)) :
    ordered (ordered members) = ordered members :=
  List.mergeSort_of_pairwise (pairwise_ordered members)

/-- What is done to the values does not change the order. -/
theorem map_ordered (f : α → β) (members : List (String × α)) :
    (ordered members).map (fun m => (m.1, f m.2)) =
      ordered (members.map fun m => (m.1, f m.2)) :=
  List.map_mergeSort fun _ _ _ _ => rfl

/-- Where no two members have the same key, the order in which they stood does not count. -/
theorem ordered_eq_of_perm {xs ys : List (String × α)} (hkeys : (xs.map Prod.fst).Nodup)
    (hperm : xs.Perm ys) : ordered xs = ordered ys := by
  have hboth := (ordered_perm xs).trans (hperm.trans (ordered_perm ys).symm)
  refine hboth.eq_of_pairwise (fun a b ha hb hab hba => ?_) (pairwise_ordered xs)
    (pairwise_ordered ys)
  refine List.inj_on_of_nodup_map hkeys ((ordered_perm xs).mem_iff.1 ha) ?_
    (Text.eq_of_not_isBelow hab hba)
  exact hperm.mem_iff.2 ((ordered_perm ys).mem_iff.1 hb)

theorem ordered_eq {xs ys : List (String × α)} (hkeys : (ys.map Prod.fst).Nodup)
    (hperm : xs.Perm ys) (hys : ys.Pairwise fun a b => (!Text.isBelow b.1 a.1) = true) :
    ordered xs = ys := by
  have hnodup : (xs.map Prod.fst).Nodup := (hperm.map Prod.fst).nodup_iff.2 hkeys
  rw [ordered_eq_of_perm hnodup hperm]
  exact List.mergeSort_of_pairwise hys

end

/-! ### Items and members one by one -/

theorem sortedItems_eq_map (items : List Document) : sortedItems items = items.map sorted := by
  induction items with
  | nil => rfl
  | cons item items ih => rw [sortedItems, ih, List.map_cons]

theorem sortedMembers_eq_map (members : List (String × Document)) :
    sortedMembers members = members.map fun m => (m.1, sorted m.2) := by
  induction members with
  | nil => rfl
  | cons member members ih => rw [sortedMembers, ih, List.map_cons]

theorem sorted_record (members : List (String × Document)) :
    sorted (.record members) = .record (ordered (members.map fun m => (m.1, sorted m.2))) := by
  rw [sorted, sortedMembers_eq_map]
  rfl

theorem sorted_list (items : List Document) : sorted (.list items) = .list (items.map sorted) := by
  rw [sorted, sortedItems_eq_map]

theorem rereadItems_eq_map (items : List Document) : rereadItems items = items.map reread := by
  induction items with
  | nil => rfl
  | cons item items ih => rw [rereadItems, ih, List.map_cons]

theorem rereadMembers_eq_map (members : List (String × Document)) :
    rereadMembers members = members.map fun m => (rejoined m.1, reread m.2) := by
  induction members with
  | nil => rfl
  | cons member members ih => rw [rereadMembers, ih, List.map_cons]

theorem depthOfMembers_perm {xs ys : List (String × Document)} (hperm : xs.Perm ys) :
    depthOfMembers xs = depthOfMembers ys := by
  induction hperm with
  | nil => rfl
  | cons member _ ih => rw [depthOfMembers, depthOfMembers, ih]
  | swap x y members =>
    simp only [depthOfMembers]
    exact Nat.max_left_comm ..
  | trans _ _ ih₁ ih₂ => exact ih₁.trans ih₂

theorem membersWritable_perm {xs ys : List (String × Document)} (hperm : xs.Perm ys) :
    membersWritable xs = membersWritable ys := by
  induction hperm with
  | nil => rfl
  | cons member _ ih => rw [membersWritable, membersWritable, ih]
  | swap x y members =>
    simp only [membersWritable]
    exact Bool.and_left_comm ..
  | trans _ _ ih₁ ih₂ => exact ih₁.trans ih₂

mutual

theorem depth_sorted (d : Document) : d.sorted.depth = d.depth := by
  match d with
  | .null | .truth _ | .integer _ | .real _ | .text _ => rfl
  | .list items => rw [sorted, depth, depth, depthOfItems_sorted]
  | .record members =>
    rw [sorted, depth, depth, depthOfMembers_perm (List.mergeSort_perm _ _), depthOfMembers_sorted]

theorem depthOfItems_sorted (items : List Document) :
    depthOfItems (sortedItems items) = depthOfItems items := by
  match items with
  | [] => rfl
  | item :: items =>
    rw [sortedItems, depthOfItems, depthOfItems, depth_sorted item, depthOfItems_sorted items]

theorem depthOfMembers_sorted (members : List (String × Document)) :
    depthOfMembers (sortedMembers members) = depthOfMembers members := by
  match members with
  | [] => rfl
  | (_, value) :: members =>
    rw [sortedMembers, depthOfMembers, depthOfMembers, depth_sorted value,
      depthOfMembers_sorted members]

end

mutual

theorem isWritable_sorted (d : Document) : d.sorted.isWritable = d.isWritable := by
  match d with
  | .null | .truth _ | .integer _ | .real _ | .text _ => rfl
  | .list items => rw [sorted, isWritable, isWritable, itemsWritable_sorted]
  | .record members =>
    rw [sorted, isWritable, isWritable, membersWritable_perm (List.mergeSort_perm _ _),
      membersWritable_sorted]

theorem itemsWritable_sorted (items : List Document) :
    itemsWritable (sortedItems items) = itemsWritable items := by
  match items with
  | [] => rfl
  | item :: items =>
    rw [sortedItems, itemsWritable, itemsWritable, isWritable_sorted item,
      itemsWritable_sorted items]

theorem membersWritable_sorted (members : List (String × Document)) :
    membersWritable (sortedMembers members) = membersWritable members := by
  match members with
  | [] => rfl
  | (_, value) :: members =>
    rw [sortedMembers, membersWritable, membersWritable, isWritable_sorted value,
      membersWritable_sorted members]

end

/-! ### What is read back -/

/-- The document as its canonical text gives it back. -/
def restored (d : Document) : Document := d.sorted.reread

theorem read_canonical {d : Document} (hdepth : d.depth ≤ maxNesting) (hd : d.isWritable) :
    read (d.canonical ++ "\n") = .ok d.restored := by
  rw [← depth_sorted] at hdepth
  rw [← isWritable_sorted] at hd
  have hbreak : EndsValue ['\n'] := by
    intro c hc
    cases hc
    exact .inr rfl
  have htext : d.canonical ++ "\n" = String.ofList (Writer.chars 0 d.sorted ++ ['\n']) := by
    rw [String.ofList_append]
    rfl
  rw [htext]
  exact read_write_append hdepth hd hbreak rfl

@[simp]
theorem restored_list (items : List Document) :
    restored (.list items) = .list (items.map restored) := by
  rw [restored, sorted_list, reread, rereadItems_eq_map, List.map_map]
  rfl

/-- Read back, the keys are different still, and none of them has changed places with another. -/
structure KeepsKeys (keys : List String) : Prop where
  nodup : (keys.map rejoined).Nodup
  inOrder : ∀ key ∈ keys, ∀ other ∈ keys, (!Text.isBelow other key) = true →
    (!Text.isBelow (rejoined other) (rejoined key)) = true

/-- Keys without a pair of single surrogates are read back as they are. -/
theorem keepsKeys_of_isJoined {keys : List String} (hkeys : keys.Nodup)
    (hjoined : ∀ key ∈ keys, Text.IsJoined key) : KeepsKeys keys := by
  have hread : ∀ key ∈ keys, rejoined key = key := fun key hkey => rejoined_eq (hjoined key hkey)
  constructor
  case nodup => rwa [(List.map_congr_left hread).trans (List.map_id keys)]
  case inOrder =>
    intro key hkey other hother hbelow
    rwa [hread key hkey, hread other hother]

/-- Where no two keys become the same, the members are read back in the order of their keys as they
    were written. -/
theorem restored_record {members : List (String × Document)}
    (hkeys : ((members.map Prod.fst).map rejoined).Nodup) :
    restored (.record members) =
      .record ((ordered members).map fun m => (rejoined m.1, restored m.2)) := by
  have hreread : rereadMembers (ordered (members.map fun m => (m.1, sorted m.2))) =
      (ordered members).map fun m => (rejoined m.1, restored m.2) := by
    rw [rereadMembers_eq_map, ← map_ordered, List.map_map]
    rfl
  have hnodup : (((ordered members).map fun m => (rejoined m.1, restored m.2)).map
      Prod.fst).Nodup := by
    rw [List.map_map] at hkeys ⊢
    exact ((ordered_perm members).map _).nodup_iff.2 hkeys
  rw [restored, sorted_record, reread, hreread, putAll_eq_append hnodup, List.nil_append]

/-- Where no two members have the same key, each one is found under its key. -/
theorem exists_restored_record (members : List (String × Document)) (keys : List String)
    (hmembers : members.map Prod.fst = keys) (hkeys : keys.Nodup)
    (hjoined : ∀ key ∈ keys, Text.IsJoined key) :
    ∃ kept, restored (.record members) = .record kept ∧
      ∀ key, lookup? key kept = (lookup? key members).map restored := by
  subst hmembers
  have hrejoined : (ordered members).map (fun m => (rejoined m.1, restored m.2)) =
      (ordered members).map fun m => (m.1, restored m.2) := by
    refine List.map_congr_left fun m hm => ?_
    have hkey : m.1 ∈ members.map Prod.fst :=
      List.mem_map_of_mem ((ordered_perm members).mem_iff.1 hm)
    rw [rejoined_eq (hjoined m.1 hkey)]
  refine ⟨_, restored_record (keepsKeys_of_isJoined hkeys hjoined).nodup, fun key => ?_⟩
  rw [hrejoined, lookup?_map, lookup?_perm (ordered_perm _)]
  exact ((ordered_perm members).map Prod.fst).nodup_iff.2 hkeys

/-! ### Canonical texts of what was read back -/

/-- What a text can carry: reals are doubles, and of the keys of each record something is asked. -/
inductive IsPortable (asked : List String → Prop) : Document → Prop
  | null : IsPortable asked .null
  | truth (value : Bool) : IsPortable asked (.truth value)
  | integer (value : Int) : IsPortable asked (.integer value)
  | real {value : Datum} (hvalue : Format.binary64.Holds value) : IsPortable asked (.real value)
  | text (value : String) : IsPortable asked (.text value)
  | list {items : List Document} (hitems : ∀ item ∈ items, IsPortable asked item) :
      IsPortable asked (.list items)
  | record {members : List (String × Document)} (hkeys : asked (members.map Prod.fst))
      (hvalues : ∀ m ∈ members, IsPortable asked m.2) : IsPortable asked (.record members)

variable {asked : List String → Prop}

theorem isPortable_list {items : List Document} :
    IsPortable asked (.list items) ↔ ∀ item ∈ items, IsPortable asked item := by
  refine ⟨fun h => ?_, .list⟩
  cases h with
  | list hitems => exact hitems

theorem isPortable_record {members : List (String × Document)} :
    IsPortable asked (.record members) ↔
      asked (members.map Prod.fst) ∧ ∀ m ∈ members, IsPortable asked m.2 := by
  refine ⟨fun h => ?_, fun h => .record h.1 h.2⟩
  cases h with
  | record hkeys hvalues => exact ⟨hkeys, hvalues⟩

section

variable {f g : Document → Document} (k : Nat)

theorem moreItems_congr {items : List Document}
    (hitems : ∀ item ∈ items, ∀ k, Writer.chars k (f item) = Writer.chars k (g item)) :
    Writer.moreItems k (items.map f) = Writer.moreItems k (items.map g) := by
  induction items with
  | nil => rfl
  | cons item items ih =>
    obtain ⟨hitem, hrest⟩ := List.forall_mem_cons.1 hitems
    simp only [List.map_cons, Writer.moreItems, hitem, ih hrest]

theorem chars_list_congr {items : List Document}
    (hitems : ∀ item ∈ items, ∀ k, Writer.chars k (f item) = Writer.chars k (g item)) :
    Writer.chars k (.list (items.map f)) = Writer.chars k (.list (items.map g)) := by
  cases items with
  | nil => rfl
  | cons item items =>
    obtain ⟨hitem, hrest⟩ := List.forall_mem_cons.1 hitems
    simp only [List.map_cons, Writer.chars, hitem, moreItems_congr _ hrest]

theorem moreMembers_congr {name : String → String}
    (hname : ∀ key, Writer.textChars (name key) = Writer.textChars key)
    {members : List (String × Document)}
    (hvalues : ∀ m ∈ members, ∀ k, Writer.chars k (f m.2) = Writer.chars k (g m.2)) :
    Writer.moreMembers k (members.map fun m => (name m.1, f m.2)) =
      Writer.moreMembers k (members.map fun m => (m.1, g m.2)) := by
  induction members with
  | nil => rfl
  | cons m members ih =>
    obtain ⟨hvalue, hrest⟩ := List.forall_mem_cons.1 hvalues
    simp only [List.map_cons, Writer.moreMembers, hname, hvalue, ih hrest]

/-- Members are written alike if their keys and their values are. -/
theorem chars_record_congr {name : String → String}
    (hname : ∀ key, Writer.textChars (name key) = Writer.textChars key)
    {members : List (String × Document)}
    (hvalues : ∀ m ∈ members, ∀ k, Writer.chars k (f m.2) = Writer.chars k (g m.2)) :
    Writer.chars k (.record (members.map fun m => (name m.1, f m.2))) =
      Writer.chars k (.record (members.map fun m => (m.1, g m.2))) := by
  cases members with
  | nil => rfl
  | cons m members =>
    obtain ⟨hvalue, hrest⟩ := List.forall_mem_cons.1 hvalues
    simp only [List.map_cons, Writer.chars, hname, hvalue, moreMembers_congr _ hname hrest]

end

/-- Where reading keeps the keys, the members of what is read back stand in order already. -/
theorem sorted_restored_record {members : List (String × Document)}
    (hkeys : KeepsKeys (members.map Prod.fst)) :
    sorted (restored (.record members)) =
      .record ((ordered members).map fun m => (rejoined m.1, sorted (restored m.2))) := by
  have hmem : ∀ m ∈ ordered members, m.1 ∈ members.map Prod.fst :=
    fun m hm => List.mem_map_of_mem ((ordered_perm members).mem_iff.1 hm)
  have hpairwise : ((ordered members).map fun m => (rejoined m.1, sorted (restored m.2))).Pairwise
      fun a b => (!Text.isBelow b.1 a.1) = true := by
    rw [List.pairwise_map]
    refine (pairwise_ordered members).imp_of_mem fun {a b} ha hb hbelow => ?_
    exact hkeys.inOrder a.1 (hmem a ha) b.1 (hmem b hb) hbelow
  rw [restored_record hkeys.nodup, sorted_record, List.map_map]
  exact congrArg Document.record (List.mergeSort_of_pairwise hpairwise)

/-- What is read back is written as before: its members stand in order already, its reals are doubles
    and what was joined is written as its parts were. -/
theorem chars_sorted_restored {d : Document} (hd : IsPortable KeepsKeys d) (k : Nat) :
    Writer.chars k (sorted (restored d)) = Writer.chars k (sorted d) := by
  induction hd generalizing k with
  | null => rfl
  | truth value => rfl
  | integer value => rfl
  | @real value hvalue =>
    change Writer.realChars (Format.binary64.round value) = Writer.realChars value
    rw [hvalue.round_eq]
  | text value => exact textChars_rejoined value
  | @list items _ ih =>
    rw [restored_list, sorted_list, sorted_list, List.map_map]
    exact chars_list_congr k ih
  | @record members hkeys _ ih =>
    rw [sorted_restored_record hkeys, sorted_record, ← map_ordered]
    exact chars_record_congr (f := fun d => sorted (restored d)) k textChars_rejoined fun m hm =>
      ih m ((ordered_perm members).mem_iff.1 hm)

theorem canonical_restored {d : Document} (hd : IsPortable KeepsKeys d) :
    d.restored.canonical = d.canonical :=
  congrArg String.ofList (chars_sorted_restored hd 0)

/-! ### Members in another order -/

/-- The second document has the members of the first one's records, at any depth, in another
    order. -/
inductive Reordered : Document → Document → Prop
  | members {xs ys : List (String × Document)} (hperm : xs.Perm ys) :
      Reordered (.record xs) (.record ys)
  | item (before after : List Document) {d d' : Document} (h : Reordered d d') :
      Reordered (.list (before ++ d :: after)) (.list (before ++ d' :: after))
  | value (before after : List (String × Document)) (key : String) {d d' : Document}
      (h : Reordered d d') :
      Reordered (.record (before ++ (key, d) :: after)) (.record (before ++ (key, d') :: after))
  | refl (d : Document) : Reordered d d
  | trans {a b c : Document} (hab : Reordered a b) (hbc : Reordered b c) : Reordered a c

/-- Put in order, such documents are the same, as long as no two members of a record have the same
    key. -/
theorem Reordered.sorted_eq {d d' : Document} (h : Reordered d d')
    (hd : IsPortable List.Nodup d) : sorted d = sorted d' ∧ IsPortable List.Nodup d' := by
  induction h with
  | @members xs ys hperm =>
    rw [isPortable_record] at hd ⊢
    obtain ⟨hkeys, hvalues⟩ := hd
    refine ⟨?_, (hperm.map Prod.fst).nodup_iff.1 hkeys, fun m hm => hvalues m (hperm.mem_iff.2 hm)⟩
    rw [sorted_record, sorted_record]
    refine congrArg Document.record (ordered_eq_of_perm ?_ (hperm.map _))
    rw [List.map_map]
    exact hkeys
  | @item before after d d' _ ih =>
    simp only [isPortable_list, List.forall_mem_append, List.forall_mem_cons] at hd ⊢
    obtain ⟨hbefore, hitem, hafter⟩ := hd
    obtain ⟨hsorted, hitem'⟩ := ih hitem
    refine ⟨?_, hbefore, hitem', hafter⟩
    simp only [sorted_list, List.map_append, List.map_cons, hsorted]
  | @value before after key d d' _ ih =>
    simp only [isPortable_record, List.forall_mem_append, List.forall_mem_cons, List.map_append,
      List.map_cons] at hd ⊢
    obtain ⟨hkeys, hbefore, hvalue, hafter⟩ := hd
    obtain ⟨hsorted, hvalue'⟩ := ih hvalue
    refine ⟨?_, hkeys, hbefore, hvalue', hafter⟩
    simp only [sorted_record, List.map_append, List.map_cons, hsorted]
  | refl d => exact ⟨rfl, hd⟩
  | trans _ _ ih₁ ih₂ =>
    obtain ⟨hfirst, hmiddle⟩ := ih₁ hd
    obtain ⟨hsecond, hlast⟩ := ih₂ hmiddle
    exact ⟨hfirst.trans hsecond, hlast⟩

end DenseSketch.Document
