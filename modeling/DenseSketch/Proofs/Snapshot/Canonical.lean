import DenseSketch.Proofs.Snapshot.RoundTrip

/-!
# Snapshot files are canonical

All that a snapshot holds can be carried by a text.  So the text of a snapshot file is the canonical
text of what it is read as, and the caller's members may stand in any order.  This is the canonical
form of SPEC_FULL, section 9.4.
-/

namespace DenseSketch.Snapshot

open Document Text

/-! ### Parts of a snapshot -/

variable {asked : List String → Prop}

theorem isPortable_ofTexts (texts : List String) : IsPortable asked (.ofTexts texts) := by
  refine .list fun item hitem => ?_
  obtain ⟨s, -, rfl⟩ := List.mem_map.1 hitem
  exact .text s

theorem isPortable_ofData {xs : List Datum} (hxs : ∀ x ∈ xs, Format.binary32.Holds x) :
    IsPortable asked (ofData xs) := by
  refine .list fun item hitem => ?_
  obtain ⟨x, hx, rfl⟩ := List.mem_map.1 hitem
  exact .real (hxs x hx).widen

/-- What is asked of keys holds of those that a snapshot has of its own: they are different, and none
    of them has a surrogate. -/
def AsksNoMore (asked : List String → Prop) : Prop :=
  ∀ keys : List String, keys.Nodup → (∀ key ∈ keys, IsJoined key) → asked keys

theorem AsksNoMore.record (hasked : AsksNoMore asked) {members : List (String × Document)}
    (keys : List String) (hmembers : members.map Prod.fst = keys) (hkeys : keys.Nodup)
    (hjoined : ∀ key ∈ keys, IsJoined key) (hvalues : ∀ m ∈ members, IsPortable asked m.2) :
    IsPortable asked (.record members) :=
  .record (hmembers ▸ hasked keys hkeys hjoined) hvalues

theorem isPortable_ofLayer (hasked : AsksNoMore asked) {layer : Layer} (hlayer : IsStorable layer) :
    IsPortable asked (ofLayer layer) := by
  refine hasked.record ["name", "kind", "input_units", "output_units", "weights", "bias"] rfl
    (by decide) (by decide) ?_
  simp only [List.forall_mem_cons]
  refine ⟨?name, .text _, .integer _, .integer _, isPortable_ofData hlayer.weights, ?bias, nofun⟩
  case name =>
    obtain ⟨s, hname⟩ := hlayer.name
    rw [hname]
    exact .text s
  case bias =>
    cases hbias : layer.bias with
    | none => exact .null
    | some b => exact isPortable_ofData (hlayer.bias hbias)

theorem isPortable_ofMetadata (hasked : AsksNoMore asked) (m : Metadata) :
    IsPortable asked (ofMetadata m) := by
  refine hasked.record ["output_labels", "sample_window_size", "variant"] rfl (by decide)
    (by decide) ?_
  simp only [List.forall_mem_cons]
  exact ⟨isPortable_ofTexts _, .integer _, .text _, nofun⟩

variable {net : Network} {m : Metadata} {createdAt : String} {extra : List (String × Document)}

theorem isPortable_document (hasked : AsksNoMore asked)
    (hlayers : ∀ layer ∈ net.layers, IsStorable layer) (hextra : IsPortable asked (.record extra)) :
    IsPortable asked (document net m createdAt extra) := by
  refine hasked.record ["schema_version", "kind", "created_utc", "model", "metadata", "extra"]
    rfl (by decide) (by decide) ?_
  simp only [List.forall_mem_cons]
  refine ⟨.text _, .text _, .text _, ?model, isPortable_ofMetadata hasked m, hextra, nofun⟩
  case model =>
    refine hasked.record ["layers"] rfl (by decide) (by decide) ?_
    simp only [List.forall_mem_cons]
    refine ⟨.list fun item hitem => ?_, nofun⟩
    obtain ⟨layer, hlayer, rfl⟩ := List.mem_map.1 hitem
    exact isPortable_ofLayer hasked (hlayers layer hlayer)

/-- The members of a snapshot in the order of their keys. -/
theorem ordered_document :
    ordered (document net m createdAt extra).entries =
      [("created_utc", .text createdAt), ("extra", .record extra), ("kind", .text kind),
        ("metadata", ofMetadata m), ("model", .record [("layers", .list (net.layers.map ofLayer))]),
        ("schema_version", .text schemaVersion)] := by
  have hkeys : ["schema_version", "kind", "created_utc", "model", "metadata", "extra"].Perm
      ["created_utc", "extra", "kind", "metadata", "model", "schema_version"] := by decide
  have hnodup : ["created_utc", "extra", "kind", "metadata", "model", "schema_version"].Nodup := by
    decide
  refine ordered_eq hnodup ?_ (by simp only [List.pairwise_cons, List.forall_mem_cons]; decide)
  exact hkeys.map fun key => (key, ((document net m createdAt extra).member? key).getD .null)

/-! ### Texts -/

/-- The order of members makes no difference to the text, nor to what is refused. -/
theorem checkedText_eq_of_reordered {members members' : List (String × Document)}
    (h : Reordered (.record members) (.record members'))
    (hd : IsPortable List.Nodup (.record members)) :
    checkedText members' = checkedText members := by
  obtain ⟨hsorted, -⟩ := h.sorted_eq hd
  have hdepth : (Document.record members').depth = (Document.record members).depth := by
    rw [← depth_sorted, ← hsorted, depth_sorted]
  have hwritable : (Document.record members').isWritable = (Document.record members).isWritable := by
    rw [← isWritable_sorted, ← hsorted, isWritable_sorted]
  rw [checkedText, checkedText, hdepth, hwritable, fileText, fileText, canonical, canonical, hsorted]

/-- **Snapshot files are canonical.**  The text of a snapshot holds nothing but ASCII.  It is read as a
    document whose canonical text, with a line break behind it, is the same text again, as long as
    reading keeps the keys of the caller's members, and of the records within them, apart and in
    order.  Every snapshot that is not nested too deep and has no whole number that is too long has
    such a text, and its text is the same for every order in which these members are given. -/
theorem checkedText_canonical (hlayers : ∀ layer ∈ net.layers, IsStorable layer)
    (hextra : IsPortable List.Nodup (.record extra)) :
    (∀ text, checkedText (document net m createdAt extra).entries = .ok text →
      IsAscii text.toList ∧ ∃ d, Document.read text = .ok d ∧
        (IsPortable KeepsKeys (.record extra) → d.canonical ++ "\n" = text)) ∧
    ((document net m createdAt extra).depth ≤ maxNesting →
      (document net m createdAt extra).isWritable →
        ∃ text, checkedText (document net m createdAt extra).entries = .ok text) ∧
    ∀ extra', Reordered (.record extra) (.record extra') →
      checkedText (document net m createdAt extra').entries =
        checkedText (document net m createdAt extra).entries := by
  refine ⟨fun text htext => ?_, fun hdepth hwritable => ?_, fun extra' h => ?_⟩
  · obtain ⟨hdepth, hwritable, rfl⟩ := checkedText_eq_ok.1 htext
    refine ⟨isAscii_canonical _, restored (document net m createdAt extra),
      read_canonical (hdepth.trans (by decide)) hwritable, fun hkeeps => ?_⟩
    have hportable : IsPortable KeepsKeys (document net m createdAt extra) :=
      isPortable_document (fun _ => keepsKeys_of_isJoined) hlayers hkeeps
    exact congrArg (· ++ "\n") (canonical_restored hportable)
  · exact ⟨_, checkedText_eq_ok.2 ⟨hdepth, hwritable, rfl⟩⟩
  · have hportable : IsPortable List.Nodup (document net m createdAt extra) :=
      isPortable_document (fun _ hkeys _ => hkeys) hlayers hextra
    exact checkedText_eq_of_reordered
      (Reordered.value ((document net m createdAt []).entries.take 5) [] "extra" h) hportable

/-- Members of the caller's with a record inside, and the same ones in another order. -/
def nestedExtra : List (String × Document) :=
  [("b", .integer (-3)), ("a", .record [("é", .real (.zeroOf true)), ("c", .list [])])]

def reorderedExtra : List (String × Document) :=
  [("a", .record [("c", .list []), ("é", .real (.zeroOf true))]), ("b", .integer (-3))]

theorem isPortable_nestedExtra (hasked : AsksNoMore asked) :
    IsPortable asked (.record nestedExtra) := by
  refine hasked.record ["b", "a"] rfl (by decide) (by decide) ?_
  simp only [nestedExtra, List.forall_mem_cons]
  refine ⟨.integer _, hasked.record ["é", "c"] rfl (by decide) (by decide) ?_, nofun⟩
  simp only [List.forall_mem_cons]
  exact ⟨.real (by decide), .list nofun, nofun⟩

theorem reordered_nestedExtra : Reordered (.record nestedExtra) (.record reorderedExtra) :=
  .trans (.members (.swap ..)) (.value [] [("b", .integer (-3))] "a" (.members (.swap ..)))

theorem checkedText_canonical_odd : ∃ text d,
    checkedText (document odd oddMetadata "" nestedExtra).entries = .ok text ∧
      IsAscii text.toList ∧ Document.read text = .ok d ∧ d.canonical ++ "\n" = text ∧
      checkedText (document odd oddMetadata "" reorderedExtra).entries = .ok text := by
  obtain ⟨hcanonical, hexists, horder⟩ := @checkedText_canonical odd oddMetadata "" nestedExtra
    isStorable_odd (isPortable_nestedExtra fun _ hkeys _ => hkeys)
  obtain ⟨text, htext⟩ := hexists (by decide) (by decide)
  obtain ⟨hascii, d, hread, hwritten⟩ := hcanonical text htext
  have hkeeps := isPortable_nestedExtra fun _ => keepsKeys_of_isJoined
  exact ⟨text, d, htext, hascii, hread, hwritten hkeeps,
    (horder reorderedExtra reordered_nestedExtra).trans htext⟩

/-- Keys that change places when they are read: the first one is a pair of single surrogates. -/
def pairedExtra : List (String × Document) :=
  [(pair, .integer 1), ("\uffff", .integer 2)]

theorem isPortable_pairedExtra : IsPortable List.Nodup (.record pairedExtra) := by
  refine .record (by decide) ?_
  simp only [pairedExtra, List.forall_mem_cons]
  exact ⟨.integer _, .integer _, nofun⟩

theorem sorted_pairedExtra : sorted (.record pairedExtra) = .record pairedExtra := by
  rw [sorted_record]
  exact congrArg Document.record (List.mergeSort_of_pairwise (by decide))

theorem sorted_restored_pairedExtra : sorted (restored (.record pairedExtra)) =
    .record [("\uffff", .integer 2), ("😀", .integer 1)] := by
  have hrestored : restored (.record pairedExtra) =
      .record [("😀", .integer 1), ("\uffff", .integer 2)] := by
    have hordered : ordered pairedExtra = pairedExtra := List.mergeSort_of_pairwise (by decide)
    have hkept : rejoined "\uffff" = "\uffff" := rejoined_eq (by decide)
    rw [restored_record (by decide), hordered]
    simp only [pairedExtra, List.map_cons, List.map_nil, rejoined_pair, hkept]
    rfl
  rw [hrestored, sorted_record]
  exact congrArg Document.record (ordered_eq (by decide) (.swap ..) (by decide))

theorem chars_document_ne :
    Writer.chars 0 (sorted (restored (document odd oddMetadata "" pairedExtra))) ≠
      Writer.chars 0 (sorted (document odd oddMetadata "" pairedExtra)) := by
  have hkeeps : KeepsKeys ((document odd oddMetadata "" pairedExtra).entries.map Prod.fst) :=
    keepsKeys_of_isJoined (by decide) (by decide)
  have hrecord : document odd oddMetadata "" pairedExtra =
      .record (document odd oddMetadata "" pairedExtra).entries := rfl
  rw [hrecord, sorted_restored_record hkeeps, sorted_record, ← map_ordered, ordered_document]
  simp only [List.map_cons, sorted_pairedExtra, sorted_restored_pairedExtra]
  decide

/-- With such keys among the caller's members the text is that of another order. -/
theorem checkedText_not_canonical_paired :
    (∀ layer ∈ odd.layers, IsStorable layer) ∧ IsPortable List.Nodup (.record pairedExtra) ∧
    ∃ text d, checkedText (document odd oddMetadata "" pairedExtra).entries = .ok text ∧
      Document.read text = .ok d ∧ d.canonical ++ "\n" ≠ text := by
  have htext : checkedText (document odd oddMetadata "" pairedExtra).entries =
      .ok (fileText (document odd oddMetadata "" pairedExtra)) :=
    checkedText_eq_ok.2 ⟨by decide, by decide, rfl⟩
  have hread : Document.read (fileText (document odd oddMetadata "" pairedExtra)) =
      .ok (restored (document odd oddMetadata "" pairedExtra)) :=
    read_canonical (by decide) (by decide)
  refine ⟨isStorable_odd, isPortable_pairedExtra, _, _, htext, hread, fun heq => ?_⟩
  have hchars := congrArg String.toList heq
  simp only [fileText, canonical, write, String.toList_append, String.toList_ofList,
    List.append_cancel_right_eq] at hchars
  exact chars_document_ne hchars

end DenseSketch.Snapshot
