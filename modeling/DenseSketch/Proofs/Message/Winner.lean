import DenseSketch.Proofs.Message.Lengths
import Mathlib.Data.List.NodupEquivFin

/-!
# Which output a message reports

A host looks the label of a message up in the labels it knows.  Labels are checked one at a time, so
nothing keeps two outputs from sharing one; the host finds the output that won exactly if no two do.
-/

namespace DenseSketch.Message

/-- Data of the unit interval whose sign is clear. -/
def IsProbability (p : Datum) : Prop :=
  p.isNegative = false ∧ p.le .one

/-- The label that a line reports. -/
def label? (line : String) : Option String :=
  match parse line with
  | .ok (.classification label _) => some label
  | _ => none

/-- The output that a host which knows the labels takes for the winner. -/
def winner? (labels : List String) (line : String) : Option Nat :=
  (label? line).bind fun label => labels.idxOf? label

/-- The messages of two outputs never report one label. -/
def Distinguishes (labels : List String) : Prop :=
  ∀ i j (hi : i < labels.length) (hj : j < labels.length), i ≠ j →
    ∀ p q, IsProbability p → IsProbability q →
      label? (frameClassification labels[i] p) ≠ label? (frameClassification labels[j] q)

/-- From each message a host learns which output it reports. -/
def Recovers (host : String → Option Nat) (labels : List String) : Prop :=
  ∀ i (hi : i < labels.length) p, IsProbability p →
    host (frameClassification labels[i] p) = some i

/-! ### The line of a label -/

theorem toList_body (label : String) (confidence : List Char) :
    (label ++ "," ++ String.ofList confidence).toList =
      label.toList ++ separator :: confidence := by
  simp [separator]

/-- Behind the separator stands what was written there, if that ends no line. -/
theorem payload_body (label : String) {confidence : List Char} {last : Char}
    (hlast : confidence.getLast? = some last) (hfeed : last ≠ '\n') (hreturn : last ≠ '\r') :
    payload (label ++ "," ++ String.ofList confidence ++ "\n") =
      label.toList ++ separator :: confidence := by
  have hend : (label ++ "," ++ String.ofList confidence).toList.getLast? = some last := by
    rw [String.toList_append, String.toList_ofList, List.getLast?_append, hlast]
    rfl
  rw [payload_of_mem ?_ ?_ List.mem_cons_self, toList_body]
  · rw [hend]
    simpa using hfeed
  · rw [hend]
    simpa using hreturn

/-- A message is read as its label, with the hundredths that were written. -/
theorem exists_parse_frame {label : String} {p : Datum}
    (hlabel : checkLabel .classification label = .ok ()) (hp : IsProbability p) :
    ∃ k : ℕ, k ≤ 10000 ∧ (k : ℤ) = roundHalfEven (100 * (Format.binary64.mul p hundred).toRat) ∧
      parse (frameClassification label p) =
        .ok (.classification label (Format.binary64.nearest false k 100)) := by
  obtain ⟨k, hle, htext, hk⟩ := exists_confidence Format.takesPercentages_binary64 hp.1 hp.2
  have hdigit : ∀ d < 10, Nat.digitChar d ≠ '\n' ∧ Nat.digitChar d ≠ '\r' := by decide
  obtain ⟨hfeed, hreturn⟩ := hdigit (k % 10) (Nat.mod_lt _ (by decide))
  have hpayload : payload (frameClassification label p) =
      label.toList ++ separator :: placedText 2 k := by
    rw [frameClassification, htext]
    exact payload_body label (getLast?_placedText 1 k) hfeed hreturn
  exact ⟨k, hle, hk, parse_of_payload hlabel hpayload⟩

theorem label?_frame {label : String} {p : Datum}
    (hlabel : checkLabel .classification label = .ok ()) (hp : IsProbability p) :
    label? (frameClassification label p) = some label := by
  obtain ⟨k, -, -, hparse⟩ := exists_parse_frame hlabel hp
  rw [label?, hparse]

/-- Of a zero with a sign the line has a sign that no confidence has, so it is refused. -/
theorem parse_frame_of_isNegative {label : String} {p : Datum}
    (hlabel : checkLabel .classification label = .ok ()) (hsign : p.isNegative)
    (hlow : Datum.zero.le p) :
    parse (frameClassification label p) =
      .error (.message (.classification (frameClassification label p))) := by
  have hline : payload (frameClassification label p) =
      label.toList ++ separator :: "-0.00".toList := by
    rw [frameClassification, confidence_of_isNegative _ hsign hlow]
    have hlast : "-0.00".toList.getLast? = some '0' := by decide
    exact payload_body label hlast (by decide) (by decide)
  have hsplit : splitAtLast (label.toList ++ separator :: "-0.00".toList) =
      some (label.toList, "-0.00".toList) :=
    splitAtLast_append (by decide)
  have hform : isConfidence "-0.00".toList = false := by decide
  have hempty : (label.toList ++ separator :: "-0.00".toList).isEmpty = false :=
    List.isEmpty_eq_false_iff.2 (List.append_ne_nil_of_left_ne_nil (toList_ne_nil hlabel) _)
  rw [parse, hline]
  simp only [hempty, not_tag_prefix hlabel, parseClassification, hsplit, hform,
    Bool.not_false, Bool.or_true, Bool.false_eq_true, if_false, if_true]

/-! ### All labels -/

section Labels

variable {labels : List String} {i : Nat} {p : Datum}

theorem idxOf?_of_mem {label : String} (hmem : label ∈ labels) :
    labels.idxOf? label = some (labels.idxOf label) := by
  cases hfound : labels.idxOf? label with
  | none => exact absurd hmem (List.idxOf?_eq_none_iff.1 hfound)
  | some i => rw [List.idxOf_eq_getD_idxOf?, hfound, Option.getD_some]

/-- The host finds the first output that has the label. -/
theorem winner?_frame (hlabels : checkLabels .classification labels = .ok ())
    (hi : i < labels.length) (hp : IsProbability p) :
    winner? labels (frameClassification labels[i] p) = some (labels.idxOf labels[i]) := by
  have hmem : labels[i] ∈ labels := List.getElem_mem hi
  have hlabel := label?_frame ((checkLabels_eq_ok.1 hlabels).2 _ hmem) hp
  rw [winner?, hlabel, Option.bind_some, idxOf?_of_mem hmem]

theorem isProbability_one : IsProbability .one := by
  constructor <;> decide

/-- No host tells two outputs apart whose messages are the same. -/
theorem nodup_of_recovers {host : String → Option Nat} (hhost : Recovers host labels) :
    labels.Nodup := by
  rw [List.nodup_iff_injective_getElem]
  intro i j hsame
  have hlabel : labels[i] = labels[j] := hsame
  have hi : host (frameClassification labels[i] .one) = some i.val :=
    hhost i i.isLt .one isProbability_one
  have hj : host (frameClassification labels[j] .one) = some j.val :=
    hhost j j.isLt .one isProbability_one
  rw [hlabel, hj] at hi
  exact Fin.ext (Option.some.inj hi).symm

theorem recovers_winner? (hlabels : checkLabels .classification labels = .ok ())
    (hnodup : labels.Nodup) : Recovers (winner? labels) labels := by
  intro i hi p hp
  rw [winner?_frame hlabels hi hp, hnodup.idxOf_getElem]

theorem nodup_of_distinguishes (hdistinct : Distinguishes labels) : labels.Nodup := by
  rw [List.nodup_iff_injective_getElem]
  intro i j hsame
  by_contra hne
  apply hdistinct i j i.isLt j.isLt (fun h => hne (Fin.ext h)) .one .one isProbability_one
    isProbability_one
  exact congrArg (fun label => label? (frameClassification label .one)) hsame

theorem distinguishes_of_nodup (hlabels : checkLabels .classification labels = .ok ())
    (hnodup : labels.Nodup) : Distinguishes labels := by
  intro i j hi hj hne p q hp hq hsame
  -- Equal labels would make the host take both outputs for the same one.
  have hwinner : winner? labels (frameClassification labels[i] p) =
      winner? labels (frameClassification labels[j] q) := by
    rw [winner?, winner?, hsame]
  rw [recovers_winner? hlabels hnodup i hi p hp, recovers_winner? hlabels hnodup j hj q hq]
    at hwinner
  exact hne (Option.some.inj hwinner)

/-- **Outputs are told apart exactly if no two share a label.**  For accepted labels it depends on
    this alone whether different outputs are reported under different labels and whether a host that
    knows the labels finds the output that won; without it no host at all can.  The probabilities
    have no sign: a line for the zero that has one is not read as a message. -/
theorem winner_known_iff_nodup (hlabels : checkLabels .classification labels = .ok ()) :
    (Distinguishes labels ↔ labels.Nodup) ∧
      (Recovers (winner? labels) labels ↔ labels.Nodup) ∧
      (∀ host, Recovers host labels → labels.Nodup) ∧
      ∀ label ∈ labels, ∀ p : Datum, p.isNegative → Datum.zero.le p →
        parse (frameClassification label p) =
          .error (.message (.classification (frameClassification label p))) := by
  refine ⟨⟨nodup_of_distinguishes, distinguishes_of_nodup hlabels⟩,
    ⟨nodup_of_recovers, recovers_winner? hlabels⟩, fun host => nodup_of_recovers, ?_⟩
  intro label hmem p hsign hlow
  exact parse_frame_of_isNegative ((checkLabels_eq_ok.1 hlabels).2 label hmem) hsign hlow

theorem winner_known_iff_nodup_sample :
    Distinguishes ["left", "Rä 😀"] ∧
      winner? ["left", "Rä 😀"]
        (frameClassification "Rä 😀" (Format.binary64.nearest false 9 10)) = some 1 := by
  have hlabels : checkLabels .classification ["left", "Rä 😀"] = .ok () := by decide
  obtain ⟨hdistinguishes, hrecovers, -, -⟩ := winner_known_iff_nodup hlabels
  refine ⟨hdistinguishes.2 (by decide), ?_⟩
  exact hrecovers.2 (by decide) 1 (by decide) (Format.binary64.nearest false 9 10)
    ⟨by decide, by decide⟩

/-- Labels are accepted of which one occurs twice. -/
theorem not_distinguishes_repeated :
    checkLabels .classification ["a", "a"] = .ok () ∧ ¬ Distinguishes ["a", "a"] ∧
      ¬ ∃ host, Recovers host ["a", "a"] := by
  have hrepeated : ¬ ["a", "a"].Nodup := by decide
  refine ⟨by decide, fun h => hrepeated (nodup_of_distinguishes h), ?_⟩
  rintro ⟨host, hhost⟩
  exact hrepeated (nodup_of_recovers hhost)

end Labels

end DenseSketch.Message
