import DenseSketch.Proofs.Message.Lengths
import DenseSketch.Proofs.Report.Machine
import Mathlib.Data.List.GetD

/-!
# Reports are complete

A field has at most six characters, so a buffer with room for as many of them as there are outputs
is never full: each call of the library has room for its whole text.
-/

namespace DenseSketch.Report

open Printing

/-! ### Fields -/

variable {call : Call} {k : Nat} {s : State}

/-- A value is not a negative zero. -/
def IsPlain (v : Datum) : Prop := ¬ (v.isZero ∧ v.isNegative)

instance (v : Datum) : Decidable (IsPlain v) :=
  inferInstanceAs (Decidable (¬ (v.isZero ∧ v.isNegative)))

/-- Moved into the unit interval, a number has no sign. -/
theorem exists_constrained {v : Datum} (hv : IsPlain v) (hnumber : v ≠ .nan) :
    ∃ m e, constrained v = .finite false m e ∧ (m : ℚ) * 2 ^ e = v.unitValue := by
  cases v with
  | nan => exact absurd rfl hnumber
  | infinite s =>
    cases s with
    | false => exact ⟨1, 0, rfl, by simp [Datum.unitValue]⟩
    | true => exact ⟨0, 0, rfl, by simp [Datum.unitValue]⟩
  | finite s m e =>
    have hzero : (Datum.finite s m e).lt .zero ↔ Datum.toRat (.finite s m e) < 0 := by
      rw [Datum.lt_iff rfl rfl, Datum.toRat_zero]
    have hone : Datum.one.lt (.finite s m e) ↔ 1 < Datum.toRat (.finite s m e) := by
      rw [Datum.lt_iff rfl rfl, Datum.toRat_one]
    rw [constrained, Datum.unitValue]
    by_cases hlow : Datum.toRat (.finite s m e) < 0
    · refine ⟨0, 0, if_pos (hzero.2 hlow), ?_⟩
      rw [max_eq_left ((min_le_right ..).trans hlow.le)]
      simp
    · rw [if_neg (mt hzero.1 hlow)]
      by_cases hhigh : 1 < Datum.toRat (.finite s m e)
      · refine ⟨1, 0, if_pos (hone.2 hhigh), ?_⟩
        rw [min_eq_left hhigh.le, max_eq_right zero_le_one]
        simp
      · rw [if_neg (mt hone.1 hhigh), min_eq_right (not_lt.1 hhigh), max_eq_right (not_lt.1 hlow)]
        cases s with
        | false => exact ⟨m, e, rfl, by simp [Datum.toRat]⟩
        | true =>
          have hmantissa := Datum.mantissa_eq_zero (not_lt.1 hlow)
          exact absurd ⟨by simp [Datum.isZero, hmantissa], rfl⟩ hv

/-- A number is written as thousandths of the unit interval. -/
theorem exists_written {v : Datum} (hv : IsPlain v) (hnumber : v ≠ .nan) (i : Nat) :
    ∃ units ≤ 1000, call.written i (constrained v) 3 = placedText 3 units := by
  obtain ⟨m, e, hfinite, hvalue⟩ := exists_constrained hv hnumber
  have htext : call.written i (.finite false m e) 3 =
      placedText 3 (FixedStyle.units ⟨3, call.tie, true⟩ m e) := rfl
  refine ⟨_, FixedStyle.units_le ⟨3, call.tie, true⟩ ?_, hfinite ▸ htext⟩
  rw [hvalue]
  exact v.unitValue_le_one

theorem written_nan (i : Nat) :
    call.written i (constrained .nan) 3 ∈ ["-nan".toList, "nan".toList] := by
  have hnan : constrained .nan = .nan := rfl
  rw [hnan, Call.written]
  split <;> simp

theorem length_written_le {v : Datum} (hv : IsPlain v) (i : Nat) :
    (call.written i (constrained v) 3).length ≤ 5 := by
  by_cases hnumber : v = .nan
  · have hnan : ∀ text ∈ ["-nan".toList, "nan".toList], text.length ≤ 5 := by decide
    rw [hnumber]
    exact hnan _ (written_nan i)
  · obtain ⟨units, hunits, htext⟩ := exists_written hv hnumber i
    rw [htext, length_placedText_of_lt (by omega)]

theorem null_not_mem_written {v : Datum} (hv : IsPlain v) (i : Nat) :
    null ∉ call.written i (constrained v) 3 := by
  by_cases hnumber : v = .nan
  · have hnan : ∀ text ∈ ["-nan".toList, "nan".toList], null ∉ text := by decide
    rw [hnumber]
    exact hnan _ (written_nan i)
  · obtain ⟨units, -, htext⟩ := exists_written hv hnumber i
    rw [htext]
    exact fun h => (isDigit_or_point_of_mem_placedText h).elim (by decide) (by decide)

/-- A negative zero would take a sixth character, its sign. -/
example : FixedStyle.text ⟨3, .toEven, true⟩ (constrained (.zeroOf true)) = "-0.000".toList := by
  decide

/-- What is printed in round `i`. -/
def Call.field (call : Call) (i : Nat) : List Char :=
  ',' :: call.written i (constrained (call.values.getD i .zero)) 3

/-- What the message holds after `k` rounds. -/
def Call.printed (call : Call) (k : Nat) : List Char :=
  'R' :: (List.range k).flatMap call.field

theorem Call.printed_succ (call : Call) (k : Nat) :
    call.printed (k + 1) = call.printed k ++ call.field k := by
  simp [Call.printed, List.range_succ]

/-- The values of a call are as many as its outputs, and none is a negative zero. -/
structure Call.IsProper (call : Call) : Prop where
  values_length : call.values.length = call.outputs
  plain : ∀ v ∈ call.values, IsPlain v

theorem Call.IsProper.plain_getD (hcall : call.IsProper) (i : Nat) :
    IsPlain (call.values.getD i .zero) := by
  rw [List.getD_eq_getElem?_getD]
  cases hvalue : call.values[i]? with
  | none => decide
  | some v => exact hcall.plain v (List.mem_of_getElem? hvalue)

theorem length_field_le (hcall : call.IsProper) (i : Nat) : (call.field i).length ≤ 6 :=
  Nat.succ_le_succ (length_written_le (hcall.plain_getD i) i)

theorem length_printed_le (hcall : call.IsProper) (k : Nat) :
    (call.printed k).length ≤ k * 6 + 1 := by
  induction k with
  | zero => simp [Call.printed]
  | succ k ih =>
    have hfield := length_field_le hcall k
    rw [Call.printed_succ, List.length_append]
    omega

theorem null_not_mem_printed (hcall : call.IsProper) (k : Nat) : null ∉ call.printed k := by
  induction k with
  | zero => exact (by decide : null ∉ ['R'])
  | succ k ih =>
    rw [Call.printed_succ, List.mem_append, Call.field, List.mem_cons]
    rintro (h | h | h)
    · exact ih h
    · revert h
      decide
    · exact null_not_mem_written (hcall.plain_getD k) k h

/-! ### Steps -/

/-- A call of the library that stays in the buffer and cuts nothing off. -/
structure Print.IsWhole (capacity : Nat) (print : Print) : Prop where
  offset_le : print.offset ≤ capacity
  after_le : print.after ≤ capacity
  size_eq : print.size = capacity + 1 - print.offset
  size_pos : 0 < print.size
  length_lt : print.text.length < print.size

/-- The buffer begins with a text, and this text is all that has been printed. -/
structure Holds (capacity : Nat) (text : List Char) (s : State) : Prop where
  length : s.message.length = capacity + 1
  starts : text <+: s.message
  whole : ∀ print ∈ s.prints, print.IsWhole capacity
  texts : s.prints.flatMap Print.text = text
  unsent : s.sent = []

/-- One call of the library: a text that fits goes behind what the buffer holds. -/
theorem print_eq_some {capacity after : Nat} {before text : List Char}
    (hs : Holds capacity before s) (hroom : before.length + text.length ≤ capacity)
    (hafter : after ≤ capacity) :
    ∃ t, s.print before.length after text = some t ∧ Holds capacity (before ++ text) t ∧
      before ++ text ++ [null] <+: t.message ∧ t.len = after ∧
      t.prints.length = s.prints.length + 1 := by
  have hlength := hs.length
  obtain ⟨message, hprint, hmessage, hends⟩ :=
    printInto_eq_some text hs.starts (by omega)
  let print : Print := ⟨before.length, s.message.length - before.length, text, after⟩
  have hwhole : print.IsWhole capacity := by
    constructor
    · exact (Nat.le_add_right _ _).trans hroom
    · exact hafter
    · simp [print, hlength]
    · simp only [print, hlength]
      omega
    · simp only [print, hlength]
      omega
  let printed : State :=
    { s with message := message, len := after, prints := s.prints ++ [print] }
  refine ⟨printed, ?_, ?_, hends, rfl, ?_⟩
  · simp only [State.print, hprint, Option.bind_eq_bind, Option.bind_some, Option.pure_def]
    rfl
  · constructor
    case length => exact hmessage.trans hlength
    case starts => exact (List.prefix_append _ _).trans hends
    case whole =>
      intro other hother
      rcases List.mem_append.1 hother with hother | hother
      · exact hs.whole other hother
      · rwa [List.mem_singleton.1 hother]
    case texts => rw [List.flatMap_append, List.flatMap_singleton, hs.texts]
    case unsent => exact hs.unsent
  · rw [List.length_append, List.length_singleton]

/-- What holds after `k` rounds. -/
structure AfterRounds (call : Call) (k : Nat) (s : State) : Prop where
  holds : Holds call.capacity (call.printed k) s
  len : s.len = (call.printed k).length
  count : s.prints.length = k + 1

/-- One round. -/
theorem round_eq_some (hcall : call.IsProper) (hroom : call.outputs * 6 + 2 ≤ call.capacity)
    (hk : k < call.outputs) (hs : AfterRounds call k s) :
    ∃ t, rounds.foldlM (fun s statement => statement.run call k s) s = some t ∧
      AfterRounds call (k + 1) t := by
  have hvalue : call.values[k]? = some (call.values.getD k .zero) := by
    have hlt : k < call.values.length := hcall.values_length.symm ▸ hk
    rw [List.getD_eq_getElem _ _ hlt, List.getElem?_eq_getElem hlt]
  have htext : expand (call.written k (constrained (call.values.getD k .zero))) ",%.3f".toList =
      call.field k := by
    simp [expand, Call.field]
  have hprinted := length_printed_le hcall k
  have hfield := length_field_le hcall k
  have hfits : (call.printed k).length + (call.field k).length ≤ call.capacity := by omega
  -- Neither the clamp nor the pin changes what has been printed.
  let driven : State :=
    { s with
      value := constrained (call.values.getD k .zero)
      driven := s.driven ++ [(k, constrained (call.values.getD k .zero))] }
  have hdriven : Holds call.capacity (call.printed k) driven :=
    ⟨hs.holds.length, hs.holds.starts, hs.holds.whole, hs.holds.texts, hs.holds.unsent⟩
  obtain ⟨t, hprint, hholds, -, hlen, hcount⟩ := print_eq_some hdriven hfits hfits
  refine ⟨t, ?_, ?_⟩
  · rw [← hs.len] at hprint
    simp only [rounds, List.foldlM_cons, List.foldlM_nil, RoundStatement.run, hvalue, htext,
      Option.bind_eq_bind, Option.bind_some, Option.pure_def]
    change (driven.print s.len (s.len + (call.field k).length) (call.field k)).bind some = some t
    rw [hprint, Option.bind_some]
  · constructor
    case holds => rwa [Call.printed_succ]
    case len => rw [Call.printed_succ, List.length_append, hlen]
    case count => rw [hcount, hs.count]

/-- All rounds. -/
theorem runRounds_eq_some (hcall : call.IsProper)
    (hroom : call.outputs * 6 + 2 ≤ call.capacity) (hk : k ≤ call.outputs)
    (hs : AfterRounds call 0 s) :
    ∃ t, runRounds call rounds k s = some t ∧ AfterRounds call k t := by
  -- The room is for all rounds, so it is the same in each.
  induction k with
  | zero => exact ⟨s, rfl, hs⟩
  | succ k ih =>
    obtain ⟨t, hrun, ht⟩ := ih (by omega)
    obtain ⟨u, hround, hu⟩ := round_eq_some hcall hroom hk ht
    refine ⟨u, ?_, hu⟩
    rw [runRounds] at hrun ⊢
    rw [List.range_succ, List.foldlM_append, hrun, Option.bind_eq_bind, Option.bind_some,
      List.foldlM_cons, hround]
    rfl

/-- Nothing is lost: the library is called in bounds each time, and what is sent is all that has
    been printed. -/
structure IsComplete (call : Call) (final : State) : Prop where
  whole : ∀ print ∈ final.prints, print.IsWhole call.capacity
  count : final.prints.length = call.outputs + 2
  texts : final.prints.flatMap Print.text = call.printed call.outputs ++ ['\n']
  sent : final.sent = List.replicate 2 (final.prints.flatMap Print.text)

/-- What prints the message does so to its end. -/
theorem printing_eq_some (hcall : call.IsProper)
    (hroom : call.outputs * 6 + 2 ≤ call.capacity) :
    ∃ t, printing.foldlM (fun s statement => statement.run call s) {} = some t ∧
      Holds call.capacity (call.printed call.outputs ++ ['\n']) t ∧
      call.printed call.outputs ++ ['\n'] ++ [null] <+: t.message ∧
      t.prints.length = call.outputs + 2 := by
  have hstart : expand (fun _ => []) "R".toList = call.printed 0 := by
    simp [expand, Call.printed]
  have hend : expand (fun _ => []) "\\n".toList = ['\n'] := by
    simp [expand]
  let declared : State := { message := call.memory }
  have hdeclared : Holds call.capacity [] declared :=
    ⟨call.memory_length, List.nil_prefix, List.forall_mem_nil _, rfl, rfl⟩
  have hone : ([] : List Char).length + (call.printed 0).length ≤ call.capacity := by
    have hle := length_printed_le hcall 0
    rw [List.length_nil]
    omega
  obtain ⟨s, hstarted, hholds, -, hlen, hcount⟩ := print_eq_some hdeclared hone hone
  have hs : AfterRounds call 0 s := ⟨hholds, hlen, hcount⟩
  obtain ⟨t, hrounds, ht⟩ := runRounds_eq_some hcall hroom (le_refl call.outputs) hs
  have hlast : (call.printed call.outputs).length + ['\n'].length ≤ call.capacity := by
    have hle := length_printed_le hcall call.outputs
    rw [List.length_singleton]
    omega
  have hbefore : (call.printed call.outputs).length ≤ call.capacity := by omega
  obtain ⟨u, hfinished, hend', hends, -, hcount'⟩ := print_eq_some ht.holds hlast hbefore
  rw [← ht.len] at hfinished
  refine ⟨u, ?_, hend', hends, hcount'.trans (by rw [ht.count])⟩
  simp only [printing, List.foldlM_cons, List.foldlM_nil, Statement.run, hstart, hend,
    Option.bind_eq_bind, Option.bind_some, Option.pure_def]
  change ((declared.print 0 (call.printed 0).length (call.printed 0)).bind _) = some u
  rw [List.length_nil, Nat.zero_add] at hstarted
  rw [hstarted, Option.bind_some, hrounds, Option.bind_some, hfinished, Option.bind_some]

theorem run_isComplete (hcall : call.IsProper) (hroom : call.outputs * 6 + 2 ≤ call.capacity) :
    ∃ final, call.run = some final ∧ IsComplete call final := by
  obtain ⟨t, hprinting, hholds, hends, hcount⟩ := printing_eq_some hcall hroom
  have hnull : null ∉ call.printed call.outputs ++ ['\n'] := by
    rw [List.mem_append, not_or]
    exact ⟨null_not_mem_printed hcall call.outputs, by decide⟩
  have hheld := heldText_eq_some hnull hends
  let text := call.printed call.outputs ++ ['\n']
  refine ⟨{ t with sent := t.sent ++ [text] ++ [text] }, ?_, ?_⟩
  · rw [Call.run, List.foldlM_append, hprinting, Option.bind_eq_bind, Option.bind_some]
    simp only [sending, List.foldlM_cons, List.foldlM_nil, Statement.run, hheld,
      Option.bind_eq_bind, Option.bind_some, Option.pure_def]
    rfl
  · constructor
    case whole => exact hholds.whole
    case count => exact hcount
    case texts => exact hholds.texts
    case sent =>
      rw [hholds.unsent, hholds.texts]
      rfl

end DenseSketch.Report
