import DenseSketch.Literal.Escape
import Mathlib.Data.List.TakeWhile
import Mathlib.Order.Basic

/-!
# String literals

A string literal runs from a quote to the next one that no backslash precedes, and it stays in one
line.  It stands for bytes: each character for its own, and an escape for those that it names.  A
text means itself between quotes exactly if it has no quote, no backslash and no line break, since
an escape is longer than what it stands for.
-/

namespace DenseSketch.StringLiteral

/-- Does the character end the line? -/
def isBreak (c : Char) : Bool := c == '\n' || c == '\r'

/-- A text without quotes, backslashes and line breaks. -/
def IsQuotable (text : List Char) : Prop :=
  ∀ c ∈ text, (c ≠ '"' ∧ c ≠ '\\') ∧ isBreak c = false

instance (text : List Char) : Decidable (IsQuotable text) :=
  List.decidableBAll _ text

theorem isQuotable_cons {c : Char} {text : List Char} :
    IsQuotable (c :: text) ↔ ((c ≠ '"' ∧ c ≠ '\\') ∧ isBreak c = false) ∧ IsQuotable text :=
  List.forall_mem_cons

theorem isQuotable_iff {text : List Char} :
    IsQuotable text ↔ ('"' ∉ text ∧ '\\' ∉ text) ∧ '\n' ∉ text ∧ '\r' ∉ text := by
  constructor
  · intro h
    refine ⟨⟨fun hc => (h _ hc).1.1 rfl, fun hc => (h _ hc).1.2 rfl⟩, fun hc => ?_, fun hc => ?_⟩
    · cases (h _ hc).2
    · cases (h _ hc).2
  · rintro ⟨⟨hquote, hbackslash⟩, hfeed, hreturn⟩ c hc
    have hne : ∀ d, d ∉ text → c ≠ d := by
      rintro d hd rfl
      exact hd hc
    refine ⟨⟨hne _ hquote, hne _ hbackslash⟩, ?_⟩
    simp [isBreak, hne _ hfeed, hne _ hreturn]

/-! ### Lists of literals -/

/-- Where in a list of literals a reader is: a literal has to come; a part of one has been read,
    perhaps up to a backslash; or a comma or the closing brace has to come. -/
inductive Place where
  | before
  | inside (text : List Char) (behindBackslash : Bool)
  | behind
  deriving DecidableEq, Repr

/-- What stands between the quotes of literals in a list, with commas between them, up to the brace
    that closes it. -/
def literals? : Place → List Char → Option (List (List Char))
  | _, [] => none
  | .before, c :: rest =>
    if c.isWhitespace then literals? .before rest
    else if c = '"' then literals? (.inside [] false) rest
    else none
  | .inside text behindBackslash, c :: rest =>
    if c = '"' ∧ behindBackslash = false then (literals? .behind rest).map (text :: ·)
    else if isBreak c then none
    else literals? (.inside (text ++ [c]) (c == '\\')) rest
  | .behind, c :: rest =>
    if c.isWhitespace then literals? .behind rest
    else if c = ',' then literals? .before rest
    else if c = '\x7d' then some []
    else none

theorem literals?_inside {text : List Char} (htext : IsQuotable text) (read rest : List Char) :
    literals? (.inside read false) (text ++ '"' :: rest) =
      (literals? .behind rest).map ((read ++ text) :: ·) := by
  induction text generalizing read with
  | nil => simp [literals?]
  | cons c text ih =>
    obtain ⟨⟨⟨hquote, hbackslash⟩, hbreak⟩, htail⟩ := isQuotable_cons.1 htext
    have hchar : (c == '\\') = false := by simpa using hbackslash
    simpa [literals?, hquote, hchar, hbreak] using ih htail (read ++ [c])

/-- A comma does not close a literal, and a quote does not separate two of them. -/
example : literals? .before "\"a,b\\\"c\" ,\n \"\"\x7d".toList =
    some ["a,b\\\"c".toList, []] := by decide

/-! ### Bytes -/

/-- The bytes of a text. -/
def bytes (text : List Char) : List UInt8 := text.flatMap String.utf8EncodeChar

theorem length_le_length_bytes (text : List Char) : text.length ≤ (bytes text).length := by
  induction text with
  | nil => exact Nat.le_refl 0
  | cons c text ih =>
    have hpos := c.utf8Size_pos
    rw [bytes, List.flatMap_cons, List.length_append, String.length_utf8EncodeChar,
      List.length_cons, ← bytes]
    omega

theorem bytes_append (text rest : List Char) : bytes (text ++ rest) = bytes text ++ bytes rest :=
  List.flatMap_append

/-! ### Escapes -/

open Literal Escape

/-- The number that the digits of a base at the start denote, at most so many of them, and how many
    there are. -/
def digits? (base most : Nat) (text : List Char) : Option (Nat × Nat) :=
  let digits := (text.take most).takeWhile fun c => (digitBelow? base c).isSome
  if digits = [] then none
  else some (valueIn base (digits.filterMap (digitBelow? base)), digits.length)

/-- The character whose code has exactly so many hexadecimal digits; the letter in front of them
    counts, too. -/
def universal? (count : Nat) (text : List Char) : Option (List UInt8 × Nat) := do
  let (code, found) ← digits? 16 count text
  if found = count ∧ code.isValidChar then
    some (String.utf8EncodeChar (Char.ofNat code), count + 1)
  else none

/-- The bytes that an escape stands for, read from behind its backslash, and the number of characters
    that it takes.  Octal and hexadecimal digits name a byte. -/
def escape? : List Char → Option (List UInt8 × Nat)
  | [] => none
  | c :: rest =>
    if c = '?' then some (String.utf8EncodeChar c, 1)
    else if c = 'x' then
      (digits? 16 rest.length rest).map fun found => ([UInt8.ofNat found.1], found.2 + 1)
    else if c = 'u' then universal? 4 rest
    else if c = 'U' then universal? 8 rest
    else
      match short? c with
      | some named => some (String.utf8EncodeChar named, 1)
      | none => (digits? 8 3 (c :: rest)).map fun found => ([UInt8.ofNat found.1], found.2)

/-- The bytes that a literal stands for, read from behind its first quote, and what follows it. -/
def read? : List Char → Option (List UInt8 × List Char)
  | [] => none
  | c :: rest =>
    if c = '"' then some ([], rest)
    else if isBreak c then none
    else if c = '\\' then do
      let (value, count) ← escape? rest
      let (others, behind) ← read? (rest.drop count)
      return (value ++ others, behind)
    else do
      let (others, behind) ← read? rest
      return (String.utf8EncodeChar c ++ others, behind)
termination_by text => text.length
decreasing_by
  · rw [List.length_drop, List.length_cons]
    omega
  · rw [List.length_cons]
    omega

/-- A quotable text is read as itself. -/
theorem read?_of_isQuotable {text : List Char} (htext : IsQuotable text) (rest : List Char) :
    read? (text ++ '"' :: rest) = some (bytes text, rest) := by
  induction text with
  | nil => simp [read?, bytes]
  | cons c text ih =>
    obtain ⟨⟨⟨hquote, hbackslash⟩, hbreak⟩, htail⟩ := isQuotable_cons.1 htext
    simp [read?, hquote, hbackslash, hbreak, ih htail, bytes]

/-! ### Escapes are longer than what they stand for -/

/-- So many characters at the start of a text are there, none of them is a line break, and they are
    at least as many as the bytes. -/
structure Takes (text : List Char) (value : List UInt8) (count : Nat) : Prop where
  count_le : count ≤ text.length
  length_le : value.length ≤ count
  no_break : ∀ c ∈ text.take count, isBreak c = false

variable {text rest behind : List Char} {value : List UInt8} {c : Char} {base most count code : Nat}

theorem isBreak_of_digit (hc : (digitBelow? base c).isSome) : isBreak c = false := by
  have hbreaks : digitOf? '\n' = none ∧ digitOf? '\r' = none := by decide
  simp only [isBreak, Bool.or_eq_false_iff, beq_eq_false_iff_ne]
  constructor
  · rintro rfl
    simp [digitBelow?, hbreaks.1] at hc
  · rintro rfl
    simp [digitBelow?, hbreaks.2] at hc

theorem takes_of_digits? (h : digits? base most text = some (code, count)) :
    0 < count ∧ Takes text [UInt8.ofNat code] count := by
  simp only [digits?] at h
  split_ifs at h with hnone
  cases h
  let isDigit : Char → Bool := fun c => (digitBelow? base c).isSome
  have hpos : 0 < ((text.take most).takeWhile isDigit).length := List.length_pos_iff.2 hnone
  have hprefix : (text.take most).takeWhile isDigit <+: text :=
    (List.takeWhile_prefix _).trans (List.take_prefix _ _)
  refine ⟨hpos, ?_⟩
  constructor
  case count_le => exact hprefix.length_le
  case length_le => exact hpos
  case no_break =>
    intro c hc
    rw [← List.prefix_iff_eq_take.1 hprefix] at hc
    have hdigit : isDigit c = true := List.mem_takeWhile_imp hc
    exact isBreak_of_digit hdigit

theorem Takes.cons (h : Takes text value count) (hc : isBreak c = false) {more : List UInt8}
    (hmore : more.length ≤ count + 1) : Takes (c :: text) more (count + 1) := by
  constructor
  case count_le => exact Nat.succ_le_succ h.count_le
  case length_le => exact hmore
  case no_break =>
    rw [List.take_succ_cons, List.forall_mem_cons]
    exact ⟨hc, h.no_break⟩

theorem takes_one (hc : isBreak c = false) (hvalue : value.length = 1) :
    Takes (c :: rest) value 1 := by
  constructor
  case count_le => exact Nat.succ_le_succ (Nat.zero_le _)
  case length_le => exact hvalue.le
  case no_break => simpa using hc

theorem takes_of_universal? (hcount : 4 ≤ count) {found : Nat}
    (h : universal? count rest = some (value, found)) (hc : isBreak c = false) :
    Takes (c :: rest) value found := by
  simp only [universal?, Option.bind_eq_bind, Option.bind_eq_some_iff] at h
  obtain ⟨⟨code, digits⟩, hdigits, h⟩ := h
  dsimp only at h
  split_ifs at h with hvalid
  cases h
  obtain ⟨rfl, -⟩ := hvalid
  refine (takes_of_digits? hdigits).2.cons hc ?_
  have hsize := (Char.ofNat code).utf8Size_le_four
  rw [String.length_utf8EncodeChar]
  omega

theorem of_short? {named : Char} (h : short? c = some named) :
    isBreak c = false ∧ (String.utf8EncodeChar named).length = 1 := by
  unfold short? at h
  split at h
  all_goals cases h
  all_goals decide

theorem takes_of_escape? (h : escape? text = some (value, count)) : Takes text value count := by
  cases text with
  | nil => cases h
  | cons c rest =>
    rw [escape?] at h
    split_ifs at h with hmark hx hu hU
    · cases h
      subst hmark
      exact takes_one rfl rfl
    · obtain ⟨⟨code, digits⟩, hdigits, hvalue⟩ := Option.map_eq_some_iff.1 h
      cases hvalue
      subst hx
      exact (takes_of_digits? hdigits).2.cons rfl (Nat.succ_le_succ (Nat.zero_le _))
    · subst hu
      exact takes_of_universal? (Nat.le_refl 4) h rfl
    · subst hU
      exact takes_of_universal? (by decide) h rfl
    · cases hshort : short? c with
      | some named =>
        rw [hshort] at h
        cases h
        exact takes_one (of_short? hshort).1 (of_short? hshort).2
      | none =>
        rw [hshort] at h
        obtain ⟨⟨code, digits⟩, hdigits, hvalue⟩ := Option.map_eq_some_iff.1 h
        cases hvalue
        exact (takes_of_digits? hdigits).2

/-- A literal has no more bytes than the text between its quotes, which has no line break, and it has
    as many only if this text is quotable. -/
theorem exists_of_read? (h : read? text = some (value, behind)) :
    ∃ inner, text = inner ++ '"' :: behind ∧ (∀ c ∈ inner, isBreak c = false) ∧
      value.length ≤ (bytes inner).length ∧
      (value.length = (bytes inner).length → IsQuotable inner) := by
  -- An escape may be of any length, so the induction is on the length of the text.
  induction hlength : text.length using Nat.strongRecOn generalizing text value with
  | ind n ih =>
    cases text with
    | nil => simp [read?] at h
    | cons c rest =>
      rw [read?] at h
      split_ifs at h with hquote hbreak hbackslash
      · cases h
        subst hquote
        exact ⟨[], rfl, List.forall_mem_nil _, Nat.le_refl 0, fun _ => List.forall_mem_nil _⟩
      · simp only [Option.bind_eq_bind, Option.bind_eq_some_iff] at h
        obtain ⟨⟨part, count⟩, hescape, ⟨others, after⟩, hread, heq⟩ := h
        cases heq
        have htakes := takes_of_escape? hescape
        have hshorter : (rest.drop count).length < n := by
          rw [← hlength, List.length_drop, List.length_cons]
          omega
        obtain ⟨inner, hinner, hbreaks, hle, -⟩ := ih _ hshorter hread rfl
        have htext : rest = rest.take count ++ inner ++ '"' :: after := by
          rw [List.append_assoc, ← hinner, List.take_append_drop]
        have hsize : (part ++ others).length < (bytes (c :: (rest.take count ++ inner))).length := by
          have hpart := htakes.length_le
          have hmark := length_le_length_bytes (c :: rest.take count)
          rw [List.length_cons, List.length_take_of_le htakes.count_le] at hmark
          rw [← List.cons_append, bytes_append, List.length_append, List.length_append]
          omega
        refine ⟨c :: (rest.take count ++ inner), ?_, ?_, hsize.le, fun heq => absurd heq hsize.ne⟩
        · exact congrArg (c :: ·) htext
        · rw [List.forall_mem_cons, List.forall_mem_append]
          exact ⟨by simpa using hbreak, htakes.no_break, hbreaks⟩
      · simp only [Option.bind_eq_bind, Option.bind_eq_some_iff] at h
        obtain ⟨⟨others, after⟩, hread, heq⟩ := h
        cases heq
        have hshorter : rest.length < n := by
          rw [← hlength]
          exact Nat.lt_succ_self _
        obtain ⟨inner, rfl, hbreaks, hle, hquotable⟩ := ih _ hshorter hread rfl
        have hchar : isBreak c = false := by simpa using hbreak
        have hbytes : bytes (c :: inner) = String.utf8EncodeChar c ++ bytes inner := rfl
        refine ⟨c :: inner, rfl, List.forall_mem_cons.2 ⟨hchar, hbreaks⟩, ?_, ?_⟩
        · rw [hbytes, List.length_append, List.length_append]
          exact Nat.add_le_add_left hle _
        · rw [hbytes, List.length_append, List.length_append, Nat.add_left_cancel_iff]
          exact fun heq => isQuotable_cons.2 ⟨⟨⟨hquote, hbackslash⟩, hchar⟩, hquotable heq⟩

/-! ### Arguments -/

/-- The bytes of a string literal that is the only argument of a call, read from behind the bracket
    that opens the call. -/
def argument? : List Char → Option (List UInt8)
  | '"' :: text =>
    match read? text with
    | some (value, ')' :: _) => some value
    | _ => none
  | _ => none

theorem exists_read?_of_argument? (h : argument? ('"' :: text) = some value) :
    ∃ more, read? text = some (value, ')' :: more) := by
  simp only [argument?] at h
  split at h
  · next more hread =>
    cases h
    exact ⟨more, hread⟩
  · cases h

/-- Between the quotes of a statement a text means itself exactly if it is quotable. -/
theorem argument?_eq_iff (text rest : List Char) :
    argument? ('"' :: (text ++ '"' :: ')' :: ';' :: '\n' :: rest)) = some (bytes text) ↔
      IsQuotable text := by
  constructor
  · intro h
    obtain ⟨more, hread⟩ := exists_read?_of_argument? h
    obtain ⟨inner, heq, hbreaks, hle, hquotable⟩ := exists_of_read? hread
    suffices hinner : inner = text by
      rw [hinner] at hquotable
      exact hquotable rfl
    rcases List.append_eq_append_iff.1 heq with ⟨longer, rfl, hrest⟩ | ⟨left, rfl, -⟩
    · -- The literal cannot go on behind the quote: the line ends before the next one.
      rcases longer with _ | ⟨_, _ | ⟨_, _ | ⟨_, _ | ⟨c, longer⟩⟩⟩⟩ <;> simp at hrest
      · exact List.append_nil _
      · obtain ⟨rfl, rfl, rfl, rfl, -⟩ := hrest
        have hbreak := hbreaks '\n' (by simp)
        cases hbreak
    · rw [bytes_append, List.length_append] at hle
      have hleft := length_le_length_bytes left
      have hnil : left = [] := List.length_eq_zero_iff.1 (by omega)
      rw [hnil, List.append_nil]
  · intro htext
    simp [argument?, read?_of_isQuotable htext]

/-- A name that is not written as it is, and one that is. -/
example : ¬ IsQuotable "My \"Board\"".toList ∧ IsQuotable "My 'Board'".toList := by decide

end DenseSketch.StringLiteral
