import DenseSketch.Document.Display
import DenseSketch.Proofs.Document.EscapedText
import DenseSketch.Proofs.Document.Numerals

/-!
# Written documents are read back

What is written for a document is read as the same document, but for three things: reals are those
of double precision, single surrogates that make a pair are one character, and of members with the
same key the last one counts.
-/

namespace DenseSketch.Document

open Reader Writer

mutual

/-- The document as it is read back. -/
def reread : Document → Document
  | .real x => .real (Format.binary64.round x)
  | .text s => .text (rejoined s)
  | .list items => .list (rereadItems items)
  | .record members => .record (putAll [] (rereadMembers members))
  | other => other

/-- The items, each one as it is read back. -/
def rereadItems : List Document → List Document
  | [] => []
  | item :: rest => reread item :: rereadItems rest

/-- The members, key and value as they are read back, before equal keys meet. -/
def rereadMembers : List (String × Document) → List (String × Document)
  | [] => []
  | (key, value) :: rest => (rejoined key, reread value) :: rereadMembers rest

end

/-! ### Values without parts -/

/-- Does the text start with a digit? -/
def StartsDigit (cs : List Char) : Prop := ∃ c tail, cs = c :: tail ∧ c.isDigit

theorem IsWhole.startsDigit {cs : List Char} (hcs : IsWhole cs) : StartsDigit cs := by
  obtain ⟨c, tail, rfl⟩ := List.exists_cons_of_ne_nil hcs.nonempty
  exact ⟨c, tail, rfl, hcs.digits c (by simp)⟩

theorem StartsDigit.append {cs : List Char} (hcs : StartsDigit cs) (rest : List Char) :
    StartsDigit (cs ++ rest) := by
  obtain ⟨c, tail, rfl, hc⟩ := hcs
  exact ⟨c, tail ++ rest, rfl, hc⟩

theorem RealText.startsDigit {cs : List Char} {d : Decimal} (hcs : RealText cs d) :
    StartsDigit cs := by
  cases hcs with
  | positional hwhole => exact hwhole.startsDigit.append _
  | scientific negative hwhole => exact (hwhole.startsDigit.append _).append _

theorem readPlain_signed {cs : List Char} (negative : Bool) (hcs : StartsDigit cs)
    (rest : List Char) :
    readPlain ((if negative then '-' :: cs else cs) ++ rest) = readNumber negative (cs ++ rest) := by
  obtain ⟨c, tail, rfl, hc⟩ := hcs
  cases negative with
  | true =>
    rw [if_pos rfl, List.cons_append, List.cons_append, readPlain]
    intro rest heq
    cases heq
    exact absurd hc (by decide)
  | false =>
    rw [if_neg Bool.false_ne_true, List.cons_append]
    unfold readPlain
    -- Every other first character is no digit.
    split
    all_goals first
      | rfl
      | next heq =>
        obtain ⟨rfl, -⟩ := List.cons.inj heq
        exact absurd hc (by decide)

theorem readPlain_integer {n : Int} (hn : isWritable (.integer n)) {rest : List Char}
    (hrest : EndsValue rest) :
    readPlain ((toString n).toList ++ rest) = .ok (.integer n, rest) := by
  have hwhole := isWhole_toDigits n.natAbs
  have hlength : (Nat.toDigits 10 n.natAbs).length ≤ Numeral.maxIntegerDigits := of_decide_eq_true hn
  have hsign : (if decide (n < 0) then -(n.natAbs : Int) else n.natAbs) = n := by
    split
    · next hnegative =>
      rw [decide_eq_true_iff] at hnegative
      omega
    · next hnegative =>
      rw [decide_eq_true_iff] at hnegative
      omega
  rw [toList_toString, readPlain_signed _ hwhole.startsDigit, readNumber_whole _ hwhole hlength hrest,
    digitsValue_toDigits, hsign]

theorem realText_zero : RealText "0.0".toList ⟨0, -1⟩ :=
  RealText.positional (isWhole_toDigits 0) (List.cons_ne_nil '0' [])
    (List.forall_mem_singleton.2 (by decide))

theorem readPlain_real (x : Datum) {rest : List Char} (hrest : EndsValue rest) :
    readPlain (realChars x ++ rest) = .ok (.real (Format.binary64.round x), rest) := by
  cases x with
  | nan => rfl
  | infinite s =>
    cases s with
    | true => rfl
    | false => rfl
  | finite s m e =>
    change readPlain ((if s then '-' :: _ else _) ++ rest) = _
    by_cases hm : m = 0
    · have hzero : Format.binary64.round (.finite s 0 e) = .zeroOf s := by
        simp [Format.round, Format.ofDyadic, Datum.numerator, Format.nearest]
      rw [if_pos hm, readPlain_signed s realText_zero.startsDigit,
        readNumber_realText s realText_zero hrest, hm, hzero]
      rfl
    · obtain ⟨d, htext, hvalue⟩ := exists_realText_text (significand_shortestDecimal_pos hm e)
      rw [if_neg hm, readPlain_signed s htext.startsDigit, readNumber_realText s htext hrest,
        Decimal.toDatum_congr s hvalue, toDatum_shortestDecimal hm]

theorem readPlain_text (s : String) (rest : List Char) :
    readPlain (textChars s ++ rest) = .ok (.text (rejoined s), rest) := by
  rw [textChars, List.cons_append, List.append_assoc, List.singleton_append, readPlain,
    readText_escaped]

/-! ### Blanks and brackets -/

/-- No value starts with one of these. -/
theorem readPlain_of_mem {c : Char} (hc : c ∈ [' ', '\n', '\r', '\t', ',', '[', ']', '\x7b', '\x7d'])
    (cs : List Char) : readPlain (c :: cs) = .error .malformedDocument := by
  simp only [List.mem_cons, List.not_mem_nil, or_false] at hc
  rcases hc with rfl | rfl | rfl | rfl | rfl | rfl | rfl | rfl | rfl
  all_goals rfl

theorem readValue_of_readPlain {cs : List Char} {found : Document × List Char}
    (hplain : readPlain cs = .ok found) (fuel depth : Nat) :
    readValue (fuel + 1) depth cs = .ok found := by
  unfold readValue
  split
  · next heq => cases heq
  all_goals first
    | exact hplain
    | rw [readPlain_of_mem (by simp)] at hplain; cases hplain

theorem skip_newLine (k : Nat) (cs : List Char) : skip (newLine k ++ cs) = skip cs := by
  have hblanks : ∀ n, skip (List.replicate n ' ' ++ cs) = skip cs := by
    intro n
    induction n with
    | zero => rfl
    | succ n ih => exact ih
  exact hblanks (2 * k)

theorem readValue_of_mem {c : Char} (hc : c ∈ [' ', '\n', '\r', '\t', ']', '\x7d'])
    (fuel depth : Nat) (cs : List Char) :
    readValue (fuel + 1) depth (c :: cs) = .error .malformedDocument := by
  simp only [List.mem_cons, List.not_mem_nil, or_false] at hc
  cases depth with
  | zero =>
    rcases hc with rfl | rfl | rfl | rfl | rfl | rfl
    all_goals rfl
  | succ depth =>
    rcases hc with rfl | rfl | rfl | rfl | rfl | rfl
    all_goals rfl

/-- Where a value is read there is nothing to skip, and nothing closes a list or a record. -/
theorem first_of_readValue {fuel depth : Nat} {cs : List Char} {found : Document × List Char}
    (hread : readValue fuel depth cs = .ok found) :
    skip cs = cs ∧ cs.head? ≠ some ']' ∧ cs.head? ≠ some '\x7d' := by
  match fuel, cs with
  | 0, _ => 
    rw [readValue] at hread
    cases hread
  | _ + 1, [] => exact ⟨rfl, by decide, by decide⟩
  | fuel + 1, c :: cs =>
    have hother : c ∉ [' ', '\n', '\r', '\t', ']', '\x7d'] := by
      intro hc
      rw [readValue_of_mem hc] at hread
      cases hread
    simp only [List.mem_cons, List.not_mem_nil, or_false, not_or] at hother
    obtain ⟨hspace, hbreak, hreturn, htab, hbracket, hbrace⟩ := hother
    refine ⟨?_, by simpa using hbracket, by simpa using hbrace⟩
    simp [skip, hspace, hbreak, hreturn, htab]

theorem readValue_list {fuel depth : Nat} {cs cs' tail : List Char} {items : List Document}
    (hskip : skip cs = cs') (hopen : cs'.head? ≠ some ']')
    (hitems : readItems fuel depth cs' = .ok (items, tail)) :
    readValue (fuel + 1) (depth + 1) ('[' :: cs) = .ok (.list items, tail) := by
  rw [readValue, hskip]
  split
  · exact absurd rfl hopen
  · rw [hitems]

theorem readValue_record {fuel depth : Nat} {cs cs' tail : List Char}
    {members : List (String × Document)} (hskip : skip cs = cs') (hopen : cs'.head? ≠ some '\x7d')
    (hmembers : readMembers fuel depth cs' = .ok (members, tail)) :
    readValue (fuel + 1) (depth + 1) ('\x7b' :: cs) =
      .ok (.record (putAll [] members), tail) := by
  rw [readValue, hskip]
  split
  · exact absurd rfl hopen
  · rw [hmembers]

/-! ### Values with parts -/

theorem skip_mark {c : Char} (hc : c ∈ [',', ':', '"', ']', '\x7d']) (cs : List Char) :
    skip (c :: cs) = c :: cs := by
  simp only [List.mem_cons, List.not_mem_nil, or_false] at hc
  rcases hc with rfl | rfl | rfl | rfl | rfl
  all_goals rfl

section Parts

variable {fuel depth : Nat} {cs rest next tail : List Char} {first : Document}
  {key : String} {items : List Document} {members : List (String × Document)}

theorem readItems_last (hfirst : readValue fuel depth cs = .ok (first, rest))
    (hrest : skip rest = ']' :: tail) : readItems (fuel + 1) depth cs = .ok ([first], tail) := by
  rw [readItems, hfirst]
  simp only [hrest]

theorem readItems_more (hfirst : readValue fuel depth cs = .ok (first, ',' :: rest))
    (hrest : skip rest = next) (hmore : readItems fuel depth next = .ok (items, tail)) :
    readItems (fuel + 1) depth cs = .ok (first :: items, tail) := by
  rw [readItems, hfirst]
  simp only [skip_mark (c := ',') (by simp), hrest, hmore]

theorem readMembers_last (hkey : readText cs = some (key, ':' :: ' ' :: rest))
    (hskip : skip rest = rest) (hfirst : readValue fuel depth rest = .ok (first, next))
    (hnext : skip next = '\x7d' :: tail) :
    readMembers (fuel + 1) depth ('"' :: cs) = .ok ([(key, first)], tail) := by
  have hblank : skip (' ' :: rest) = rest := hskip
  rw [readMembers, hkey]
  simp only [skip_mark (c := ':') (by simp), hblank, hfirst, hnext]

theorem readMembers_more (hkey : readText cs = some (key, ':' :: ' ' :: rest))
    (hskip : skip rest = rest) (hfirst : readValue fuel depth rest = .ok (first, ',' :: next))
    (hmore : readMembers fuel depth (skip next) = .ok (members, tail)) :
    readMembers (fuel + 1) depth ('"' :: cs) = .ok ((key, first) :: members, tail) := by
  have hblank : skip (' ' :: rest) = rest := hskip
  rw [readMembers, hkey]
  simp only [skip_mark (c := ':') (by simp), skip_mark (c := ',') (by simp), hblank, hfirst, hmore]

end Parts

theorem endsValue_newLine (k : Nat) (cs : List Char) : EndsValue (newLine k ++ cs) := by
  intro c hc
  cases hc
  exact .inr rfl

theorem endsValue_moreItems (k j : Nat) (items : List Document) (tail : List Char) :
    EndsValue (moreItems k items ++ (newLine j ++ tail)) := by
  cases items with
  | nil => exact endsValue_newLine j tail
  | cons item items =>
    intro c hc
    rw [moreItems] at hc
    cases hc
    exact .inl rfl

theorem endsValue_moreMembers (k j : Nat) (members : List (String × Document)) (tail : List Char) :
    EndsValue (moreMembers k members ++ (newLine j ++ tail)) := by
  cases members with
  | nil => exact endsValue_newLine j tail
  | cons member members =>
    intro c hc
    rw [moreMembers] at hc
    cases hc
    exact .inl rfl

theorem skip_textChars (s : String) (rest : List Char) :
    skip (textChars s ++ rest) = textChars s ++ rest :=
  skip_mark (by simp) _

mutual

/-- A document is read from its text, whatever ends it there. -/
theorem readValue_chars (d : Document) {rest : List Char} (k fuel depth : Nat)
    (hfuel : (chars k d).length < fuel) (hdepth : d.depth ≤ depth) (hd : d.isWritable)
    (hrest : EndsValue rest) : readValue fuel depth (chars k d ++ rest) = .ok (reread d, rest) := by
  -- The recursion is on the document.  Each part is shorter than the whole by at least a bracket,
  -- so fuel above the number of characters lasts.
  obtain ⟨fuel, rfl⟩ : ∃ n, fuel = n + 1 := ⟨fuel - 1, by omega⟩
  match d with
  | .null => exact readValue_of_readPlain rfl fuel depth
  | .truth true => exact readValue_of_readPlain rfl fuel depth
  | .truth false => exact readValue_of_readPlain rfl fuel depth
  | .integer n => exact readValue_of_readPlain (readPlain_integer hd hrest) fuel depth
  | .real x => exact readValue_of_readPlain (readPlain_real x hrest) fuel depth
  | .text s => exact readValue_of_readPlain (readPlain_text s rest) fuel depth
  | .list [] =>
    obtain ⟨depth, rfl⟩ : ∃ n, depth = n + 1 := ⟨depth - 1, by rw [Document.depth] at hdepth; omega⟩
    rfl
  | .list (item :: items) =>
    rw [chars] at hfuel ⊢
    rw [Document.depth, depthOfItems] at hdepth
    rw [isWritable, itemsWritable, Bool.and_eq_true] at hd
    simp only [List.length_append, List.length_cons, newLine] at hfuel
    obtain ⟨fuel, rfl⟩ : ∃ n, fuel = n + 1 := ⟨fuel - 1, by omega⟩
    obtain ⟨depth, rfl⟩ : ∃ n, depth = n + 1 := ⟨depth - 1, by omega⟩
    have hfirst := readValue_chars item (k + 1) fuel depth (by omega)
      (by omega) hd.1 (endsValue_moreItems (k + 1) k items (']' :: rest))
    have hitems := readItems_chars items hfirst (by omega) (by omega) hd.2
    obtain ⟨hskip, hopen, -⟩ := first_of_readValue hfirst
    rw [← skip_newLine (k + 1)] at hskip
    simpa only [List.append_assoc, List.cons_append, List.nil_append, reread, rereadItems] using
      readValue_list hskip hopen hitems
  | .record [] =>
    obtain ⟨depth, rfl⟩ : ∃ n, depth = n + 1 := ⟨depth - 1, by rw [Document.depth] at hdepth; omega⟩
    rfl
  | .record ((key, value) :: members) =>
    rw [chars] at hfuel ⊢
    rw [Document.depth, depthOfMembers] at hdepth
    rw [isWritable, membersWritable, Bool.and_eq_true] at hd
    simp only [List.length_append, List.length_cons, newLine] at hfuel
    obtain ⟨fuel, rfl⟩ : ∃ n, fuel = n + 1 := ⟨fuel - 1, by omega⟩
    obtain ⟨depth, rfl⟩ : ∃ n, depth = n + 1 := ⟨depth - 1, by omega⟩
    have hfirst := readValue_chars value (k + 1) fuel depth (by omega)
      (by omega) hd.1 (endsValue_moreMembers (k + 1) k members ('\x7d' :: rest))
    have hmembers := readMembers_chars key members hfirst (by omega) (by omega) hd.2
    have hskip := (skip_newLine (k + 1) _).trans (skip_textChars key (':' :: ' ' ::
      (chars (k + 1) value ++ (moreMembers (k + 1) members ++ (newLine k ++ '\x7d' :: rest)))))
    simpa only [List.append_assoc, List.cons_append, List.nil_append, reread, rereadMembers] using
      readValue_record hskip (by simp [textChars]) hmembers

/-- Behind the text of an item stand the other items and the bracket. -/
theorem readItems_chars (items : List Document) {j k fuel depth : Nat} {cs tail : List Char}
    {first : Document}
    (hfirst : readValue fuel depth cs = .ok (first, moreItems k items ++ (newLine j ++ ']' :: tail)))
    (hfuel : (moreItems k items).length < fuel) (hdepth : depthOfItems items ≤ depth)
    (hitems : itemsWritable items) :
    readItems (fuel + 1) depth cs = .ok (first :: rereadItems items, tail) := by
  match items with
  | [] => exact readItems_last hfirst (skip_newLine j _)
  | item :: items =>
    rw [moreItems] at hfuel hfirst
    rw [List.length_append, List.length_append, List.length_cons] at hfuel
    rw [depthOfItems, Nat.max_le] at hdepth
    rw [itemsWritable, Bool.and_eq_true] at hitems
    obtain ⟨fuel, rfl⟩ : ∃ n, fuel = n + 1 := ⟨fuel - 1, by omega⟩
    have hnext := readValue_chars item k fuel depth (by omega) hdepth.1 hitems.1
      (endsValue_moreItems k j items (']' :: tail))
    have hmore := readItems_chars items hnext (by omega) hdepth.2 hitems.2
    obtain ⟨hskip, -, -⟩ := first_of_readValue hnext
    simp only [List.append_assoc, List.cons_append] at hfirst
    exact readItems_more hfirst ((skip_newLine k _).trans hskip) hmore

/-- Behind the text of a value stand the other members and the brace. -/
theorem readMembers_chars (key : String) (members : List (String × Document)) {j k fuel depth : Nat}
    {cs tail : List Char} {first : Document}
    (hfirst : readValue fuel depth cs =
      .ok (first, moreMembers k members ++ (newLine j ++ '\x7d' :: tail)))
    (hfuel : (moreMembers k members).length < fuel) (hdepth : depthOfMembers members ≤ depth)
    (hmembers : membersWritable members) :
    readMembers (fuel + 1) depth (textChars key ++ ':' :: ' ' :: cs) =
      .ok ((rejoined key, first) :: rereadMembers members, tail) := by
  have hkey := readText_escaped key (':' :: ' ' :: cs)
  obtain ⟨hskip, -, -⟩ := first_of_readValue hfirst
  rw [textChars, List.cons_append, List.append_assoc, List.singleton_append]
  match members with
  | [] => exact readMembers_last hkey hskip hfirst (skip_newLine j _)
  | (next, value) :: members =>
    rw [moreMembers] at hfuel hfirst
    simp only [List.length_append, List.length_cons] at hfuel
    rw [depthOfMembers, Nat.max_le] at hdepth
    rw [membersWritable, Bool.and_eq_true] at hmembers
    obtain ⟨fuel, rfl⟩ : ∃ n, fuel = n + 1 := ⟨fuel - 1, by omega⟩
    have hnext := readValue_chars value k fuel depth (by omega) hdepth.1 hmembers.1
      (endsValue_moreMembers k j members ('\x7d' :: tail))
    have hmore := readMembers_chars next members hnext (by omega) hdepth.2 hmembers.2
    rw [← skip_textChars, ← skip_newLine k] at hmore
    simp only [List.append_assoc, List.cons_append] at hfirst
    exact readMembers_more hkey hskip hfirst hmore

end

/-- The text of a document is read as the document, with blanks behind it or not. -/
theorem read_write_append {d : Document} (hdepth : d.depth ≤ maxNesting) (hd : d.isWritable)
    {rest : List Char} (hrest : EndsValue rest) (hblank : skip rest = []) :
    read (String.ofList (chars 0 d ++ rest)) = .ok d.reread := by
  have hlength : (chars 0 d).length < (chars 0 d ++ rest).length + 1 := by
    rw [List.length_append]
    omega
  have hread := readValue_chars d 0 _ maxNesting hlength hdepth hd hrest
  obtain ⟨hskip, -, -⟩ := first_of_readValue hread
  simp only [read, String.toList_ofList, hskip, hread, hblank]

end DenseSketch.Document
