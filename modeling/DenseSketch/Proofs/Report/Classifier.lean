import DenseSketch.Inference.Activation
import DenseSketch.Proofs.List.Monadic
import DenseSketch.Proofs.Message.Lengths
import DenseSketch.Proofs.Report.Machine
import DenseSketch.Sketch.Report

/-!
# Running the report of a classifier

The report is run statement by statement, the way its lines in the sketch say.  A scan keeps the
largest probability so far and its index; the label there and the percentage in single precision
are printed into a buffer of bytes, and what the buffer holds is sent.
-/

namespace DenseSketch

/-- A scan of a list that is not empty comes to its end. -/
theorem exists_argmax_eq_ok {α : Type} (lt : α → α → Bool) {values : List α}
    (hvalues : values ≠ []) : ∃ i, argmax lt values = .ok i := by
  obtain ⟨first, rest, rfl⟩ := List.exists_cons_of_ne_nil hvalues
  exact ⟨_, rfl⟩

end DenseSketch

namespace DenseSketch.ClassReport

open Message Printing Sketch

/-! ### Bytes -/

/-- The bytes of a character, each held as the character with its number. -/
def charCells (c : Char) : List Char :=
  (String.utf8EncodeChar c).map fun byte => Char.ofNat byte.toNat

/-- The bytes of a text. -/
def cells (s : String) : List Char := s.toList.flatMap charCells

theorem charCells_of_lt {c : Char} (hc : c.toNat < 0x80) : charCells c = [c] := by
  have hle : c.val.toNat ≤ 0x7f := Nat.le_of_lt_succ hc
  have hbyte : (UInt8.ofNat c.toNat).toNat = c.toNat :=
    UInt8.toNat_ofNat_of_lt' (hc.trans (by decide))
  rw [charCells, String.utf8EncodeChar]
  simp only [hle, if_true, List.map_cons, List.map_nil]
  rw [← Char.toNat, hbyte, Char.ofNat_toNat]

/-- Only the null has a byte that is null. -/
theorem null_not_mem_charCells {c : Char} (hc : c ≠ null) : null ∉ charCells c := by
  have hvalue : c.val.toNat ≠ 0 := fun hzero => hc (Char.ext (UInt32.toNat_inj.1 hzero))
  have hchar : ∀ n < 256, n ≠ 0 → null ≠ Char.ofNat n := by decide +kernel
  have hbyte : ∀ n, n ≠ 0 → n < 256 → null ≠ Char.ofNat (UInt8.ofNat n).toNat := by
    intro n hn hlt
    rw [UInt8.toNat_ofNat_of_lt' hlt]
    exact hchar n hlt hn
  rw [charCells, String.utf8EncodeChar]
  -- One case for each number of bytes.
  split_ifs
  all_goals
    simp only [List.map_cons, List.map_nil, List.mem_cons, List.not_mem_nil, or_false, not_or]
  · exact hbyte _ hvalue (by omega)
  · exact ⟨hbyte _ (by omega) (by omega), hbyte _ (by omega) (by omega)⟩
  · exact ⟨hbyte _ (by omega) (by omega), hbyte _ (by omega) (by omega),
      hbyte _ (by omega) (by omega)⟩
  · exact ⟨hbyte _ (by omega) (by omega), hbyte _ (by omega) (by omega),
      hbyte _ (by omega) (by omega), hbyte _ (by omega) (by omega)⟩

theorem cells_append (s t : String) : cells (s ++ t) = cells s ++ cells t := by
  simp [cells]

theorem cells_of_isAscii {s : String} (hs : Text.IsAscii s.toList) : cells s = s.toList := by
  rw [cells, List.flatMap_congr fun c hc => charCells_of_lt (hs c hc)]
  simp

theorem length_cells (s : String) : (cells s).length = s.utf8ByteSize := by
  have hsum : ∀ cs : List Char,
      (cells (String.ofList cs)).length = (String.ofList cs).utf8ByteSize := by
    intro cs
    induction cs with
    | nil => rfl
    | cons c cs ih =>
      rw [String.ofList_cons, cells_append, List.length_append, String.utf8ByteSize_append, ih]
      simp [cells, charCells]
  have hlist := hsum s.toList
  rwa [String.ofList_toList] at hlist

theorem null_not_mem_cells {s : String} (hs : null ∉ s.toList) : null ∉ cells s := by
  rw [cells, List.mem_flatMap]
  rintro ⟨c, hc, hnull⟩
  exact null_not_mem_charCells (fun heq => hs (heq ▸ hc)) hnull

/-! ### Statements -/

/-- What is done for a larger probability. -/
inductive Taking where
  | confidence
  | index

/-- A statement of the report. -/
inductive Statement where
  /-- The first output wins so far. -/
  | startIndex
  | startConfidence
  /-- The other outputs are compared with the largest probability so far. -/
  | scan (taken : List Taking)
  /-- The buffer is declared. -/
  | declare
  /-- The label and the percentage of the winner are printed. -/
  | print (format : String)
  /-- The message goes over the cable. -/
  | serial
  /-- The message goes over the air. -/
  | send

/-- The statement as it stands in the code. -/
def Taking.text : Taking → String
  | .confidence => "maxConf = probs[i];"
  | .index => "pred = i;"

/-- The lines of the statement. -/
def Statement.code : Statement → Code
  | .startIndex => Code.line "int pred = 0;"
  | .startConfidence => Code.line "float maxConf = probs[0];"
  | .scan taken =>
    Code.block "for (int i = 1; i < NUM_OUTPUTS; i++)"
      (Code.block "if (probs[i] > maxConf)" (Code.ofTexts (taken.map Taking.text)) "") ""
  | .declare => Code.line "char message[TX_CAPACITY + 1];"
  | .print format =>
    Code.line ("snprintf(message, sizeof(message), \"" ++ format ++
      "\", OUTPUT_LABELS[pred], maxConf * 100.0f);")
  | .serial => Code.line "Serial.print(message);"
  | .send => Code.line "sendMessage(message);"

/-- What looks for the winner. -/
def scanning : List Statement := [.startIndex, .startConfidence, .scan [.confidence, .index]]

/-- What prints the message. -/
def printing : List Statement := [.declare, .print "%s,%.2f\\n"]

/-- What sends the message. -/
def sending : List Statement := [.serial, .send]

/-- The function of these statements. -/
def function : Code :=
  Code.block "void reportPrediction(float* probs)"
    (scanning.flatMap Statement.code ++ Code.blank ++ printing.flatMap Statement.code ++
      Code.blank ++ sending.flatMap Statement.code) ""

/-- The statements are those of the sketch. -/
theorem function_suffix_classReport : function <:+ classReport :=
  ⟨Code.line "// Report the most probable class; ties go to the lowest index", rfl⟩

/-! ### Running -/

/-- A call of the report: what the symbols of the code stand for, the probabilities, and what
    neither the code nor the data determine. -/
structure Call where
  /-- The number that the sketch declares as `TX_CAPACITY`. -/
  capacity : Nat
  /-- The number that the header defines as `NUM_OUTPUTS`. -/
  outputs : Nat
  /-- The texts that the header lists as `OUTPUT_LABELS`. -/
  labels : List String
  probs : List Datum
  /-- The buffer before anything is printed. -/
  memory : List Char
  memory_length : memory.length = capacity + 1
  /-- Does a percentage that is not a number have a sign? -/
  signedNaN : Bool

/-- What the statements change. -/
structure State where
  pred : Nat := 0
  maxConf : Datum := .zero
  message : List Char := []
  /-- The texts that have been sent. -/
  sent : List (List Char) := []

/-- What a format puts out, as it stands in the code: `%s` stands for the text. -/
def expandWith (text : List Char) (written : Nat → List Char) : List Char → List Char
  | '%' :: 's' :: rest => text ++ expandWith text written rest
  | format => expand written format

/-- What the library writes for a percentage; a half goes to the even neighbour. -/
def Call.written (call : Call) (percentage : Datum) (places : Nat) : List Char :=
  match percentage with
  | .nan => if call.signedNaN then "-nan".toList else "nan".toList
  | v => FixedStyle.text ⟨places, .toEven, true⟩ v

/-- Runs what is done for a larger probability. -/
def Taking.run (call : Call) (i : Nat) (s : State) : Taking → Option State
  | .confidence => do
    let v ← call.probs[i]?
    return { s with maxConf := v }
  | .index => some { s with pred := i }

/-- Runs round `i` of the scan. -/
def runRound (call : Call) (taken : List Taking) (s : State) (i : Nat) : Option State := do
  let v ← call.probs[i]?
  if s.maxConf.lt v then taken.foldlM (fun s taking => taking.run call i s) s else some s

/-- Runs a statement. -/
def Statement.run (call : Call) (s : State) : Statement → Option State
  | .startIndex => some { s with pred := 0 }
  | .startConfidence => do
    let v ← call.probs[0]?
    return { s with maxConf := v }
  | .scan taken => (List.range' 1 (call.outputs - 1)).foldlM (runRound call taken) s
  | .declare => some { s with message := call.memory }
  | .print format => do
    let label ← call.labels[s.pred]?
    let percentage := Format.binary32.mul s.maxConf hundred
    let text := expandWith (cells label) (call.written percentage) format.toList
    let message ← printInto s.message 0 s.message.length text
    return { s with message := message }
  | .serial | .send => do
    let text ← heldText s.message
    return { s with sent := s.sent ++ [text] }

/-- Runs the report.  There is no result if it reads or writes beyond an array. -/
def Call.run (call : Call) : Option State :=
  (scanning ++ printing ++ sending).foldlM (fun s statement => statement.run call s) {}

/-! ### The scan -/

variable {call : Call} {s : State}

/-- The rounds from `i` on find what the host's scan finds there, and the largest probability is
    the one at the index that has been found. -/
theorem exists_runRounds_eq {i : Nat} {rest : List Datum} (hrest : call.probs.drop i = rest)
    (hs : call.probs[s.pred]? = some s.maxConf) :
    ∃ p, (List.range' i rest.length).foldlM (runRound call [.confidence, .index]) s =
        some { s with pred := argmaxFrom Datum.lt s.maxConf s.pred i rest, maxConf := p } ∧
      call.probs[argmaxFrom Datum.lt s.maxConf s.pred i rest]? = some p := by
  -- On the outputs that are left; the running index and the running maximum stay together.
  induction rest generalizing i s with
  | nil => exact ⟨s.maxConf, rfl, hs⟩
  | cons x rest ih =>
    obtain ⟨hx, hnext⟩ := getElem?_of_drop_eq_cons hrest
    rw [List.length_cons, List.range'_succ, List.foldlM_cons, argmaxFrom]
    by_cases hlarger : s.maxConf.lt x
    · have hround : runRound call [.confidence, .index] s i =
          some { s with pred := i, maxConf := x } := by
        simp [runRound, Taking.run, hx, hlarger]
      rw [hround, if_pos hlarger]
      exact ih hnext hx
    · have hround : runRound call [.confidence, .index] s i = some s := by
        simp [runRound, hx, hlarger]
      rw [hround, if_neg hlarger]
      exact ih hnext hs

/-- The scan finds the first largest probability. -/
theorem exists_scanning_eq {i : Nat} (hlength : call.probs.length = call.outputs)
    (hi : argmax Datum.lt call.probs = .ok i) :
    ∃ p, call.probs[i]? = some p ∧
      scanning.foldlM (fun s statement => statement.run call s) {} =
        some { pred := i, maxConf := p } := by
  obtain ⟨first, rest, hprobs⟩ : ∃ first rest, call.probs = first :: rest := by
    cases hprobs : call.probs with
    | nil =>
      rw [hprobs] at hi
      cases hi
    | cons first rest => exact ⟨first, rest, rfl⟩
  have hrounds : call.outputs - 1 = rest.length := by
    rw [← hlength, hprobs, List.length_cons, Nat.add_sub_cancel]
  let started : State := { pred := 0, maxConf := first }
  have hfirst : call.probs[started.pred]? = some started.maxConf := by
    rw [hprobs]
    rfl
  have hrest : call.probs.drop 1 = rest := by
    rw [hprobs]
    rfl
  obtain ⟨p, hscan, hp⟩ := exists_runRounds_eq hrest hfirst
  rw [hprobs, argmax, Except.ok.injEq] at hi
  subst hi
  refine ⟨p, hp, ?_⟩
  have hzero : call.probs[0]? = some first := hfirst
  simp only [scanning, List.foldlM_cons, List.foldlM_nil, Statement.run, hzero, hrounds,
    Option.bind_eq_bind, Option.bind_some, Option.pure_def]
  change (List.foldlM (runRound call [.confidence, .index]) started _).bind some = _
  rw [hscan]
  rfl

/-! ### The message -/

/-- The message of a board for a label and a probability. -/
def boardMessage (label : String) (p : Datum) : String :=
  label ++ "," ++ String.ofList (confidenceStyle.text (Format.binary32.mul p hundred)) ++ "\n"

/-- A call with the outputs of a classifier whose labels can stand in the header and whose messages
    have room. -/
structure Call.IsProper (call : Call) : Prop where
  labels_length : call.labels.length = call.outputs
  probs_length : call.probs.length = call.outputs
  outputs_pos : 0 < call.outputs
  isEncodable : ∀ label ∈ call.labels, Text.isEncodable label
  null_not_mem : ∀ label ∈ call.labels, null ∉ label.toList
  room : ∀ label ∈ call.labels, label.utf8ByteSize + 8 ≤ call.capacity
  unit : ∀ p ∈ call.probs, Datum.zero.le p ∧ p.le .one

theorem written_eq (call : Call) {percentage : Datum} (hnumber : percentage ≠ .nan) :
    call.written percentage 2 = confidenceStyle.text percentage := by
  cases percentage with
  | nan => exact absurd rfl hnumber
  | infinite s => rfl
  | finite s m e => rfl

theorem cells_boardMessage (label : String) (p : Datum) :
    cells (boardMessage label p) =
      cells label ++ ',' :: (confidenceStyle.text (Format.binary32.mul p hundred) ++ ['\n']) := by
  have hseparator : cells "," = [','] := cells_of_isAscii (by decide)
  have hfeed : cells "\n" = ['\n'] := cells_of_isAscii (by decide)
  have htext : cells (String.ofList (confidenceStyle.text (Format.binary32.mul p hundred))) =
      confidenceStyle.text (Format.binary32.mul p hundred) := by
    rw [cells_of_isAscii (isAscii_confidence _), String.toList_ofList]
  rw [boardMessage, cells_append, cells_append, cells_append, hseparator, hfeed, htext]
  simp

section Messages

variable {label : String} {p : Datum}

theorem length_cells_boardMessage_le (label : String) (hlow : Datum.zero.le p) (hhigh : p.le .one) :
    (cells (boardMessage label p)).length ≤ label.utf8ByteSize + 8 := by
  have htext := length_confidence_le Format.takesPercentages_binary32 hlow hhigh
  rw [length_cells, boardMessage, utf8ByteSize_classLine]
  omega

theorem null_not_mem_boardMessage (hlabel : null ∉ label.toList) (hlow : Datum.zero.le p)
    (hhigh : p.le .one) : null ∉ cells (boardMessage label p) := by
  have htext : null ∉ confidenceStyle.text (Format.binary32.mul p hundred) := by
    by_cases hsign : p.isNegative
    · rw [confidence_of_isNegative _ hsign hlow]
      decide
    · obtain ⟨k, -, hk, -⟩ := exists_confidence Format.takesPercentages_binary32
        (Bool.eq_false_iff.2 hsign) hhigh
      rw [hk]
      exact fun h => (isDigit_or_point_of_mem_placedText h).elim (by decide) (by decide)
  have hends : null ∉ [',', '\n'] := by decide
  rw [cells_boardMessage]
  simp only [List.mem_cons, List.mem_append, List.not_mem_nil, or_false, not_or] at hends ⊢
  exact ⟨null_not_mem_cells hlabel, hends.1, htext, hends.2⟩

/-- What the label and the percentage of the winner are printed as. -/
theorem expandWith_eq_cells (hlow : Datum.zero.le p) (hhigh : p.le .one) :
    expandWith (cells label) (call.written (Format.binary32.mul p hundred)) "%s,%.2f\\n".toList =
      cells (boardMessage label p) := by
  have hnumber := mul_hundred_ne_nan Format.takesPercentages_binary32 hlow hhigh
  rw [cells_boardMessage, ← written_eq call hnumber]
  simp [expandWith, expand]

/-- The first largest probability is `p`, and its output has this label. -/
def Call.Reports (call : Call) (label : String) (p : Datum) : Prop :=
  ∃ i, argmax Datum.lt call.probs = .ok i ∧ call.labels[i]? = some label ∧ call.probs[i]? = some p

/-- Some output is reported. -/
theorem exists_reports (hcall : call.IsProper) : ∃ label p, call.Reports label p := by
  obtain ⟨i, hi⟩ := exists_argmax_eq_ok Datum.lt
    (List.ne_nil_of_length_pos (hcall.probs_length ▸ hcall.outputs_pos))
  obtain ⟨p, hp, -⟩ := exists_scanning_eq hcall.probs_length hi
  have hlt : i < call.labels.length := by
    rw [hcall.labels_length, ← hcall.probs_length]
    exact (List.getElem?_eq_some_iff.1 hp).1
  exact ⟨call.labels[i], p, i, hi, List.getElem?_eq_getElem hlt, hp⟩

/-- The report of a proper call comes to its end, and sends the label and the percentage of the
    first largest probability over the cable and over the air. -/
theorem exists_run_eq (hcall : call.IsProper) (hreports : call.Reports label p) :
    ∃ final, call.run = some final ∧
      final.sent = List.replicate 2 (cells (boardMessage label p)) := by
  obtain ⟨i, hi, hlabel, hp⟩ := hreports
  obtain ⟨other, hother, hscanning⟩ := exists_scanning_eq hcall.probs_length hi
  obtain rfl : other = p := by
    rw [hp] at hother
    exact (Option.some.inj hother).symm
  have hmem := List.mem_of_getElem? hlabel
  obtain ⟨hlow, hhigh⟩ := hcall.unit other (List.mem_of_getElem? hp)
  have hlength := length_cells_boardMessage_le label hlow hhigh
  have hroom := hcall.room label hmem
  have hfits : ([] : List Char).length + (cells (boardMessage label other)).length <
      call.memory.length := by
    rw [List.length_nil, call.memory_length]
    omega
  obtain ⟨message, hprint, -, hends⟩ :=
    printInto_eq_some _ (List.nil_prefix : [] <+: call.memory) hfits
  have hheld : heldText message = some (cells (boardMessage label other)) :=
    heldText_eq_some (null_not_mem_boardMessage (hcall.null_not_mem label hmem) hlow hhigh) hends
  rw [List.length_nil, Nat.cast_zero, Int.sub_zero] at hprint
  refine ⟨{ pred := i, maxConf := other, message := message,
            sent := [cells (boardMessage label other), cells (boardMessage label other)] },
    ?_, rfl⟩
  rw [Call.run, List.foldlM_append, List.foldlM_append, hscanning]
  simp only [printing, sending, List.foldlM_cons, List.foldlM_nil, Statement.run, hlabel, hprint,
    hheld, expandWith_eq_cells hlow hhigh, Option.bind_eq_bind, Option.bind_some,
    Option.pure_def]
  rfl

end Messages

end DenseSketch.ClassReport
