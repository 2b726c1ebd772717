import DenseSketch.Number.FixedPlaces
import DenseSketch.Sketch.Report
import Mathlib.Data.List.Infix
import Mathlib.Tactic.Common

/-!
# The machine of a report

Buffers and formats as the library for printing has them, and the statements that use them.
-/

/-!
## Printing into a buffer

What a sketch needs of the library for printing: formats are expanded, and a text is put into a
buffer with a null behind it.  A text that is too long for its room is cut, and a room that reaches
beyond the buffer has no meaning.
-/

namespace DenseSketch.Printing

/-! ### Formats -/

/-- What a format puts out, as it stands in the code; `written places` is what a conversion with
    this number of places puts out. -/
def expand (written : Nat → List Char) : List Char → List Char
  | [] => []
  | '\\' :: 'n' :: rest => '\n' :: expand written rest
  | '%' :: '.' :: d :: 'f' :: rest => written (d.toNat - '0'.toNat) ++ expand written rest
  | c :: rest => c :: expand written rest

example : expand (fun places => List.replicate places '7') "a%.3f\\n".toList = "a777\n".toList := by
  decide

/-! ### Buffers -/

/-- What ends a text in a buffer. -/
def null : Char := '\x00'

/-- Writes characters over those of a buffer, which has to hold them. -/
def overwrite (buffer : List Char) (offset : Nat) (cs : List Char) : Option (List Char) :=
  if offset + cs.length ≤ buffer.length then
    some (buffer.take offset ++ cs ++ buffer.drop (offset + cs.length))
  else none

/-- Puts as much of a text into a buffer as `size` characters have room for, with a null behind it.
    A size of zero leaves the buffer alone; one below zero would be taken for a huge one. -/
def printInto (buffer : List Char) (offset : Nat) (size : Int) (text : List Char) :
    Option (List Char) :=
  if size < 0 then none
  else if size = 0 then some buffer
  else overwrite buffer offset (text.take (size.toNat - 1) ++ [null])

/-- The text that a buffer holds, up to its first null. -/
def heldText (buffer : List Char) : Option (List Char) :=
  if null ∈ buffer then some (buffer.takeWhile (· != null)) else none

/-- Printing goes on where the buffer's text ends: the whole text is added, as long as there is room
    for it and a null. -/
theorem printInto_eq_some (text : List Char) {buffer before : List Char} (hbefore : before <+: buffer)
    (hroom : before.length + text.length < buffer.length) :
    ∃ printed, printInto buffer before.length (buffer.length - before.length) text = some printed ∧
      printed.length = buffer.length ∧ before ++ text ++ [null] <+: printed := by
  obtain ⟨rest, rfl⟩ := hbefore
  rw [List.length_append] at hroom
  have hpositive : ¬ (((before ++ rest).length : Int) - before.length < 0) := by
    rw [List.length_append]
    omega
  have hnonzero : ((before ++ rest).length : Int) - before.length ≠ 0 := by
    rw [List.length_append]
    omega
  have hwhole : text.take ((((before ++ rest).length : Int) - before.length).toNat - 1) = text := by
    rw [List.take_of_length_le]
    rw [List.length_append]
    omega
  have hfits : before.length + (text ++ [null]).length ≤ (before ++ rest).length := by
    rw [List.length_append, List.length_append, List.length_singleton]
    omega
  refine ⟨before ++ (text ++ [null]) ++
    (before ++ rest).drop (before.length + (text ++ [null]).length), ?_, ?_, ?_⟩
  · rw [printInto, if_neg hpositive, if_neg hnonzero, hwhole, overwrite, if_pos hfits,
      List.take_left]
  · simp only [List.length_append, List.length_drop, List.length_singleton]
    omega
  · rw [← List.append_assoc before]
    exact List.prefix_append _ _

theorem heldText_eq_some {buffer text : List Char} (htext : null ∉ text)
    (hholds : text ++ [null] <+: buffer) : heldText buffer = some text := by
  obtain ⟨rest, rfl⟩ := hholds
  have hall : ∀ c ∈ text, (c != null) = true := by
    intro c hc
    rw [bne_iff_ne]
    rintro rfl
    exact htext hc
  rw [heldText, if_pos (by simp), List.append_assoc, List.takeWhile_append_of_pos hall]
  simp

end DenseSketch.Printing

/-!
## Running the report of a regressor

The report is run statement by statement, the way its lines in the sketch say.  Texts go into a
buffer one behind the other, a running length says where the next one starts, and every call of the
library is kept with what it was given.
-/

namespace DenseSketch.Report

open Printing Sketch

/-! ### Statements -/

/-- A statement of the loop over the values. -/
inductive RoundStatement where
  /-- The value of the round is moved into the unit interval. -/
  | constrain
  /-- The pin of the round is driven for the value. -/
  | drive
  /-- The value is printed at the end of the message. -/
  | print (format : String)

/-- A statement of the report. -/
inductive Statement where
  /-- The buffer is declared. -/
  | declare
  /-- The message begins with a text, whose length is taken. -/
  | start (format : String)
  /-- Some statements are run for each output. -/
  | forEach (body : List RoundStatement)
  /-- A text is printed at the end of the message. -/
  | finish (format : String)
  /-- The message goes over the cable. -/
  | serial
  /-- The message goes over the air. -/
  | send

/-- The statement as it stands in the code. -/
def RoundStatement.text : RoundStatement → String
  | .constrain => "float value = constrain(values[i], 0.0f, 1.0f);"
  | .drive => "analogWrite(OUTPUT_PINS[i], pwmDuty(value));"
  | .print format =>
    "len += snprintf(message + len, sizeof(message) - len, \"" ++ format ++ "\", value);"

/-- The lines of the statement. -/
def Statement.code : Statement → Code
  | .declare => Code.line "char message[TX_CAPACITY + 1];"
  | .start format => Code.line ("int len = snprintf(message, sizeof(message), \"" ++ format ++ "\");")
  | .forEach body =>
    Code.block "for (int i = 0; i < NUM_OUTPUTS; i++)"
      (Code.ofTexts (body.map RoundStatement.text)) ""
  | .finish format =>
    Code.line ("snprintf(message + len, sizeof(message) - len, \"" ++ format ++ "\");")
  | .serial => Code.line "Serial.print(message);"
  | .send => Code.line "sendMessage(message);"

/-- What is done for each output. -/
def rounds : List RoundStatement := [.constrain, .drive, .print ",%.3f"]

/-- What prints the message. -/
def printing : List Statement := [.declare, .start "R", .forEach rounds, .finish "\\n"]

/-- What sends the message. -/
def sending : List Statement := [.serial, .send]

/-- The function of these statements. -/
def function : Code :=
  Code.block "void reportPrediction(float* values)"
    (printing.flatMap Statement.code ++ Code.blank ++ sending.flatMap Statement.code) ""

/-- The statements are those of the sketch. -/
theorem function_suffix_valueReport : function <:+ valueReport := by
  refine ⟨dutyFunction ++ Code.blank ++
    Code.line "// Drive one PWM pin per output and report every value", ?_⟩
  rfl

/-! ### Running -/

/-- A call of the report: what the symbols of the code stand for, the values, and what neither the
    code nor the data determine. -/
structure Call where
  /-- The number that the sketch declares as `TX_CAPACITY`. -/
  capacity : Nat
  /-- The number that the header defines as `NUM_OUTPUTS`. -/
  outputs : Nat
  values : List Datum
  /-- The buffer before anything is printed. -/
  memory : List Char
  memory_length : memory.length = capacity + 1
  /-- Where the library rounds a half. -/
  tie : Tie
  /-- Does a value that is not a number have a sign? -/
  signedNaN : Nat → Bool

/-- One call of `snprintf`: where it prints to, the size that it is given, the whole text, and the
    running length behind it. -/
structure Print where
  offset : Nat
  size : Int
  text : List Char
  after : Nat

/-- What the statements change. -/
structure State where
  message : List Char := []
  len : Nat := 0
  value : Datum := .zero
  /-- The pins that have been driven, with their values. -/
  driven : List (Nat × Datum) := []
  prints : List Print := []
  /-- The texts that have been sent. -/
  sent : List (List Char) := []

/-- A value moved into the unit interval by comparisons alone: what is not a number stays so. -/
def constrained (v : Datum) : Datum :=
  if v.lt .zero then .zero else if Datum.one.lt v then .one else v

/-- What the library writes for a value with a number of places. -/
def Call.written (call : Call) (i : Nat) (v : Datum) (places : Nat) : List Char :=
  match v with
  | .nan => if call.signedNaN i then "-nan".toList else "nan".toList
  | v => FixedStyle.text ⟨places, call.tie, true⟩ v

/-- Prints a text; the size is what the buffer has behind the offset. -/
def State.print (s : State) (offset after : Nat) (text : List Char) : Option State := do
  let size : Int := s.message.length - offset
  let message ← printInto s.message offset size text
  return { s with message := message, len := after,
                  prints := s.prints ++ [⟨offset, size, text, after⟩] }

/-- Runs a statement of round `i`. -/
def RoundStatement.run (call : Call) (i : Nat) (s : State) : RoundStatement → Option State
  | .constrain => do
    let v ← call.values[i]?
    return { s with value := constrained v }
  | .drive => some { s with driven := s.driven ++ [(i, s.value)] }
  | .print format =>
    let text := expand (call.written i s.value) format.toList
    s.print s.len (s.len + text.length) text

/-- Runs the statements of a loop for each output. -/
def runRounds (call : Call) (body : List RoundStatement) (count : Nat) (s : State) : Option State :=
  (List.range count).foldlM
    (fun s i => body.foldlM (fun s statement => statement.run call i s) s) s

/-- Runs a statement. -/
def Statement.run (call : Call) (s : State) : Statement → Option State
  | .declare => some { s with message := call.memory }
  | .start format =>
    let text := expand (fun _ => []) format.toList
    s.print 0 text.length text
  | .forEach body => runRounds call body call.outputs s
  | .finish format => s.print s.len s.len (expand (fun _ => []) format.toList)
  | .serial | .send => do
    let text ← heldText s.message
    return { s with sent := s.sent ++ [text] }

/-- Runs the report.  There is no result if it reads or writes beyond an array. -/
def Call.run (call : Call) : Option State :=
  (printing ++ sending).foldlM (fun s statement => statement.run call s) {}

end DenseSketch.Report
