import DenseSketch.Number.Datum
import DenseSketch.Proofs.Fault.Results
import DenseSketch.Sketch.Basic
import Mathlib.Data.List.Infix
import Mathlib.Logic.Function.Basic

/-!
# Running the sampling part

The two functions of the sampling part are run statement by statement, the way their lines in the
sketch say.  One takes a frame into the window; its loops copy within arrays whose indices have to
exist.  The other is called over and over; it looks at a clock of 32 bits to find what is due.
-/

namespace DenseSketch.Sampling

open Sketch

/-! ### Sizes and indices -/

/-- Symbols with signs between them, taken from left to right. -/
inductive Terms (α : Type) where
  | symbol (a : α)
  | plus (front : Terms α) (a : α)
  | minus (front : Terms α) (a : α)

namespace Terms

variable {α : Type}

def text (name : α → String) : Terms α → String
  | .symbol a => name a
  | .plus front a => front.text name ++ " + " ++ name a
  | .minus front a => front.text name ++ " - " ++ name a

def eval (value : α → Int) : Terms α → Int
  | .symbol a => value a
  | .plus front a => front.eval value + value a
  | .minus front a => front.eval value - value a

end Terms

inductive Size where
  | sample
  | frame

/-- What the index of an element is made of. -/
inductive Symbol where
  | size (s : Size)
  | counter

/-- The numbers that the constants stand for. -/
structure Sizes where
  sample : Nat
  frame : Nat

def Size.text : Size → String
  | .sample => "SAMPLE_SIZE"
  | .frame => "FRAME_SIZE"

def Symbol.text (counter : String) : Symbol → String
  | .size s => s.text
  | .counter => counter

def Sizes.value (sizes : Sizes) : Size → Int
  | .sample => sizes.sample
  | .frame => sizes.frame

def Sizes.at (sizes : Sizes) (counter : Nat) : Symbol → Int
  | .size s => sizes.value s
  | .counter => counter

/-- The frames that fill the window, as the sketch divides. -/
def Sizes.windowFrames (sizes : Sizes) : Int := Int.tdiv sizes.sample sizes.frame

/-- What the sketch declares of the window, for frames of a size. -/
def declarations (frameSize : Nat) : List String :=
  ["const int SAMPLE_SIZE = INPUT_SIZE;", s!"const int FRAME_SIZE = {frameSize};",
    "const int WINDOW_FRAMES = SAMPLE_SIZE / FRAME_SIZE;", "float sampleBuffer[SAMPLE_SIZE];",
    "bool bufferFilled = false;", "int framesCollected = 0;"]

/-! ### Taking a frame -/

inductive Source where
  | buffer
  | frame

/-- A loop that copies values into the buffer. -/
structure Loop where
  counter : String
  bound : Terms Size
  target : Terms Symbol
  source : Source
  position : Terms Symbol

inductive Test where
  | unfilled
  /-- One more frame is counted, and then they are enough. -/
  | counted

/-- What is done once the window is filled. -/
inductive Filling where
  | fill
  | announce (text : String)

/-- A statement of the function that takes a frame. -/
inductive PushStatement where
  | copy (loop : Loop)
  | blank
  | latch (tests : List Test) (body : List Filling)

def Source.text : Source → String
  | .buffer => "sampleBuffer"
  | .frame => "frame"

def Test.text : Test → String
  | .unfilled => "!bufferFilled"
  | .counted => "++framesCollected >= WINDOW_FRAMES"

def Filling.text : Filling → String
  | .fill => "bufferFilled = true;"
  | .announce text => "Serial.println(\"" ++ text ++ "\");"

def Loop.code (loop : Loop) : Code :=
  Code.block
    ("for (int " ++ loop.counter ++ " = 0; " ++ loop.counter ++ " < " ++
      loop.bound.text Size.text ++ "; " ++ loop.counter ++ "++)")
    (Code.line ("sampleBuffer[" ++ loop.target.text (Symbol.text loop.counter) ++ "] = " ++
      loop.source.text ++ "[" ++ loop.position.text (Symbol.text loop.counter) ++ "];")) ""

def PushStatement.code : PushStatement → Code
  | .copy loop => loop.code
  | .blank => Code.blank
  | .latch tests body =>
    Code.block ("if (" ++ " && ".intercalate (tests.map Test.text) ++ ")")
      (Code.ofTexts (body.map Filling.text)) ""

/-- Moves the buffer to the left by one frame. -/
def shift : Loop where
  counter := "i"
  bound := .minus (.symbol .sample) .frame
  target := .symbol .counter
  source := .buffer
  position := .plus (.symbol .counter) (.size .frame)

/-- Writes the frame behind what is left. -/
def append : Loop where
  counter := "k"
  bound := .symbol .frame
  target := .plus (.minus (.symbol (.size .sample)) (.size .frame)) .counter
  source := .frame
  position := .symbol .counter

def announcement : String := "Buffer ready - starting predictions"

def pushing : List PushStatement :=
  [.copy shift, .copy append, .blank, .latch [.unfilled, .counted] [.fill, .announce announcement]]

def pushCode : Code :=
  Code.block "void pushFrame(const float* frame)" (pushing.flatMap PushStatement.code) ""

/-- The statements are those of the sketch. -/
theorem pushCode_suffix_pushFrame : pushCode <:+ pushFrame :=
  ⟨Code.line "// Drop the oldest frame and append the newest one", rfl⟩

/-- The window in memory. -/
structure Memory where
  buffer : List Datum
  filled : Bool := false
  collected : Int := 0
  /-- The lines that have gone over the cable. -/
  printed : List String := []

/-- The element at an index, which has to exist. -/
def readAt (values : List Datum) (i : Int) : Option Datum :=
  if 0 ≤ i then values[i.toNat]? else none

/-- Replaces the element at an index, which has to exist. -/
def writeAt (values : List Datum) (i : Int) (v : Datum) : Option (List Datum) :=
  if 0 ≤ i ∧ i < values.length then some (values.set i.toNat v) else none

def Source.values (frame buffer : List Datum) : Source → List Datum
  | .buffer => buffer
  | .frame => frame

def Loop.round (loop : Loop) (sizes : Sizes) (frame buffer : List Datum) (k : Nat) :
    Option (List Datum) := do
  let v ← readAt (loop.source.values frame buffer) (loop.position.eval (sizes.at k))
  writeAt buffer (loop.target.eval (sizes.at k)) v

def Loop.run (loop : Loop) (sizes : Sizes) (frame buffer : List Datum) : Option (List Datum) :=
  (List.range (loop.bound.eval sizes.value).toNat).foldlM (loop.round sizes frame) buffer

/-- Tests a condition; counting changes the window. -/
def Test.run (sizes : Sizes) (s : Memory) : Test → Bool × Memory
  | .unfilled => (!s.filled, s)
  | .counted =>
    (sizes.windowFrames ≤ s.collected + 1, { s with collected := s.collected + 1 })

/-- Tests conditions one after the other up to the first one that fails. -/
def runTests (sizes : Sizes) : List Test → Memory → Bool × Memory
  | [], s => (true, s)
  | test :: rest, s =>
    match test.run sizes s with
    | (true, next) => runTests sizes rest next
    | (false, next) => (false, next)

def Filling.run (s : Memory) : Filling → Memory
  | .fill => { s with filled := true }
  | .announce text => { s with printed := s.printed ++ [text] }

def PushStatement.run (sizes : Sizes) (frame : List Datum) (s : Memory) :
    PushStatement → Option Memory
  | .copy loop => do
    let buffer ← loop.run sizes frame s.buffer
    return { s with buffer := buffer }
  | .blank => some s
  | .latch tests body =>
    match runTests sizes tests s with
    | (true, next) => some (body.foldl Filling.run next)
    | (false, next) => some next

/-- Takes a frame.  There is no result if an index lies outside its array. -/
def push (sizes : Sizes) (s : Memory) (frame : List Datum) : Option Memory :=
  pushing.foldlM (fun s statement => statement.run sizes frame s) s

def Memory.initial (sizes : Sizes) : Memory := { buffer := List.replicate sizes.sample .zero }

/-! ### Looking at the clock -/

/-- What is done from time to time. -/
inductive Task where
  | sample
  | prediction
  deriving DecidableEq

/-- A condition for a task. -/
inductive Due where
  | filled
  /-- The interval of the task has passed since it was last begun. -/
  | elapsed (task : Task)

/-- What is done when a task is due. -/
inductive Action where
  /-- The time of the task is taken. -/
  | restart (task : Task)
  | declareFrame
  /-- A frame is read, and taken if the sensor was ready. -/
  | takeFrame
  | predict

/-- A statement of the function that is called over and over. -/
inductive Statement where
  | readClock
  | blank
  | whenDue (conditions : List Due) (body : List Action)

def Task.lastText : Task → String
  | .sample => "lastSampleTime"
  | .prediction => "lastPrediction"

def Task.intervalText : Task → String
  | .sample => "SAMPLE_INTERVAL"
  | .prediction => "PREDICTION_INTERVAL"

def Due.text : Due → String
  | .filled => "bufferFilled"
  | .elapsed task => "now - " ++ task.lastText ++ " >= " ++ task.intervalText

def Action.code : Action → Code
  | .restart task => Code.line (task.lastText ++ " = now;")
  | .declareFrame => Code.line "float frame[FRAME_SIZE];"
  | .takeFrame => Code.block "if (readFrame(frame))" (Code.line "pushFrame(frame);") ""
  | .predict => Code.line "predict();"

def Statement.code : Statement → Code
  | .readClock => Code.line "unsigned long now = millis();"
  | .blank => Code.blank
  | .whenDue conditions body =>
    Code.block ("if (" ++ " && ".intercalate (conditions.map Due.text) ++ ")")
      (body.flatMap Action.code) ""

def sampleStage : Statement :=
  .whenDue [.elapsed .sample] [.restart .sample, .declareFrame, .takeFrame]

def predictionStage : Statement :=
  .whenDue [.filled, .elapsed .prediction] [.restart .prediction, .predict]

def processing : List Statement := [.readClock, .blank, sampleStage, .blank, predictionStage]

def processCode : Code :=
  Code.block "void processContinuous()" (processing.flatMap Statement.code) ""

/-- The statements are those of the sketch. -/
theorem processCode_eq : processCode = processContinuous := by
  decide

/-- What the sketch declares for its clocks. -/
def timing (sampleInterval predictionInterval : Int) : List String :=
  ["unsigned long lastSampleTime = 0;",
    s!"const unsigned long SAMPLE_INTERVAL = {sampleInterval}; // ms",
    "unsigned long lastPrediction = 0;",
    s!"const unsigned long PREDICTION_INTERVAL = {predictionInterval}; // ms"]

/-- What the constants stand for, those of the clocks in 32 bits. -/
structure Constants extends Sizes where
  interval : Task → BitVec 32

/-- What happens on the board, at the true time in milliseconds. -/
inductive Event where
  /-- The task is done. -/
  | does (task : Task) (time : Nat)
  | pushes
  deriving DecidableEq

/-- The board: the window, when the tasks were last begun, and what has happened. -/
structure Board where
  memory : Memory
  last : Task → BitVec 32 := fun _ => 0
  now : BitVec 32 := 0
  trace : List Event := []

/-- A call of the function: the true time, and the frame that the sensor has ready. -/
structure Visit where
  time : Nat
  frame : Option (List Datum)

def Due.holds (c : Constants) (b : Board) : Due → Bool
  | .filled => b.memory.filled
  | .elapsed task => c.interval task ≤ b.now - b.last task

def Action.run (c : Constants) (visit : Visit) (b : Board) : Action → Option Board
  | .restart task => some { b with last := Function.update b.last task b.now }
  | .declareFrame => some b
  | .takeFrame =>
    let tried := { b with trace := b.trace ++ [.does .sample visit.time] }
    match visit.frame with
    | none => some tried
    | some frame => do
      let memory ← push c.toSizes b.memory frame
      return { tried with memory := memory, trace := tried.trace ++ [.pushes] }
  | .predict => some { b with trace := b.trace ++ [.does .prediction visit.time] }

def Statement.run (c : Constants) (visit : Visit) (b : Board) : Statement → Option Board
  | .readClock => some { b with now := BitVec.ofNat 32 visit.time }
  | .blank => some b
  | .whenDue conditions body =>
    if conditions.all (Due.holds c b) then
      body.foldlM (fun b action => action.run c visit b) b
    else some b

def process (c : Constants) (b : Board) (visit : Visit) : Option Board :=
  processing.foldlM (fun b statement => statement.run c visit b) b

def Board.initial (c : Constants) : Board := { memory := .initial c.toSizes }

/-! ### The sketch -/

/-- The code declares the sizes and the clocks, and has both functions. -/
structure IsEmitted (p : Project) (frameSize : Nat) (code : Code) : Prop where
  declared : ∀ text ∈ declarations frameSize ++ timing p.sampleInterval p.predictionInterval,
    Line.code 0 text ∈ code
  push : pushCode <:+: code
  process : processCode <:+: code

theorem isInfix_append {part code : Code} (behind : Code) (hpart : part <:+: code) :
    part <:+: code ++ behind :=
  hpart.trans (List.prefix_append code behind).isInfix

theorem isEmitted_sampling (p : Project) (s : Project.Surroundings)
    (reading : Project.FrameReading) : IsEmitted p s.frameSize (sampling p s reading) := by
  constructor
  case declared =>
    intro text htext
    have hstate : Line.code 0 text ∈ samplingState p s reading.channels := by
      simp only [declarations, timing, List.mem_append, List.mem_cons, List.not_mem_nil, or_false]
        at htext
      simp only [samplingState, Code.ofTexts, Code.line, Code.blank, List.map_cons, List.map_nil,
        List.mem_append, List.mem_cons, List.not_mem_nil, Line.code.injEq, true_and, or_false]
      tauto
    simp only [sampling, List.mem_append, hstate, true_or]
  case push =>
    refine isInfix_append _ (isInfix_append _ ?_)
    exact pushCode_suffix_pushFrame.isInfix.trans (List.suffix_append ..).isInfix
  case process =>
    rw [processCode_eq]
    exact (List.suffix_append ..).isInfix

theorem IsEmitted.of_isInfix {p : Project} {frameSize : Nat} {part code : Code}
    (hpart : IsEmitted p frameSize part) (hcode : part <:+: code) : IsEmitted p frameSize code :=
  ⟨fun text htext => hcode.subset (hpart.declared text htext), hpart.push.trans hcode,
    hpart.process.trans hcode⟩

/-- The frames of a sensor are counted in the window, so there are channels. -/
theorem frameSize_of_surroundings {p : Project} {s : Project.Surroundings}
    (hs : p.surroundings = .ok s) : p.sensor.frameSize = .ok s.frameSize ∧ 0 < s.frameSize := by
  rw [Project.surroundings, bind_eq_ok] at hs
  obtain ⟨title, -, hs⟩ := hs
  rw [bind_eq_ok] at hs
  obtain ⟨libraries, -, hs⟩ := hs
  cases libraries with
  | nil => cases hs
  | cons header rest =>
    simp only [Sensor.framesIn, bind_eq_ok, pure_eq_ok] at hs
    obtain ⟨_, -, _, ⟨size, hsize, window, hwindow, count, hcount, -⟩, frameSize, hframe, rfl⟩ := hs
    refine ⟨hframe, Nat.pos_of_ne_zero ?_⟩
    rintro rfl
    obtain rfl : size = 0 := Except.ok.inj (hsize.symm.trans hframe)
    obtain rfl : Quantity.whole p.metadata.window = window := Except.ok.inj hwindow
    cases hcount

/-- Every sketch has these lines, for the frames of its sensor. -/
theorem exists_isEmitted {p : Project} {d : Draft} {code : Code}
    (hcode : p.sketchCode d = .ok code) :
    ∃ frameSize, p.sensor.frameSize = .ok frameSize ∧ 0 < frameSize ∧
      IsEmitted p frameSize code := by
  rw [Project.sketchCode, bind_eq_ok] at hcode
  obtain ⟨s, hs, hcode⟩ := hcode
  rw [bind_eq_ok] at hcode
  obtain ⟨reading, -, hcode⟩ := hcode
  obtain ⟨hframe, hpos⟩ := frameSize_of_surroundings hs
  refine ⟨s.frameSize, hframe, hpos, (isEmitted_sampling p s reading).of_isInfix ?_⟩
  cases hvariant : p.metadata.variant
  all_goals
    rw [hvariant] at hcode
    rw [← pure_eq_ok.1 hcode]
  case classification =>
    delta classifier
    iterate 10 refine isInfix_append _ ?_
    exact (List.suffix_append ..).isInfix
  case regression =>
    delta regressor
    iterate 10 refine isInfix_append _ ?_
    exact (List.suffix_append ..).isInfix

end DenseSketch.Sampling
