import DenseSketch.Proofs.Fault.Results
import DenseSketch.Proofs.Text.Lines
import DenseSketch.Sketch.Basic

/-!
# The constants of a sketch

Outside of its functions a sketch declares a few constants, each one in a line of its own: the
capacities of the characteristics, the sizes of a window and the intervals, and the pins of a
regressor.  No other line of a sketch starts like such a declaration.
-/

namespace DenseSketch

open Text

/-! ### Declarations -/

namespace Code

/-- What the declaration of a constant begins with. -/
def constantMark : String := "const "

/-- The lines of code as they are written. -/
def lines (code : Code) : List String := code.map Line.render

/-- The declarations of constants; inside of functions lines are indented. -/
def constants (lines : List String) : List String :=
  lines.filter (constantMark.toList <+: ·.toList)

/-- What the constant is set to, if the line declares it: what stands in front of the semicolon. -/
def initializer? (declarator line : String) : Option (List Char) :=
  (line.toList.dropPrefix? (constantMark ++ declarator ++ " = ").toList).map
    (·.takeWhile (· != ';'))

/-- What the constant is set to, for each of its declarations. -/
def initializers (declarator : String) (lines : List String) : List (List Char) :=
  lines.filterMap (initializer? declarator)

theorem initializers_constants (declarator : String) (lines : List String) :
    initializers declarator (constants lines) = initializers declarator lines := by
  rw [initializers, initializers, constants, List.filterMap_filter]
  refine List.filterMap_congr fun line _ => ?_
  split_ifs with hconstant
  · rfl
  · rw [eq_comm, initializer?, dropPrefix?_eq_none, Option.map_none]
    intro hline
    rw [String.toList_append, String.toList_append, List.append_assoc] at hline
    exact hconstant (decide_eq_true ((List.prefix_append _ _).trans hline))

theorem initializer?_eq_some {declarator line : String} {value : List Char} (hvalue : ';' ∉ value)
    (rest : List Char)
    (hline : line.toList = (constantMark ++ declarator ++ " = ").toList ++ (value ++ ';' :: rest)) :
    initializer? declarator line = some value := by
  have hdrop : line.toList.dropPrefix? (constantMark ++ declarator ++ " = ").toList =
      some (value ++ ';' :: rest) :=
    List.dropPrefix?_eq_some_iff.2 ⟨_, hline, beq_self_eq_true _⟩
  have hletters : ∀ c ∈ value, (c != ';') = true := by
    intro c hc
    have hne : c ≠ ';' := fun h => hvalue (h ▸ hc)
    simpa using hne
  rw [initializer?, hdrop, Option.map_some, List.takeWhile_append_of_pos hletters,
    List.takeWhile_cons_of_neg (by simp), List.append_nil]

/-! ### Constants among lines -/

@[simp]
theorem constants_nil : constants [] = [] :=
  rfl

@[simp]
theorem constants_cons (line : String) (rest : List String) :
    constants (line :: rest) =
      if constantMark.toList <+: line.toList then line :: constants rest else constants rest := by
  simp only [constants, List.filter_cons, decide_eq_true_eq]

@[simp]
theorem constants_append (code more : Code) :
    constants (code ++ more).lines = constants code.lines ++ constants more.lines := by
  rw [lines, List.map_append, constants, List.filter_append]
  rfl

@[simp]
theorem constants_blank : constants blank.lines = [] :=
  rfl

@[simp]
theorem constants_ofTexts (texts : List String) :
    constants (ofTexts texts).lines = constants texts := by
  rw [lines, ofTexts, List.map_map]
  congr 1
  exact (List.map_congr_left fun text _ => by simp [Line.render]).trans (List.map_id texts)

@[simp]
theorem constants_line (text : String) : constants (line text).lines = constants [text] :=
  constants_ofTexts [text]

theorem constants_eq_nil {lines : List String}
    (hlines : ∀ line ∈ lines, ¬ constantMark.toList <+: line.toList) : constants lines = [] := by
  rw [constants, List.filter_eq_nil_iff]
  exact fun line hline h => hlines line hline (of_decide_eq_true h)

/-- Of a literal only the characters are looked at. -/
theorem constants_line_ofList {cs : List Char} (hcs : ¬ constantMark.toList <+: cs) :
    constants (line (String.ofList cs)).lines = [] := by
  rw [constants_line, constants_cons, if_neg (not_prefix_ofList hcs), constants_nil]

/-- The lines between the braces are indented, so that only the head counts. -/
theorem constants_block (head : String) (hhead : Differs constantMark.toList head) (body : Code)
    (tail : String) : constants (block head body tail).lines = [] := by
  have hindented : ∀ line : Line, ¬ constantMark.toList <+: line.deeper.render.toList := by
    intro line
    cases line with
    | blank => simp [constantMark, Line.deeper, Line.render]
    | code depth text =>
      simp [constantMark, Line.deeper, Line.render, Nat.mul_succ, List.replicate_succ]
  refine constants_eq_nil fun line hline => ?_
  obtain ⟨source, hsource, rfl⟩ := List.mem_map.1 hline
  rcases List.mem_append.1 hsource with hsource | hsource
  · rcases List.mem_cons.1 hsource with rfl | hsource
    · simpa [Line.render] using (hhead.append " \x7b").1
    · obtain ⟨inner, -, rfl⟩ := List.mem_map.1 hsource
      exact hindented inner
  · rw [List.mem_singleton.1 hsource]
    simp [constantMark, Line.render]

end Code

/-! ### The parts of a sketch -/

namespace Sketch

open Code

variable {p : Project}

theorem constants_banner (title kind message : String) :
    constants (banner p title kind message).lines = [] := by
  cases hbanner : p.banner <;>
    simp [banner, hbanner, constantMark]

theorem constants_includes (sensorHeader : Document) :
    constants (includes p sensorHeader).lines = [] := by
  simp [includes, constantMark]

theorem constants_prototypes : constants prototypes.lines = [] := by
  rw [prototypes, constants_ofTexts]
  refine constants_eq_nil ?_
  simp only [List.forall_mem_cons]
  refine ⟨?_, ?_, ?_, ?_, ?_, ?_, nofun⟩ <;> exact not_prefix_ofList (by decide)

/-- The constants of the outputs of a regressor. -/
def pinConstants (pins : List Document) : List String :=
  ["const int OUTPUT_PINS[NUM_OUTPUTS] = \x7b" ++ commaSeparated (pins.map Document.shown) ++
    "\x7d;"]

theorem constants_pinDeclaration (pins : List Document) :
    constants (pinDeclaration pins).lines = pinConstants pins := by
  simp [pinDeclaration, pinConstants, constantMark]

/-- The constants of the Bluetooth part. -/
def transportConstants (t : Transport) : List String :=
  [s!"const int TX_CAPACITY = {t.txCapacity.shown};",
    s!"const int RX_CAPACITY = {t.rxCapacity.shown};"]

theorem constants_bluetooth (t : Transport) :
    constants (bluetooth t).lines = transportConstants t := by
  have hbegin := constants_block "bool beginTransport()" (differs_ofList (by decide))
  have hpoll := constants_block "void pollTransport()" (differs_ofList (by decide))
  have hsend := constants_block "void sendMessage(const char* message)" (differs_ofList (by decide))
  simp [bluetooth, transportConstants, hbegin, hpoll, hsend, constantMark]

/-- The constants of the sampling part. -/
def samplingConstants (p : Project) (frameSize : Nat) : List String :=
  ["const int SAMPLE_SIZE = INPUT_SIZE;",
    s!"const int FRAME_SIZE = {frameSize};",
    "const int WINDOW_FRAMES = SAMPLE_SIZE / FRAME_SIZE;",
    s!"const unsigned long SAMPLE_INTERVAL = {p.sampleInterval}; // ms",
    s!"const unsigned long PREDICTION_INTERVAL = {p.predictionInterval}; // ms"]

theorem constants_sampling (s : Project.Surroundings) (reading : Project.FrameReading) :
    constants (sampling p s reading).lines =
      samplingConstants p s.frameSize := by
  have hread := constants_block "bool readFrame(float* frame)" (differs_ofList (by decide))
  have hpush := constants_block "void pushFrame(const float* frame)" (differs_ofList (by decide))
  have hprocess := constants_block "void processContinuous()" (differs_ofList (by decide))
  simp [sampling, samplingState, readFrame, pushFrame, processContinuous, samplingConstants, hread,
    hpush, hprocess, constantMark]

theorem constants_hooks : constants (hooks p).lines = [] := by
  have hsensor := constants_block "void onSensorUnavailable()" (differs_ofList (by decide))
  have htransport := constants_block "void onTransportUnavailable()" (differs_ofList (by decide))
  have hcommand := constants_block "void onCommand(const String& command)" (differs_ofList (by decide))
  simp only [hooks, constants_append, constants_blank, hsensor, htransport, hcommand,
    List.append_eq_nil_iff, and_true]
  exact ⟨⟨constants_line_ofList (by decide), constants_line_ofList (by decide)⟩,
    constants_line_ofList (by decide)⟩

theorem constants_setup (prepare announce : Code) :
    constants (setup p prepare announce).lines = [] :=
  constants_block _ (differs_ofList (by decide)) _ _

theorem constants_mainLoop : constants mainLoop.lines = [] :=
  constants_block _ (differs_ofList (by decide)) _ _

theorem constants_forwardPass (steps : List Step) : constants (forwardPass steps).lines = [] :=
  constants_block _ (differs_ofList (by decide)) _ _

theorem constants_classReport : constants classReport.lines = [] := by
  have hreport := constants_block "void reportPrediction(float* probs)" (differs_ofList (by decide))
  rw [classReport, constants_append, hreport, List.append_nil]
  exact constants_line_ofList (by decide)

theorem constants_valueReport : constants valueReport.lines = [] := by
  have hduty := constants_block "int pwmDuty(float value)" (differs_ofList (by decide))
  have hreport := constants_block "void reportPrediction(float* values)" (differs_ofList (by decide))
  simp only [valueReport, dutyFunction, constants_append, constants_blank, hduty, hreport,
    List.append_eq_nil_iff, and_true]
  exact ⟨constants_line_ofList (by decide), constants_line_ofList (by decide)⟩

/-! ### The whole sketch -/

/-- The constants of a sketch. -/
def sketchConstants (p : Project) (pins : List Document) (frameSize : Nat) : List String :=
  (match p.metadata.variant with
    | .classification => []
    | .regression => pinConstants pins) ++
  transportConstants p.transport ++ samplingConstants p frameSize

/-- These are all the constants that a sketch declares. -/
theorem constants_sketchCode {d : Draft} {code : Code} (hcode : p.sketchCode d = .ok code) :
    ∃ frameSize, constants code.lines = sketchConstants p d.pins frameSize := by
  simp only [Project.sketchCode, bind_eq_ok] at hcode
  obtain ⟨s, -, reading, -, hcode⟩ := hcode
  refine ⟨s.frameSize, ?_⟩
  cases hvariant : p.metadata.variant with
  | classification =>
    simp only [hvariant, pure_eq_ok] at hcode
    subst hcode
    rw [sketchConstants, hvariant]
    unfold classifier
    simp only [constants_append, constants_blank, constants_banner, constants_includes,
      constants_prototypes, constants_bluetooth, constants_sampling, constants_hooks,
      constants_setup, constants_mainLoop, constants_forwardPass, constants_classReport,
      List.nil_append, List.append_nil]
  | regression =>
    simp only [hvariant, pure_eq_ok] at hcode
    subst hcode
    rw [sketchConstants, hvariant]
    unfold regressor
    simp only [constants_append, constants_blank, constants_banner, constants_includes,
      constants_prototypes, constants_pinDeclaration, constants_bluetooth, constants_sampling,
      constants_hooks, constants_setup, constants_mainLoop, constants_forwardPass,
      constants_valueReport, List.nil_append, List.append_nil]

end Sketch

end DenseSketch
