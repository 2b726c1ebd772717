import DenseSketch.Project
import DenseSketch.Proofs.Document.Values
import DenseSketch.Proofs.Fault.Results
import DenseSketch.Proofs.List.Lookup
import DenseSketch.Proofs.Message.Classification
import DenseSketch.Proofs.Plan.Positions
import DenseSketch.Proofs.Table.Finiteness
import DenseSketch.Workbench

/-!
# Projects and their files

Which settings are well-typed, and that nothing in the files of such a project is refused.
-/

/-!
## Well-typed settings

Boards and sensors hold plain values, and a sketch shows most of them whatever they are.  What it
takes apart has to be of the type that it is declared with; the registered boards and sensors are.
-/

namespace DenseSketch

/-- For each sensor family a board has a header and a library. -/
def Board.WellTyped (board : Board) : Prop :=
  ∀ entry ∈ board.capabilities.sensorLibraries, ∃ header library,
    entry.2 = [.text header, .text library]

/-- The name is a text, and what is read one by one are texts. -/
structure Sensor.WellTyped (sensor : Sensor) : Prop where
  name : ∃ name, sensor.name = .text name
  channels : ∃ texts, sensor.channels = .ofTexts texts
  readStatements : ∃ texts, sensor.readStatements = .ofTexts texts
  channelExpressions : ∃ texts, sensor.channelExpressions = .ofTexts texts

/-- A board and a sensor that are given themselves, and not by name, are well-typed. -/
structure Settings.WellTyped (s : Settings) : Prop where
  board : ∀ board ∈ s.board, board.WellTyped
  sensor : ∀ sensor ∈ s.sensor, sensor.WellTyped

theorem Board.eq_of_registered {name : String} {board : Board} (hmem : (name, board) ∈ registry) :
    board = nano33ble ∨ board = nano33bleRev2 := by
  simp only [registry, List.mem_cons, Prod.mk.injEq, List.not_mem_nil, or_false] at hmem
  rcases hmem with ⟨_, h⟩ | ⟨_, h⟩
  · exact .inl h
  · exact .inr h

theorem Board.wellTyped_of_registered {name : String} {board : Board}
    (hmem : (name, board) ∈ registry) : board.WellTyped := by
  intro entry hentry
  rcases eq_of_registered hmem with rfl | rfl
  all_goals
    simp only [nano33ble, nano33bleRev2, nanoCapabilities, colorLibrary, List.mem_cons,
      List.not_mem_nil, or_false] at hentry
    rcases hentry with rfl | rfl
    · exact ⟨_, _, rfl⟩
    · exact ⟨_, _, rfl⟩

theorem Sensor.wellTyped_imu : imu.WellTyped :=
  ⟨⟨_, rfl⟩, ⟨_, rfl⟩, ⟨_, rfl⟩, ⟨_, rfl⟩⟩

theorem Sensor.wellTyped_color : color.WellTyped :=
  ⟨⟨_, rfl⟩, ⟨_, rfl⟩, ⟨_, rfl⟩, ⟨_, rfl⟩⟩

theorem Sensor.eq_of_registered {name : String} {sensor : Sensor}
    (hmem : (name, sensor) ∈ registry) : sensor = color ∨ sensor = imu := by
  simp only [registry, List.mem_cons, Prod.mk.injEq, List.not_mem_nil, or_false] at hmem
  rcases hmem with ⟨_, h⟩ | ⟨_, h⟩
  · exact .inl h
  · exact .inr h

theorem Sensor.wellTyped_of_registered {name : String} {sensor : Sensor}
    (hmem : (name, sensor) ∈ registry) : sensor.WellTyped := by
  rcases eq_of_registered hmem with rfl | rfl
  · exact wellTyped_color
  · exact wellTyped_imu

namespace Settings

variable {s : Settings}

/-- A board that is not given itself is a registered one. -/
theorem registered_chosenBoard {board : Board} (hgiven : s.board = none)
    (hchosen : s.chosenBoard = .ok board) : ∃ name, (name, board) ∈ Board.registry := by
  simp only [chosenBoard, hgiven, Board.ofDocument, bind_eq_ok] at hchosen
  obtain ⟨name, _, hfound⟩ := hchosen
  split at hfound
  · next found hlookup =>
    cases hfound
    exact ⟨name, mem_of_lookup?_eq_some hlookup⟩
  · cases hfound

theorem wellTyped_chosenBoard (htyped : s.WellTyped) {board : Board}
    (hchosen : s.chosenBoard = .ok board) : board.WellTyped := by
  cases hgiven : s.board with
  | some given =>
    simp only [chosenBoard, hgiven] at hchosen
    split at hchosen
    · cases hchosen
      exact htyped.board board hgiven
    · cases hchosen
  | none =>
    obtain ⟨name, hmem⟩ := registered_chosenBoard hgiven hchosen
    exact Board.wellTyped_of_registered hmem

/-- A sensor that is not given itself is a registered one. -/
theorem registered_chosenSensor {sensor : Sensor} (hgiven : s.sensor = none)
    (hchosen : s.chosenSensor = .ok sensor) : ∃ name, (name, sensor) ∈ Sensor.registry := by
  simp only [chosenSensor, hgiven, Sensor.ofDocument, bind_eq_ok] at hchosen
  obtain ⟨name, _, hfound⟩ := hchosen
  split at hfound
  · next found hlookup =>
    cases hfound
    exact ⟨name, mem_of_lookup?_eq_some hlookup⟩
  · cases hfound

theorem wellTyped_chosenSensor (htyped : s.WellTyped) {sensor : Sensor}
    (hchosen : s.chosenSensor = .ok sensor) : sensor.WellTyped := by
  cases hgiven : s.sensor with
  | some given =>
    simp only [chosenSensor, hgiven] at hchosen
    split at hchosen
    · cases hchosen
      exact htyped.sensor sensor hgiven
    · cases hchosen
  | none =>
    obtain ⟨name, hmem⟩ := registered_chosenSensor hgiven hchosen
    exact Sensor.wellTyped_of_registered hmem

end Settings

/-! ### Projects that have been made -/

namespace Project

/-- What a project draws on is there: its board drives its sensor, and both are well-typed. -/
structure WellTyped (p : Project) : Prop where
  board : p.board.WellTyped
  sensor : p.sensor.WellTyped
  supported : p.board.supports p.sensor.familyKey = .ok true

/-- What is known of a project once its settings have been accepted. -/
structure MadeOf (p : Project) (network : Network) (metadata : Metadata) (s : Settings) :
    Prop where
  network : p.network = network
  metadata : p.metadata = metadata
  board : s.chosenBoard = .ok p.board
  sensor : s.chosenSensor = .ok p.sensor
  supported : p.board.supports p.sensor.familyKey = .ok true
  transport : p.transport = s.transport.getD (.forVariant p.metadata.variant)
  snapshotDirectory : p.snapshotDirectory = Text.strip s.snapshotDirectory

theorem madeOf_of_create {network : Network} {metadata : Metadata} {s : Settings} {p : Project}
    (hcreate : create network metadata s = .ok p) : p.MadeOf network metadata s := by
  simp only [create, throw_bind, bind_eq_ok, refuse_eq_ok, pure_eq_ok, Bool.not_eq_true',
    Bool.not_eq_false] at hcreate
  obtain ⟨board, hboard, _, _, sensor, hsensor, supported, hsupported, htrue, hcreate⟩ := hcreate
  obtain ⟨_, _, _, _, _, _, _, _, _, _, _, _, rfl⟩ := hcreate
  exact ⟨rfl, rfl, hboard, hsensor, htrue ▸ hsupported, rfl, rfl⟩

theorem MadeOf.wellTyped {network : Network} {metadata : Metadata} {s : Settings} {p : Project}
    (hmade : p.MadeOf network metadata s) (htyped : s.WellTyped) : p.WellTyped :=
  ⟨s.wellTyped_chosenBoard htyped hmade.board, s.wellTyped_chosenSensor htyped hmade.sensor,
    hmade.supported⟩

end Project

/-! ### Pins of a board -/

/-- From a whole number on the pins are whole numbers, one after the other. -/
theorem outputPins_of_wholeNumber {d : Document} {first : Int} (hfirst : d.wholeNumber = .ok first)
    (n : Nat) :
    outputPins (.integer n) d = .ok ((List.range n).map fun i : Nat => .integer (first + i)) := by
  have hcount : (Document.integer n).wholeNumber = .ok (n : Int) := rfl
  have hnegative : (Document.integer n).isNegative = .ok false := by
    rw [Document.isNegative, Document.isBelow_integer, decide_eq_false (by omega)]
  have hpins : (List.range n).mapM (fun (i : Nat) => do
      return (← (← d.quantity).add (.whole i)).toDocument : Nat → Except Fault Document) =
        .ok ((List.range n).map fun i : Nat => .integer (first + i)) := by
    refine mapM_eq_pure_map fun i _ => ?_
    rw [Document.quantity_of_wholeNumber hfirst]
    rfl
  rw [outputPins, hnegative, hcount]
  exact hpins

/-- The pins that are granted are those from the first one on, and no more than the board has. -/
theorem Board.pwmPins_eq_ok {board : Board} {first offered : Int} {n : Nat} {pins : List Document}
    (hfirst : board.capabilities.firstPwmPin.wholeNumber = .ok first)
    (hoffered : board.capabilities.pwmPinCount.wholeNumber = .ok offered)
    (hpins : board.pwmPins (.integer n) = .ok pins) :
    n ≤ offered ∧ pins = (List.range n).map fun i : Nat => .integer (first + i) := by
  have hbelow := Document.isBelow_of_wholeNumber hoffered (b := .integer n) rfl
  simp only [pwmPins, hbelow, outputPins_of_wholeNumber hfirst, bind_eq_ok, Except.ok.injEq] at hpins
  obtain ⟨_, rfl, hpins⟩ := hpins
  rw [throw_bind, refuse_eq_ok, decide_eq_true_iff, not_lt, Except.ok.injEq] at hpins
  exact ⟨hpins.1, hpins.2.symm⟩

end DenseSketch

/-!
## Files of accepted projects

Once every check has passed, nothing that the files of a well-typed project draw on is refused.
Only the flash tables may still be: for a value that is not finite.
-/

namespace DenseSketch.Project

/-! ### The checks -/

theorem check_eq_ok {p : Project} :
    p.check = .ok () ↔
      p.network.checkChain = .ok () ∧
      Message.checkLabels p.metadata.variant p.metadata.labels = .ok () ∧
      p.checkCounts = .ok () ∧ p.checkPins = .ok () ∧ p.checkCapacity = .ok () := by
  simp [check]

theorem checkCounts_eq_ok {p : Project} :
    p.checkCounts = .ok () ↔
      p.metadata.outputCount = p.network.outputs ∧ p.metadata.window = p.network.inputs ∧
      ∃ frameSize, p.sensor.frameSize = .ok frameSize ∧ frameSize ≠ 0 ∧
        p.metadata.window % frameSize = 0 := by
  simp [checkCounts]

variable {p : Project}

/-! ### The plan, the pins and the tables -/

theorem plan_of_check (hcheck : p.check = .ok ()) :
    p.plan = .ok ⟨(p.network.denseSteps p.metadata.variant p.flashReader).map .dense ++
      Plan.ending p.metadata.variant p.network.last, p.network.hiddenDefines⟩ :=
  Plan.ofNetwork_eq p.network p.metadata.variant p.flashReader (check_eq_ok.1 hcheck).1

/-- The pins have been asked for by the checks. -/
theorem pins_of_check (hcheck : p.check = .ok ()) : ∃ pins, p.pins = .ok pins := by
  obtain ⟨_, _, _, hpins, _⟩ := check_eq_ok.1 hcheck
  unfold checkPins at hpins
  unfold pins
  cases hvariant : p.metadata.variant with
  | classification => exact ⟨[], rfl⟩
  | regression =>
    simp only [hvariant] at hpins
    split at hpins
    · next found hfound => exact ⟨found, hfound⟩
    · cases hpins
    · cases hpins

theorem valuesPerLine_pos (variant : Variant) : (0 : Int) < Table.valuesPerLine variant := by
  cases variant <;> decide

theorem needsFinite_tables (p : Project) :
    NeedsFinite (p.network.layers.flatMap Layer.parameters) p.tables :=
  Table.needsFinite_networkLines rfl (valuesPerLine_pos p.metadata.variant) _ _

/-! ### The files -/

theorem WellTyped.sensorLibrary (htyped : p.WellTyped) : ∃ header library,
    p.board.sensorLibrary p.sensor.familyKey = .ok [.text header, .text library] := by
  have hsupported := htyped.supported
  unfold Board.supports at hsupported
  unfold Board.sensorLibrary
  cases hfamily : p.sensor.familyKey with
  | unusable => simp [hfamily] at hsupported
  | unnamed shown => simp [hfamily] at hsupported
  | named family =>
    simp only [hfamily, Except.ok.injEq, Option.isSome_iff_exists] at hsupported
    obtain ⟨libraries, hlookup⟩ := hsupported
    obtain ⟨header, library, hboth⟩ := htyped.board _ (mem_of_lookup?_eq_some hlookup)
    refine ⟨header, library, ?_⟩
    simpa [hlookup] using hboth

/-- The frame of a sensor is not empty, so the frames of a window can be counted. -/
theorem framesIn_of_check (hcheck : p.check = .ok ()) :
    ∃ size windowFrames, p.sensor.frameSize = .ok size ∧
      p.sensor.framesIn (.integer p.metadata.window) = .ok windowFrames := by
  obtain ⟨_, _, hcounts, _⟩ := check_eq_ok.1 hcheck
  obtain ⟨_, _, size, hsize, hpos, _⟩ := checkCounts_eq_ok.1 hcounts
  refine ⟨size, (Quantity.whole ((p.metadata.window : Int).fdiv size)).toDocument, hsize, ?_⟩
  simp [Sensor.framesIn, hsize, Document.quantity, Document.quantity?, Quantity.floorQuotient, hpos]

theorem surroundings_of_check (htyped : p.WellTyped) (hcheck : p.check = .ok ()) :
    ∃ s, p.surroundings = .ok s := by
  obtain ⟨name, hname⟩ := htyped.sensor.name
  obtain ⟨header, library, hlibrary⟩ := htyped.sensorLibrary
  obtain ⟨size, windowFrames, hsize, hframes⟩ := framesIn_of_check hcheck
  simp [surroundings, title, hname, hlibrary, hframes, hsize]

theorem frameReading_of_wellTyped (htyped : p.WellTyped) :
    ∃ reading, p.frameReading = .ok reading := by
  obtain ⟨channels, hchannels⟩ := htyped.sensor.channels
  obtain ⟨statements, hstatements⟩ := htyped.sensor.readStatements
  obtain ⟨expressions, hexpressions⟩ := htyped.sensor.channelExpressions
  simp [frameReading, hchannels, hstatements, hexpressions]

theorem sketch_of_check (htyped : p.WellTyped) (hcheck : p.check = .ok ()) (d : Draft) :
    ∃ text, p.sketch d = .ok text := by
  obtain ⟨s, hs⟩ := surroundings_of_check htyped hcheck
  obtain ⟨reading, hreading⟩ := frameReading_of_wellTyped htyped
  unfold sketch sketchCode
  cases p.metadata.variant with
  | classification => exact ⟨_, by rw [hs, hreading]; rfl⟩
  | regression => exact ⟨_, by rw [hs, hreading]; rfl⟩

theorem header_of_check (htyped : p.WellTyped) (hcheck : p.check = .ok ()) (d : Draft)
    (tables : String) : p.header d tables = .ok (Header.text p d tables) := by
  obtain ⟨s, hs⟩ := surroundings_of_check htyped hcheck
  rw [header, hs]
  rfl

/-- There is an output, so there is a message to show. -/
theorem exampleMessage_of_check (hcheck : p.check = .ok ()) :
    ∃ message, Message.exampleMessage p.metadata = .ok message := by
  obtain ⟨_, hlabels, _⟩ := check_eq_ok.1 hcheck
  obtain ⟨hnonempty, _⟩ := Message.checkLabels_eq_ok.1 hlabels
  obtain ⟨label, rest, hlist⟩ := List.exists_cons_of_ne_nil hnonempty
  unfold Message.exampleMessage
  cases p.metadata.variant with
  | classification => exact ⟨_, by rw [hlist]⟩
  | regression =>
    have hvalues : (List.replicate p.metadata.outputCount (Datum.finite false 1 (-1))).isEmpty =
        false := by
      simp [Metadata.outputCount, hlist]
    exact ⟨_, by simp only [Message.frameRegression, hvalues]; rfl⟩

theorem readme_of_check (htyped : p.WellTyped) (hcheck : p.check = .ok ()) (d : Draft) :
    ∃ text, p.readme d = .ok text := by
  obtain ⟨s, hs⟩ := surroundings_of_check htyped hcheck
  obtain ⟨message, hmessage⟩ := exampleMessage_of_check hcheck
  obtain ⟨header, library, hlibrary⟩ := htyped.sensorLibrary
  obtain ⟨channels, hchannels⟩ := htyped.sensor.channels
  simp [readme, Board.requiredLibraries, hlibrary, hmessage, hs, hchannels]

end DenseSketch.Project
