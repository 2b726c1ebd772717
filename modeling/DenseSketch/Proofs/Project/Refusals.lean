import DenseSketch.Proofs.Project.Files

/-!
# Why projects are refused

Pins are refused because the board has too few of them, or because what it says of its pins is no
number or too large a one.  Of a project whose board and sensor are registered everything that is
counted is a whole number, so its settings and its checks refuse wrong values only.
-/

namespace DenseSketch

open RefusedFor

/-- The faults for which pins are refused. -/
def IsPinFault (fault : Fault) : Prop :=
  (∃ cause, fault = .board cause) ∨ fault = .wrongType ∨ fault = .overflow

theorem Document.refusedFor_quantity (d : Document) : RefusedFor IsPinFault d.quantity := by
  unfold quantity
  cases d.quantity? with
  | none => exact error (.inr (.inl rfl))
  | some q => exact ok q

theorem Quantity.refusedFor_toReal (q : Quantity) : RefusedFor IsPinFault q.toReal := by
  cases q with
  | real x => exact ok x
  | whole n =>
    rw [toReal, Document.realOfInt]
    split
    · exact ok _
    · exact error (.inr (.inr rfl))

theorem Quantity.refusedFor_add (a b : Quantity) : RefusedFor IsPinFault (a.add b) := by
  unfold add
  split
  · exact ok _
  · exact (refusedFor_toReal _).bind fun _ _ => (refusedFor_toReal _).bind fun _ _ => ok _

theorem Document.refusedFor_isBelow_integer (d : Document) (n : Int) :
    RefusedFor IsPinFault (d.isBelow (.integer n)) := by
  have hbelow : d.isBelow (.integer n) = do
      let x ← d.quantity
      let y ← (Document.integer n).quantity
      return Datum.lt x.exact y.exact := by
    cases d <;> rfl
  rw [hbelow]
  exact d.refusedFor_quantity.bind fun _ _ =>
    (refusedFor_quantity _).bind fun _ _ => ok _

theorem refusedFor_outputPins (n : Nat) (first : Document) :
    RefusedFor IsPinFault (outputPins (.integer n) first) := by
  refine (Document.refusedFor_isBelow_integer _ 0).bind fun isNegative _ => ?_
  refine .refuse (fun _ => .inl ⟨_, rfl⟩) ?_
  refine .bind (ok _) fun count _ => .mapM fun i _ => ?_
  exact first.refusedFor_quantity.bind fun q _ => (q.refusedFor_add _).bind fun _ _ => ok _

theorem Project.refusedFor_pins (p : Project) : RefusedFor IsPinFault p.pins := by
  unfold pins
  cases p.metadata.variant with
  | classification => exact ok []
  | regression =>
    refine (Document.refusedFor_isBelow_integer _ _).bind fun isBelow _ => ?_
    exact .refuse (fun _ => .inl ⟨_, rfl⟩) (refusedFor_outputPins _ _)

/-! ### Checks of what can be counted -/

/-- Whatever the checks count is a whole number, and no frame is empty. -/
structure Project.IsCountable (p : Project) : Prop where
  offered : ∃ n : Int, p.board.capabilities.pwmPinCount = .integer n
  firstPin : ∃ n : Int, p.board.capabilities.firstPwmPin = .integer n
  frameSize : ∃ n : Nat, p.sensor.frameSize = .ok (n + 1)
  capacity : ∃ n : Int, p.transport.txCapacity = .integer n

theorem refusesValues_outputPins (n : Nat) (first : Int) :
    RefusesValues (outputPins (.integer n) (.integer first)) := by
  rw [outputPins, Document.isNegative, Document.isBelow_integer]
  refine .bind (ok _) fun isNegative _ => .refuse (fun _ => rfl) ?_
  exact .bind (ok _) fun count _ => .mapM fun i _ => ok _

theorem Network.refusesValues_checkFrom (previous : Layer) (layers : List Layer) :
    RefusesValues (checkFrom previous layers) := by
  fun_induction checkFrom previous layers with
  | case1 => exact ok ()
  | case2 previous next rest _ ih => exact ih
  | case3 => exact error rfl

theorem Network.refusesValues_checkChain (net : Network) : RefusesValues net.checkChain := by
  unfold checkChain
  split
  · exact ok ()
  · exact refusesValues_checkFrom _ _

theorem Message.refusesValues_maxLength (m : Metadata) : RefusesValues (maxLength m) := by
  unfold maxLength
  split
  · split
    · exact error rfl
    · split
      · exact ok _
      · exact error rfl
  · exact ok _

namespace Project

variable {p : Project}

theorem IsCountable.refusesValues_checkCounts (hp : p.IsCountable) :
    RefusesValues p.checkCounts := by
  obtain ⟨n, hsize⟩ := hp.frameSize
  refine .refuse (fun _ => rfl) (.refuse (fun _ => rfl) ?_)
  rw [hsize]
  refine .bind (ok _) fun size hok => .refuse (fun hzero => ?_) ?_
  · cases hok
    cases hzero
  · split
    · exact error rfl
    · exact ok ()

theorem IsCountable.refusesValues_checkPins (hp : p.IsCountable) : RefusesValues p.checkPins := by
  obtain ⟨offered, hoffered⟩ := hp.offered
  obtain ⟨first, hfirst⟩ := hp.firstPin
  have hpins : RefusesValues (p.board.pwmPins (.integer p.metadata.outputCount)) := by
    rw [Board.pwmPins, hoffered, hfirst, Document.isBelow_integer]
    exact .bind (ok _) fun isBelow _ => .refuse (fun _ => rfl) (refusesValues_outputPins _ _)
  unfold checkPins
  split
  · exact ok ()
  · split
    · exact ok ()
    · exact error rfl
    · next fault _ hfault => exact error (hpins fault hfault)

theorem IsCountable.refusesValues_checkCapacity (hp : p.IsCountable) :
    RefusesValues p.checkCapacity := by
  obtain ⟨capacity, hcapacity⟩ := hp.capacity
  refine (Message.refusesValues_maxLength p.metadata).bind fun longest _ => ?_
  dsimp only
  rw [hcapacity, Document.isBelow_integer]
  refine .bind (ok _) fun isBelow _ => ?_
  split
  · split <;> exact error rfl
  · exact ok ()

theorem IsCountable.refusesValues_check (hp : p.IsCountable) : RefusesValues p.check :=
  p.network.refusesValues_checkChain.bind fun _ _ =>
    (Message.refusesValues_checkLabels _ _).bind fun _ _ =>
    hp.refusesValues_checkCounts.bind fun _ _ =>
    hp.refusesValues_checkPins.bind fun _ _ => hp.refusesValues_checkCapacity

end Project

/-! ### Settings that name things -/

/-- The board and the sensor are named, the channel is given, and the numbers are whole. -/
structure Settings.IsNamed (s : Settings) : Prop where
  board : s.board = none
  boardName : ∃ name, s.boardName = .text name
  sensor : s.sensor = none
  sensorName : ∃ name, s.sensorName = .text name
  transport : ∃ t capacity, s.transport = some t ∧ t.txCapacity = .integer capacity
  sampleInterval : ∃ n : Int, s.sampleInterval = .integer n
  predictionInterval : ∃ n : Int, s.predictionInterval = .integer n
  baudRate : ∃ n : Int, s.baudRate = .integer n

namespace Settings

variable {s : Settings}

theorem nameOr_text (default name : String) :
    ∃ chosen, nameOr default (.text name) = .text chosen := by
  unfold nameOr
  split
  · exact ⟨name, rfl⟩
  · exact ⟨default, rfl⟩

theorem IsNamed.refusesValues_chosenBoard (hs : s.IsNamed) : RefusesValues s.chosenBoard := by
  obtain ⟨name, hname⟩ := hs.boardName
  obtain ⟨chosen, hchosen⟩ := nameOr_text Board.defaultName name
  rw [chosenBoard, hs.board, hname]
  dsimp only
  rw [hchosen, Board.ofDocument]
  refine .bind (ok _) fun key _ => ?_
  split
  · exact ok _
  · exact error rfl

theorem IsNamed.refusesValues_chosenSensor (hs : s.IsNamed) : RefusesValues s.chosenSensor := by
  obtain ⟨name, hname⟩ := hs.sensorName
  obtain ⟨chosen, hchosen⟩ := nameOr_text Sensor.defaultName name
  rw [chosenSensor, hs.sensor, hname]
  dsimp only
  rw [hchosen, Sensor.ofDocument]
  refine .bind (ok _) fun key _ => ?_
  split
  · exact ok _
  · exact error rfl

end Settings

theorem Board.refusesValues_check (board : Board) : RefusesValues board.check := by
  unfold check
  split
  · exact ok ()
  · exact error rfl

theorem Document.refusesValues_isNotPositive (n : Int) :
    RefusesValues (Document.integer n).isNotPositive := by
  rw [isNotPositive_of_wholeNumber rfl]
  exact ok _

theorem Sensor.familyKey_of_registered {name : String} {sensor : Sensor}
    (hmem : (name, sensor) ∈ registry) : ∃ family, sensor.familyKey = .named family := by
  rcases eq_of_registered hmem with rfl | rfl
  · exact ⟨_, rfl⟩
  · exact ⟨_, rfl⟩

namespace Project

variable {s : Settings} {net : Network} {m : Metadata} {p : Project}

theorem refusesValues_create (hs : s.IsNamed) : RefusesValues (create net m s) := by
  obtain ⟨sampling, hsampling⟩ := hs.sampleInterval
  obtain ⟨predicting, hpredicting⟩ := hs.predictionInterval
  obtain ⟨baud, hbaud⟩ := hs.baudRate
  refine hs.refusesValues_chosenBoard.bind fun board _ =>
    board.refusesValues_check.bind fun _ _ =>
    hs.refusesValues_chosenSensor.bind fun sensor hsensor => ?_
  obtain ⟨_, hmem⟩ := Settings.registered_chosenSensor hs.sensor hsensor
  obtain ⟨family, hfamily⟩ := Sensor.familyKey_of_registered hmem
  rw [hfamily, hsampling, hpredicting, hbaud]
  refine .bind (ok _) fun _ _ => .refuse (fun _ => rfl) <|
    (Document.refusesValues_isNotPositive _).bind fun _ _ => .refuse (fun _ => rfl) <|
    (Document.refusesValues_isNotPositive _).bind fun _ _ => .refuse (fun _ => rfl) (ok _)

theorem isCountable_of_create (hs : s.IsNamed) (hcreate : create net m s = .ok p) :
    p.IsCountable := by
  have hmade := madeOf_of_create hcreate
  obtain ⟨_, hboard⟩ := Settings.registered_chosenBoard hs.board hmade.board
  obtain ⟨_, hsensor⟩ := Settings.registered_chosenSensor hs.sensor hmade.sensor
  obtain ⟨t, capacity, ht, hcapacity⟩ := hs.transport
  have htransport : p.transport = t := by rw [hmade.transport, ht, Option.getD_some]
  constructor
  case offered => rcases Board.eq_of_registered hboard with h | h <;> rw [h] <;> exact ⟨_, rfl⟩
  case firstPin => rcases Board.eq_of_registered hboard with h | h <;> rw [h] <;> exact ⟨_, rfl⟩
  case frameSize => rcases Sensor.eq_of_registered hsensor with h | h <;> rw [h] <;> exact ⟨_, rfl⟩
  case capacity => exact ⟨capacity, htransport ▸ hcapacity⟩

end Project

end DenseSketch
