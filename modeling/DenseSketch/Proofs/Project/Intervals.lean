import DenseSketch.Proofs.Number.Nearest
import DenseSketch.Proofs.Project.Rendering
import DenseSketch.Proofs.Sample

/-!
# The intervals in the files

A project is made with two intervals, which may be any numbers above zero.  What is shown in its
sketch and in its description are the whole numbers that are left when their fractions are cut off.
So an interval of less than one is accepted, and shown as zero.
-/

namespace DenseSketch

open Text

/-! ### Accepted intervals -/

namespace Document

/-- The plain value is a number, and this is its exact value. -/
def Denotes (d : Document) (x : ℚ) : Prop :=
  ∃ q, d.quantity? = some q ∧ q.exact.isFinite ∧ q.exact.toRat = x

/-- A number above zero that can be cut off to a whole number is cut off to its floor. -/
theorem exists_denotes_of_toInt {d : Document} {n : Int} (hpositive : d.isNotPositive = .ok false)
    (hwhole : d.toInt = .ok n) : ∃ x, d.Denotes x ∧ 0 < x ∧ n = ⌊x⌋ := by
  have hinteger : ∀ k, d.wholeNumber = .ok k → d.toInt = .ok k →
      ∃ x, d.Denotes x ∧ 0 < x ∧ n = ⌊x⌋ := by
    intro k hk hcut
    rw [isNotPositive_of_wholeNumber hk, Except.ok.injEq, decide_eq_false_iff_not, not_le]
      at hpositive
    rw [hcut, Except.ok.injEq] at hwhole
    refine ⟨k, ⟨_, quantity?_of_wholeNumber hk, Datum.isFinite_ofInt k, Datum.toRat_ofInt k⟩,
      Int.cast_pos.2 hpositive, ?_⟩
    rw [← hwhole, Int.floor_intCast]
  cases d with
  | integer k => exact hinteger k rfl rfl
  | truth b => exact hinteger _ rfl rfl
  | real x =>
    cases x with
    | nan => cases hwhole
    | infinite negative => cases hwhole
    | finite negative m e =>
      have hle : Datum.le (.finite negative m e) .zero = false := by
        simpa [isNotPositive, quantity, quantity?, Quantity.exact] using hpositive
      have hvalue : 0 < Datum.toRat (.finite negative m e) := by
        rw [← not_le, ← Datum.toRat_zero, ← Datum.le_iff rfl rfl, hle]
        exact Bool.false_ne_true
      cases Datum.sign_eq_false hvalue
      refine ⟨_, ⟨_, rfl, rfl, rfl⟩, hvalue, ?_⟩
      simp only [toInt, Datum.truncate?_eq_floor, Except.ok.injEq] at hwhole
      simp [← hwhole, Quantity.exact, Datum.toRat]
  | _ => cases hpositive

end Document

/-! ### Intervals in the files -/

namespace Project

open Code

variable {network : Network} {metadata : Metadata} {s : Settings} {p : Project} {artifact : Artifact}
  {bench : Workbench}

/-- An interval that is not positive is refused, and any other one is cut off. -/
theorem intervals_of_create (hcreate : create network metadata s = .ok p) :
    (s.sampleInterval.isNotPositive = .ok false ∧
      s.sampleInterval.toInt = .ok p.sampleInterval) ∧
    (s.predictionInterval.isNotPositive = .ok false ∧
      s.predictionInterval.toInt = .ok p.predictionInterval) := by
  simp only [create, throw_bind, bind_eq_ok, refuse_eq_ok, pure_eq_ok, Bool.not_eq_true]
    at hcreate
  obtain ⟨_, _, _, _, _, _, _, _, _, sample, hsample, rfl, prediction, hprediction, rfl, m, hm, n,
    hn, _, _, rfl⟩ := hcreate
  exact ⟨⟨hsample, hm⟩, hprediction, hn⟩

/-- The lines of the sketch and of the description show an interval between two frames and one
    between two predictions: the sketch declares each one once. -/
structure ShowsIntervals (p : Project) (sketch readme : List String) (m n : Int) : Prop where
  sample : (initializers "unsigned long SAMPLE_INTERVAL" sketch).map readInteger = [some m]
  prediction : (initializers "unsigned long PREDICTION_INTERVAL" sketch).map readInteger = [some n]
  summary : ∃ (front back : List String) (frames : String), readme = front ++
    [s!"It samples the {Sensor.shownField p.sensor.displayName} every {m} ms, " ++
        "keeps the most",
      s!"recent {frames} frames in a sliding window and runs a prediction every",
      s!"{n} ms once the window has been filled."] ++ back

theorem initializers_interval {code : Code} {d : Draft} (hcode : p.sketchCode d = .ok code) :
    initializers "unsigned long SAMPLE_INTERVAL" code.lines = [(toString p.sampleInterval).toList] ∧
    initializers "unsigned long PREDICTION_INTERVAL" code.lines =
      [(toString p.predictionInterval).toList] := by
  obtain ⟨frameSize, hconstants⟩ := Sketch.constants_sketchCode hcode
  have hdigits := not_mem_toString (c := ';') (by decide) (by decide)
  have hsample : initializer? "unsigned long SAMPLE_INTERVAL"
      s!"const unsigned long SAMPLE_INTERVAL = {p.sampleInterval}; // ms" =
        some (toString p.sampleInterval).toList :=
    initializer?_eq_some (hdigits _) " // ms".toList (by simp [constantMark])
  have hprediction : initializer? "unsigned long PREDICTION_INTERVAL"
      s!"const unsigned long PREDICTION_INTERVAL = {p.predictionInterval}; // ms" =
        some (toString p.predictionInterval).toList :=
    initializer?_eq_some (hdigits _) " // ms".toList (by simp [constantMark])
  rw [← initializers_constants, ← initializers_constants "unsigned long PREDICTION_INTERVAL",
    hconstants, Sketch.sketchConstants, Sketch.transportConstants, Sketch.samplingConstants]
  simp only [initializers, List.filterMap_append, List.filterMap_cons, List.filterMap_nil, hsample,
    hprediction]
  cases hvariant : p.metadata.variant with
  | classification => simp [initializer?, constantMark, List.dropPrefix?]
  | regression => simp [initializer?, constantMark, List.dropPrefix?, Sketch.pinConstants]

/-- What is rendered shows the intervals of the project. -/
theorem showsIntervals (r : Rendering p) :
    p.ShowsIntervals r.sketch r.readme p.sampleInterval p.predictionInterval := by
  obtain ⟨hsample, hprediction⟩ := initializers_interval r.code_eq
  constructor
  case sample => rw [Rendering.sketch, hsample, List.map_singleton, readInteger_toString]
  case prediction => rw [Rendering.sketch, hprediction, List.map_singleton, readInteger_toString]
  case summary =>
    let frames := r.surroundings.windowFrames.shown
    obtain ⟨front, hfront⟩ : ∃ front, Readme.summary p r.surroundings = front ++
        [s!"It samples the {Sensor.shownField p.sensor.displayName} every {p.sampleInterval} ms, " ++
            "keeps the most",
          s!"recent {frames} frames in a sliding window and runs a prediction every",
          s!"{p.predictionInterval} ms once the window has been filled.", ""] :=
      ⟨_, by rw [Readme.summary, List.append_cons]⟩
    rw [Rendering.readme, Readme.lines, hfront]
    simp only [List.append_assoc]
    exact ⟨front, _, _, rfl⟩

/-- A sketch shows no other interval between two frames. -/
theorem ShowsIntervals.eq_sampleInterval {r : Rendering p} {m n : Int}
    (h : p.ShowsIntervals r.sketch r.readme m n) : m = p.sampleInterval := by
  have hshown := h.sample
  rw [Rendering.sketch, (initializers_interval r.code_eq).1, List.map_singleton,
    readInteger_toString] at hshown
  simpa using hshown.symm

/-- **Intervals are cut off.**  Whatever intervals a project has been made with, they are numbers
    above zero, and what is compiled shows their floors.  So what is shown is at least one exactly
    if both intervals are. -/
theorem intervals_cut_off (hcreate : create network metadata s = .ok p)
    (hcompiled : (Job.runOn p.generateAll bench).1 = .ok artifact) :
    ∃ x y, s.sampleInterval.Denotes x ∧ s.predictionInterval.Denotes y ∧ 0 < x ∧ 0 < y ∧
      ((1 ≤ ⌊x⌋ ∧ 1 ≤ ⌊y⌋) ↔ (1 ≤ x ∧ 1 ≤ y)) ∧
      ∃ r : Rendering p, r.Makes artifact ∧ p.ShowsIntervals r.sketch r.readme ⌊x⌋ ⌊y⌋ := by
  obtain ⟨⟨hsample, hsampleInt⟩, hprediction, hpredictionInt⟩ := intervals_of_create hcreate
  obtain ⟨x, hx, hxPos, hxFloor⟩ := Document.exists_denotes_of_toInt hsample hsampleInt
  obtain ⟨y, hy, hyPos, hyFloor⟩ := Document.exists_denotes_of_toInt hprediction hpredictionInt
  obtain ⟨r, hmakes⟩ := exists_rendering hcompiled
  refine ⟨x, y, hx, hy, hxPos, hyPos, ?_, r, hmakes, ?_⟩
  · rw [Int.le_floor, Int.le_floor, Int.cast_one]
  · rw [← hxFloor, ← hyFloor]
    exact showsIntervals r

/-- The sample with fractions in its intervals, which are cut off. -/
theorem intervals_cut_off_fractions :
    let s : Settings := { sensorName := .text "color"
                          sampleInterval := .real (.finite false 41 (-1))
                          predictionInterval := .real (.finite false 403 (-2)) }
    create .sample .sample s = .ok sample ∧
    ∃ artifact, (Job.runOn sample.generateAll {}).1 = .ok artifact ∧
      ∃ x y, s.sampleInterval.Denotes x ∧ s.predictionInterval.Denotes y ∧ 0 < x ∧ 0 < y ∧
        ((1 ≤ ⌊x⌋ ∧ 1 ≤ ⌊y⌋) ↔ (1 ≤ x ∧ 1 ≤ y)) ∧
        ∃ r : Rendering sample, r.Makes artifact ∧
          sample.ShowsIntervals r.sketch r.readme ⌊x⌋ ⌊y⌋ := by
  intro s
  have hcreate : create .sample .sample s = .ok sample := rfl
  have htyped : sample.WellTyped :=
    ⟨Board.wellTyped_of_registered (.head _), Sensor.wellTyped_color, rfl⟩
  obtain ⟨artifact, hcompiled⟩ := exists_artifact_of_check htyped (by rfl) (by decide) rfl {}
  exact ⟨hcreate, artifact, hcompiled, intervals_cut_off hcreate hcompiled⟩

/-- The sample with half a millisecond between two frames. -/
def halfInterval : Project := { sample with sampleInterval := 0 }

/-- Half a millisecond is accepted, and no whole number above zero is shown for it. -/
theorem interval_zero_half :
    create .sample .sample
        { sensorName := .text "color", sampleInterval := .real (.finite false 1 (-1)) } =
      .ok halfInterval ∧
    ∃ artifact, (Job.runOn halfInterval.generateAll {}).1 = .ok artifact ∧
      ∃ r : Rendering halfInterval, r.Makes artifact ∧
        halfInterval.ShowsIntervals r.sketch r.readme 0 100 ∧
        ∀ m n, halfInterval.ShowsIntervals r.sketch r.readme m n → ¬ 1 ≤ m := by
  have htyped : halfInterval.WellTyped :=
    ⟨Board.wellTyped_of_registered (.head _), Sensor.wellTyped_color, rfl⟩
  obtain ⟨artifact, hcompiled⟩ := exists_artifact_of_check htyped (by rfl) (by decide) rfl {}
  obtain ⟨r, hmakes⟩ := exists_rendering hcompiled
  refine ⟨rfl, artifact, hcompiled, r, hmakes, showsIntervals r, ?_⟩
  intro m n hshown
  rw [hshown.eq_sampleInterval]
  decide

end Project

end DenseSketch
