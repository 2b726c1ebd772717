import DenseSketch.Proofs.Inference.Stream
import DenseSketch.Proofs.Tensor.Nested

/-!
# Frames of the wrong size

A window takes frames of one size only, so a stream comes to its end only if every frame has this
size after its normalization.  For motion it then had this size before.  The normalization of colours
writes five values, whatever stands behind the fifth one of the raw frame: a colour frame with too
many values passes as if it ended there.
-/

namespace DenseSketch

/-! ### What a stream has taken -/

namespace Window

variable {α : Type} {w next : Window α}

theorem length_of_push_eq_ok {values : List α} (hpush : w.push values = .ok next) :
    values.length = w.frameSize ∧ next.frameSize = w.frameSize := by
  unfold push at hpush
  split at hpush
  · cases hpush
  · next hlength =>
    obtain ⟨slid, -, hnext⟩ := bind_eq_ok.1 hpush
    rw [← pure_eq_ok.1 hnext]
    exact ⟨not_not.1 hlength, rfl⟩

theorem frameSize_of_filledWith_eq_ok {value : α} {size : Int} {frameSize : Nat}
    (hcreate : filledWith value size frameSize = .ok w) : w.frameSize = frameSize := by
  unfold filledWith create at hcreate
  split at hcreate
  · split at hcreate
    · cases hcreate
      exact Int.toNat_natCast frameSize
    · cases hcreate
  · cases hcreate

end Window

section Streams

variable {net : Network} {m : Metadata} {sensor : Sensor} {every : Document} {size count : Nat}
  {w : Window Datum} {frames others : List Document} {frame : Document}
  {results : List Prediction}

theorem reads_of_predictFrom_eq_ok
    (hresults : predictFrom net m sensor every w count frames = .ok results) :
    ∀ frame ∈ frames, ∃ values, sensor.Reads w.frameSize frame values := by
  induction frames generalizing w count results with
  | nil => exact List.forall_mem_nil _
  | cons frame frames ih =>
    rw [predictFrom_cons] at hresults
    obtain ⟨values, hreading, hresults⟩ := bind_eq_ok.1 hresults
    obtain ⟨next, hpush, hresults⟩ := bind_eq_ok.1 hresults
    obtain ⟨due, -, hrest⟩ := bind_eq_ok.1 hresults
    have hmore : ∃ more, predictFrom net m sensor every next (count + 1) frames = .ok more := by
      cases due with
      | false => exact ⟨results, hrest⟩
      | true =>
        obtain ⟨p, -, hrest⟩ := bind_eq_ok.1 hrest
        obtain ⟨more, hmore, -⟩ := bind_eq_ok.1 hrest
        exact ⟨more, hmore⟩
    obtain ⟨more, hmore⟩ := hmore
    obtain ⟨hlength, hframeSize⟩ := Window.length_of_push_eq_ok hpush
    rw [List.forall_mem_cons, ← hframeSize]
    exact ⟨⟨values, hreading, hlength.trans hframeSize.symm⟩, ih hmore⟩

/-- A stream that comes to its end has read a whole frame each time. -/
theorem reads_of_predictStream_eq_ok (hsize : sensor.frameSize = .ok size)
    (hresults : predictStream net m sensor every frames = .ok results) :
    ∀ frame ∈ frames, ∃ values, sensor.Reads size frame values := by
  rw [predictStream, hsize] at hresults
  obtain ⟨_, ⟨⟩, hresults⟩ := bind_eq_ok.1 hresults
  obtain ⟨w, hcreate, hrun⟩ := bind_eq_ok.1 hresults
  rw [← Window.frameSize_of_filledWith_eq_ok hcreate]
  exact reads_of_predictFrom_eq_ok hrun

/-- Of the frames of the wrong size only colours that go on too long are read. -/
theorem Sensor.ReadsFrames.count_of_reads (hsensor : sensor.ReadsFrames size)
    (hflat : frame.IsFlat count) {values : List Datum} (hreads : sensor.Reads size frame values) :
    count = size ∨ sensor.normalization = .color ∧ size < count := by
  obtain ⟨hreading, hlength⟩ := hreads
  obtain ⟨t, ht, -⟩ := bind_eq_ok.1 hreading
  obtain ⟨xs, rfl, rfl⟩ := Tensor.exists_vector_of_ofDocument hflat ht
  rcases Nat.lt_or_ge xs.length sensor.normalization.needed with hshort | hneeded
  · obtain ⟨fault, hfault⟩ := Sensor.reading_of_vector_of_lt ht hshort
    cases hfault.symm.trans hreading
  · cases (Sensor.reading_of_vector ht hneeded).symm.trans hreading
    rw [Normalization.length_values hneeded] at hlength
    cases hnormalization : sensor.normalization with
    | motion =>
      rw [hnormalization] at hlength
      exact .inl hlength
    | color =>
      rw [hsensor.eq_five hnormalization]
      rw [hnormalization] at hneeded
      exact (Nat.eq_or_lt_of_le hneeded).imp Eq.symm fun hlong => ⟨rfl, hlong⟩

/-- A stream sees of its frames what the sensor makes of them. -/
theorem predictFrom_congr
    (hsame : List.Forall₂ (fun frame other => sensor.reading frame = sensor.reading other)
      frames others) :
    predictFrom net m sensor every w count frames = predictFrom net m sensor every w count others := by
  induction hsame generalizing w count with
  | nil => rfl
  | cons hframe _ ih => simp only [predictFrom_cons, hframe, ih]

theorem predictStream_congr
    (hsame : List.Forall₂ (fun frame other => sensor.reading frame = sensor.reading other)
      frames others) :
    predictStream net m sensor every frames = predictStream net m sensor every others := by
  simp only [predictStream, predictFrom_congr hsame]

end Streams

/-! ### Colours that go on too long -/

/-- The second frame has the first `size` values of the first one, which has at least as many. -/
def IsCut (size : Nat) (frame cut : Document) : Prop :=
  ∃ xs, Tensor.ofDocument frame = .ok (.vector xs) ∧ size ≤ xs.length ∧
    Tensor.ofDocument cut = .ok (.vector (xs.take size))

theorem IsCut.reading_eq {sensor : Sensor} {size : Nat} (hsensor : sensor.ReadsFrames size)
    (hcolor : sensor.normalization = .color) {frame cut : Document} (hcut : IsCut size frame cut) :
    sensor.reading frame = sensor.reading cut := by
  obtain ⟨xs, hframe, hlong, hcut⟩ := hcut
  obtain rfl := hsensor.eq_five hcolor
  have hneeded : sensor.normalization.needed ≤ xs.length := hsensor.takes.trans hlong
  have hneededCut : sensor.normalization.needed ≤ (xs.take 5).length := by
    rw [List.length_take_of_le hlong]
    exact hsensor.takes
  rw [Sensor.reading_of_vector hframe hneeded, Sensor.reading_of_vector hcut hneededCut, hcolor,
    Normalization.values_color_take]

/-- A frame of zeros. -/
def Document.zeros (count : Nat) : Document := .list (List.replicate count (.integer 0))

theorem Document.isFlat_zeros (count : Nat) : (zeros count).IsFlat count := by
  refine ⟨List.replicate count (.integer 0), rfl, List.length_replicate, fun item hitem => ?_⟩
  rw [List.eq_of_mem_replicate hitem]
  trivial

theorem ofDocument_zeros (count : Nat) :
    Tensor.ofDocument (.zeros count) = .ok (.vector (List.replicate count .zero)) := by
  have hzero : Tensor.leafData (.integer 0) = .ok .zero := rfl
  have hdata : (List.replicate count (Document.integer 0)).mapM Tensor.leafData =
      .ok (List.replicate count .zero) := by
    induction count with
    | zero => rfl
    | succ count ih =>
      rw [List.replicate_succ, List.mapM_cons, hzero, ih]
      rfl
  obtain ⟨_, ⟨⟩, -, hscalars⟩ := Document.isFlat_zeros count
  rw [Document.zeros, Tensor.ofDocument_list hscalars, hdata]
  rfl

theorem isCut_zeros {size count : Nat} (hlong : size ≤ count) :
    IsCut size (.zeros count) (.zeros size) := by
  refine ⟨List.replicate count .zero, ofDocument_zeros count, ?_, ?_⟩
  · rwa [List.length_replicate]
  · rw [List.take_replicate, Nat.min_eq_left hlong]
    exact ofDocument_zeros size

/-- With a window of two frames, a stream of one frame ends without a prediction, also if the frame
    goes on too long. -/
theorem predictStream_zeros {sensor : Sensor} {size count : Nat} (hsensor : sensor.ReadsFrames size)
    (hcolor : sensor.normalization = .color) (hlong : size ≤ count) :
    predictStream .twoFrames Project.twoFrames.metadata sensor (.integer 1) [.zeros count] =
      .ok [] := by
  have hsame : sensor.reading (.zeros count) = sensor.reading (.zeros size) :=
    (isCut_zeros hlong).reading_eq hsensor hcolor
  have hread := hsensor.reads ⟨ofDocument_zeros size, List.length_replicate⟩
  have hmetadata : Project.twoFrames.metadata.window = 2 * size := by
    rw [hsensor.eq_five hcolor]
    rfl
  have hevery : (Document.integer 1).wholeNumber = .ok ((1 : Nat) : Int) := rfl
  rw [predictStream_congr (.cons hsame .nil)]
  exact predictStream_eq_mapM .twoFrames Project.twoFrames.metadata hsensor.frameSize hmetadata
    hevery Nat.one_pos (.cons hread .nil)

/-- **Frames of the wrong size.**  For a registered sensor and a wrong number of values, every stream
    with a flat frame of that many values is refused, whatever the other frames are, if and only if
    it is not a frame of colours with too many values.  Of such a frame each stream makes what it
    makes of the frame without them. -/
theorem predictStream_refuses_iff {name : String} {sensor : Sensor} {size : Nat}
    (hsensor : (name, sensor) ∈ Sensor.registry) (hsize : sensor.frameSize = .ok size) :
    (∀ count, count ≠ size →
      ((∀ net m every frames, size ∣ m.window → (∃ frame ∈ frames, frame.IsFlat count) →
          ∃ fault, predictStream net m sensor every frames = .error fault) ↔
        ¬ (sensor.normalization = .color ∧ size < count))) ∧
    (sensor.normalization = .color → ∀ net m every frames cut,
      List.Forall₂ (IsCut size) frames cut →
      predictStream net m sensor every frames = predictStream net m sensor every cut) := by
  have hreads : sensor.ReadsFrames size := Sensor.readsFrames_of_mem_registry hsensor hsize
  refine ⟨fun count hcount => ⟨?_, ?_⟩, ?_⟩
  · rintro hrefused ⟨hcolor, hlong⟩
    have hdvd : size ∣ Project.twoFrames.metadata.window := by
      rw [hreads.eq_five hcolor]
      decide
    obtain ⟨fault, hfault⟩ := hrefused .twoFrames Project.twoFrames.metadata (.integer 1)
      [.zeros count] hdvd ⟨_, List.mem_singleton_self _, Document.isFlat_zeros count⟩
    cases hfault.symm.trans (predictStream_zeros hreads hcolor hlong.le)
  · intro htaken net m every frames _ ⟨frame, hframe, hflat⟩
    cases hresults : predictStream net m sensor every frames with
    | error fault => exact ⟨fault, rfl⟩
    | ok results =>
      obtain ⟨values, hvalues⟩ := reads_of_predictStream_eq_ok hsize hresults frame hframe
      exact absurd (hreads.count_of_reads hflat hvalues) (not_or_intro hcount htaken)
  · intro hcolor net m every frames cut hcut
    exact predictStream_congr (hcut.imp fun _ _ => IsCut.reading_eq hreads hcolor)

/-- For colours: four values are refused, and a sixth one goes unseen. -/
theorem predictStream_refuses_iff_color :
    (∀ net m every frames, 5 ∣ m.window → (∃ frame ∈ frames, frame.IsFlat 4) →
      ∃ fault, predictStream net m .color every frames = .error fault) ∧
    predictStream .twoFrames Project.twoFrames.metadata .color (.integer 1) [.longFrame] =
      predictStream .twoFrames Project.twoFrames.metadata .color (.integer 1) [.sampleFrame] := by
  have hsensor : ("color", Sensor.color) ∈ Sensor.registry := .head _
  have hsize : Sensor.color.frameSize = .ok 5 := rfl
  obtain ⟨hrefused, hcut⟩ := predictStream_refuses_iff hsensor hsize
  have hframe : IsCut 5 .longFrame .sampleFrame :=
    ⟨Datum.sampleFrame ++ [Normalization.whole 7], rfl, by decide, rfl⟩
  refine ⟨(hrefused 4 (by decide)).2 ?_, hcut rfl _ _ _ _ _ (.cons hframe .nil)⟩
  rintro ⟨-, hlong⟩
  exact absurd hlong (by decide)

/-- A colour frame of six values stands in a stream that comes to its end with a prediction. -/
theorem predictStream_accepts_longFrame :
    ("color", Sensor.color) ∈ Sensor.registry ∧ Sensor.color.frameSize = .ok 5 ∧
      5 ∣ Project.twoFrames.metadata.window ∧ Document.longFrame.IsFlat 6 ∧
      ∃ p, predictStream .twoFrames Project.twoFrames.metadata .color (.integer 1)
        [.longFrame, .sampleFrame] = .ok [p] := by
  refine ⟨.head _, rfl, by decide, ⟨_, rfl, rfl, ?_⟩, _, rfl⟩
  simp [Document.IsScalar]

end DenseSketch
