import DenseSketch.Inference.Reference
import DenseSketch.Proofs.Document.Values
import DenseSketch.Proofs.Inference.GivenWindow
import DenseSketch.Proofs.List.Monadic
import DenseSketch.Proofs.Sample
import DenseSketch.Proofs.Sensor.Frames
import Mathlib.Algebra.BigOperators.Group.List.Basic

/-!
# Predictions over a stream

Frames run through a window, and once it is filled a prediction is made after every so many of them.
So the predictions of a stream are those of its windows, one for each count of frames that is large
enough and divisible.  The stream is that of the reference inference (SPEC_FULL, section 9.5).
-/

namespace DenseSketch

variable {α : Type}

/-! ### The counts that are due -/

/-- The counts among the first `count` after which a prediction is made. -/
def dueCounts (window every count : Nat) : List Nat :=
  (List.range' 1 count).filter fun c => window ≤ c ∧ every ∣ c

variable {window every count : Nat}

theorem mem_dueCounts (hwindow : 0 < window) {c : Nat} :
    c ∈ dueCounts window every count ↔ window ≤ c ∧ c ≤ count ∧ every ∣ c := by
  rw [dueCounts, List.mem_filter, List.mem_range'_1, decide_eq_true_iff]
  omega

theorem pairwise_lt_dueCounts : (dueCounts window every count).Pairwise (· < ·) :=
  List.Pairwise.filter _ (List.pairwise_lt_range' 1)

/-- No count that is due comes before the first one. -/
theorem exists_head?_dueCounts_le {c : Nat} (hc : c ∈ dueCounts window every count) :
    ∃ first ∈ (dueCounts window every count).head?, first ≤ c := by
  have hsorted : (dueCounts window every count).Pairwise (· < ·) := pairwise_lt_dueCounts
  cases hcounts : dueCounts window every count with
  | nil =>
    rw [hcounts] at hc
    exact absurd hc List.not_mem_nil
  | cons first rest =>
    rw [hcounts] at hc hsorted
    refine ⟨first, rfl, ?_⟩
    rcases List.mem_cons.1 hc with rfl | hrest
    · exact le_refl c
    · exact (List.rel_of_pairwise_cons hsorted hrest).le

theorem dueCounts_succ (window every count : Nat) :
    dueCounts window every (count + 1) =
      dueCounts window every count ++
        if window ≤ count + 1 ∧ every ∣ count + 1 then [count + 1] else [] := by
  rw [dueCounts, List.range'_1_concat, List.filter_append, Nat.add_comm 1 count]
  simp only [List.filter_singleton, Bool.cond_decide]
  rfl

/-- Of all multiples those below the window do not count. -/
theorem length_dueCounts (hwindow : 0 < window) (every count : Nat) :
    (dueCounts window every count).length =
      if window ≤ count then count / every - (window - 1) / every else 0 := by
  induction count with
  | zero =>
    rw [if_neg (Nat.not_le.2 hwindow)]
    rfl
  | succ count ih =>
    have hsteps : (if window ≤ count + 1 ∧ every ∣ count + 1 then [count + 1] else []).length =
        if window ≤ count + 1 then if every ∣ count + 1 then 1 else 0 else 0 := by
      rw [← ite_and]
      split <;> rfl
    rw [dueCounts_succ, List.length_append, ih, hsteps, Nat.succ_div]
    -- Behind the window each multiple adds one, at the window the difference starts at zero, and
    -- below it nothing is counted.
    rcases Nat.lt_trichotomy window (count + 1) with hlt | rfl | hgt
    · have hmono : (window - 1) / every ≤ count / every := Nat.div_le_div_right (by omega)
      rw [if_pos (Nat.le_of_lt_succ hlt), if_pos hlt.le, if_pos hlt.le, ← Nat.sub_add_comm hmono]
    · rw [if_neg (Nat.not_succ_le_self count), if_pos (le_refl _), if_pos (le_refl _),
        Nat.add_sub_cancel, Nat.add_sub_cancel_left, Nat.zero_add]
    · rw [if_neg (by omega), if_neg (Nat.not_le.2 hgt), if_neg (Nat.not_le.2 hgt)]

/-! ### The windows of a stream -/

/-- The values of the last `window` of the first `c` frames. -/
def windowAt (window : Nat) (frames : List (List α)) (c : Nat) : List α :=
  ((frames.take c).drop (c - window)).flatten

theorem windowAt_append {frames : List (List α)} {c : Nat} (hc : c ≤ frames.length)
    (more : List (List α)) : windowAt window (frames ++ more) c = windowAt window frames c := by
  rw [windowAt, List.take_append_of_le_length hc, windowAt]

/-- A window does not depend on what is older. -/
theorem windowAt_congr {frames others : List (List α)} {first c : Nat} (hfirst : first ≤ c - window)
    (hsame : others.drop first = frames.drop first) :
    windowAt window others c = windowAt window frames c := by
  obtain ⟨more, hmore⟩ := Nat.exists_eq_add_of_le hfirst
  have hdrop : others.drop (c - window) = frames.drop (c - window) := by
    rw [hmore, ← List.drop_drop, hsame, List.drop_drop]
  rw [windowAt, windowAt, List.drop_take, List.drop_take, hdrop]

/-- What comes before the first window that is due has no effect on any of them. -/
theorem windowAt_congr_of_mem {frames others : List (List α)} {step c : Nat}
    (hsame : ∀ first ∈ (dueCounts window step count).head?,
      others.drop (first - window) = frames.drop (first - window))
    (hc : c ∈ dueCounts window step count) :
    windowAt window others c = windowAt window frames c := by
  obtain ⟨first, hfirst, hle⟩ := exists_head?_dueCounts_le hc
  exact windowAt_congr (Nat.sub_le_sub_right hle window) (hsame first hfirst)

/-- The last frames of one size, as one list. -/
theorem rtake_flatten {frames : List (List α)} {size : Nat}
    (hlengths : ∀ frame ∈ frames, frame.length = size) :
    frames.flatten.rtake (window * size) = windowAt window frames frames.length := by
  have hfront : ((frames.map List.length).take (frames.length - window)).sum =
      frames.flatten.length - window * size := by
    rw [length_flatten_of_forall hlengths, List.map_congr_left hlengths, List.map_const',
      List.take_replicate, List.sum_replicate_nat, Nat.min_eq_left (Nat.sub_le ..), Nat.sub_mul]
  rw [List.rtake, ← hfront, List.drop_sum_flatten, windowAt, List.take_length]

namespace Window

variable {w : Window α} {size : Nat} {content : List α} {taken : List (List α)}

theorem Holds.isFilled (hholds : w.Holds (window * size) size content taken) (hsize : 0 < size) :
    w.isFilled = decide (window ≤ taken.length) := by
  rw [Window.isFilled, Window.capacity, hholds.size, hholds.frameSize, hholds.frames,
    Nat.mul_div_cancel _ hsize]

/-- A window full of one value has taken no frame. -/
theorem exists_filledWith (value : α) (hwindow : 0 < window) (hsize : 0 < size) :
    ∃ w, filledWith value ((window * size : Nat) : Int) (size : Int) = .ok w ∧
      w.Holds (window * size) size (List.replicate (window * size) value) [] := by
  have hfits : fits ((window * size : Nat) : Int) (size : Int) = true := by
    have hpos : 0 < window * size := Nat.mul_pos hwindow hsize
    have hmod : ((window * size : Nat) : Int) % size = 0 := by
      exact_mod_cast Nat.mul_mod_left window size
    simp only [fits, Bool.and_eq_true, decide_eq_true_eq, beq_iff_eq]
    omega
  refine ⟨⟨window * size, size, 0, List.replicate (window * size) value⟩, ?_, ?_⟩
  · rw [filledWith, create, if_pos hfits, if_pos List.length_replicate]
    rfl
  · constructor
    case values => simp [List.rtake]
    case frames => rfl
    case size => rfl
    case frameSize => rfl

/-- A filled window holds the values of its last frames. -/
theorem Holds.values_of_le (hholds : w.Holds (window * size) size content taken)
    (hlengths : ∀ frame ∈ taken, frame.length = size) (hfilled : window ≤ taken.length) :
    w.values = windowAt window taken taken.length := by
  have henough : window * size ≤ taken.flatten.length := by
    rw [length_flatten_of_forall hlengths]
    exact Nat.mul_le_mul_right size hfilled
  rw [hholds.values, rtake_append_of_length_le content henough, rtake_flatten hlengths]

end Window

/-! ### Steps -/

theorem isDue_eq {w : Window Datum} {every : Document} {step : Nat}
    (hevery : every.wholeNumber = .ok (step : Int)) (hstep : 0 < step) (count : Nat) :
    isDue w count every = .ok (w.isFilled && decide (step ∣ count)) := by
  have hstepNe : (step : Int) ≠ 0 := by omega
  have hmultiple : ((count : Int) % step == 0) = decide (step ∣ count) := by
    rw [Bool.eq_iff_iff, beq_iff_eq, decide_eq_true_iff, ← Int.natCast_dvd_natCast,
      Int.dvd_iff_emod_eq_zero]
  unfold isDue
  split
  · next hfilled =>
    rw [Document.quantity_of_wholeNumber hevery, hfilled, Bool.true_and, ← hmultiple]
    exact if_neg hstepNe
  · next hfilled => rw [eq_false_of_ne_true hfilled, Bool.false_and]

variable (net : Network) (m : Metadata) {sensor : Sensor} {every : Document} {step size : Nat}
  {w : Window Datum} {content : List Datum} {taken readings : List (List Datum)}
  {frames : List Document}

theorem predictFrom_cons (sensor : Sensor) (every : Document) (w : Window Datum) (count : Nat)
    (frame : Document) (rest : List Document) :
    predictFrom net m sensor every w count (frame :: rest) = (do
      let values ← sensor.reading frame
      let next ← w.push values
      if ← isDue next (count + 1) every then
        let p ← predict net m next.values
        let more ← predictFrom net m sensor every next (count + 1) rest
        return p :: more
      else predictFrom net m sensor every next (count + 1) rest) := by
  simp only [predictFrom, Sensor.reading, map_eq_pure_bind, bind_assoc, pure_bind,
    List.singleton_append, List.nil_append, bind_pure]

/-- What the steps of a stream keep: all frames so far had the right size, and the window holds
    them. -/
structure Feeds (window size : Nat) (content : List Datum) (w : Window Datum)
    (taken : List (List Datum)) : Prop where
  holds : w.Holds (window * size) size content taken
  lengths : ∀ values ∈ taken, values.length = size

section Steps

variable (hwindow : 0 < window) (hsize : 0 < size) (hevery : every.wholeNumber = .ok (step : Int))
  (hstep : 0 < step) (hcontent : content.length = window * size)

include hwindow hsize hevery hstep hcontent

/-- A frame is taken, and if its count is due, the prediction for the window stands in front of
    those for the rest. -/
theorem Feeds.predictFrom_cons (hfeeds : Feeds window size content w taken) {frame : Document}
    {values : List Datum} (hframe : sensor.Reads size frame values) (rest : List Document) :
    ∃ next, Feeds window size content next (taken ++ [values]) ∧
      predictFrom net m sensor every w taken.length (frame :: rest) =
        if window ≤ taken.length + 1 ∧ step ∣ taken.length + 1 then do
          let p ← predict net m (windowAt window (taken ++ [values]) (taken.length + 1))
          let more ← predictFrom net m sensor every next (taken.length + 1) rest
          return p :: more
        else predictFrom net m sensor every next (taken.length + 1) rest := by
  obtain ⟨hreading, hlength⟩ := hframe
  have hle : size ≤ window * size := Nat.le_mul_of_pos_left size hwindow
  obtain ⟨next, hpush, hholds⟩ := hfeeds.holds.push hcontent hsize hle hlength
  have hlengths : ∀ more ∈ taken ++ [values], more.length = size :=
    List.forall_mem_append.2 ⟨hfeeds.lengths, List.forall_mem_singleton.2 hlength⟩
  have hcount : (taken ++ [values]).length = taken.length + 1 := by simp
  have hdue : isDue next (taken.length + 1) every =
      .ok (decide (window ≤ taken.length + 1 ∧ step ∣ taken.length + 1)) := by
    rw [isDue_eq hevery hstep, hholds.isFilled hsize, hcount, Bool.decide_and]
  refine ⟨next, ⟨hholds, hlengths⟩, ?_⟩
  rw [DenseSketch.predictFrom_cons, hreading]
  simp only [hpush, hdue, bind, Except.bind, decide_eq_true_eq]
  split
  · next hhere => rw [hholds.values_of_le hlengths (hcount ▸ hhere.1), hcount]
  · rfl

/-- The predictions from a window on are those at the counts that are due from there on. -/
theorem Feeds.predictFrom_eq (hfeeds : Feeds window size content w taken)
    (hreadings : List.Forall₂ (sensor.Reads size) frames readings) :
    predictFrom net m sensor every w taken.length frames =
      ((List.range' (taken.length + 1) readings.length).filter
        fun c => window ≤ c ∧ step ∣ c).mapM
          fun c => predict net m (windowAt window (taken ++ readings) c) := by
  -- Along the frames: what has been taken grows by one, and what is still to come shrinks.
  induction hreadings generalizing w taken with
  | nil => rfl
  | @cons frame values frames readings hframe _ ih =>
    obtain ⟨next, hnext, hcons⟩ := hfeeds.predictFrom_cons net m hwindow hsize hevery hstep hcontent
      hframe frames
    have hcount : (taken ++ [values]).length = taken.length + 1 := by simp
    have hjoin : taken ++ [values] ++ readings = taken ++ values :: readings := by simp
    have hhere : windowAt window (taken ++ values :: readings) (taken.length + 1) =
        windowAt window (taken ++ [values]) (taken.length + 1) := by
      rw [← hjoin, windowAt_append hcount.ge]
    have hrest := ih hnext
    rw [hcount, hjoin] at hrest
    rw [hcons, hrest, List.length_cons, List.range'_succ, List.filter_cons]
    simp only [decide_eq_true_eq]
    split
    · rw [List.mapM_cons, hhere]
    · rfl

end Steps

/-! ### Streams -/

theorem predictStream_eq_mapM (hsensor : sensor.frameSize = .ok size)
    (hmetadata : m.window = window * size) (hevery : every.wholeNumber = .ok (step : Int))
    (hstep : 0 < step) (hreadings : List.Forall₂ (sensor.Reads size) frames readings) :
    predictStream net m sensor every frames =
      (dueCounts window step readings.length).mapM
        fun c => predict net m (windowAt window readings c) := by
  have hpos : 0 < window * size := hmetadata ▸ m.window_pos
  have hwindow : 0 < window := Nat.pos_of_mul_pos_right hpos
  have hsize : 0 < size := Nat.pos_of_mul_pos_left hpos
  obtain ⟨w, hcreate, hholds⟩ := Window.exists_filledWith Datum.zero hwindow hsize
  have hfeeds : Feeds window size (List.replicate (window * size) .zero) w [] :=
    ⟨hholds, List.forall_mem_nil _⟩
  have hrun := hfeeds.predictFrom_eq net m hwindow hsize hevery hstep List.length_replicate
    hreadings
  rw [predictStream, hsensor, hmetadata]
  simp only [bind, Except.bind, hcreate]
  exact hrun

theorem predictStream_rawFrames (hsensor : sensor.ReadsFrames size)
    (hmetadata : m.window = window * size) (hevery : every.wholeNumber = .ok (step : Int))
    (hstep : 0 < step) {raw : List (List Datum)}
    (hframes : List.Forall₂ (IsRawFrame size) frames raw) :
    predictStream net m sensor every frames =
      (dueCounts window step frames.length).mapM fun c =>
        predict net m (windowAt window (raw.map sensor.normalization.values) c) := by
  have hreadings : List.Forall₂ (sensor.Reads size) frames (raw.map sensor.normalization.values) :=
    List.forall₂_map_right_iff.2 (hframes.imp fun _ _ => hsensor.reads)
  rw [predictStream_eq_mapM net m hsensor.frameSize hmetadata hevery hstep hreadings,
    ← hreadings.length_eq]

/-- If no prediction fails, there is one result for each count that is due. -/
theorem exists_results {result : Nat → Except Fault Prediction} (hwindow : 0 < window)
    (hresult : ∀ c, window ≤ c → c ≤ count → step ∣ c → ∃ p, result c = .ok p) :
    ∃ results, (dueCounts window step count).mapM result = .ok results ∧
      List.Forall₂ (fun c p => result c = .ok p) (dueCounts window step count) results ∧
      results.length = if window ≤ count then count / step - (window - 1) / step else 0 := by
  have hall : ∀ c ∈ dueCounts window step count, ∃ p, result c = .ok p := by
    intro c hc
    obtain ⟨hfilled, hle, hdvd⟩ := (mem_dueCounts hwindow).1 hc
    exact hresult c hfilled hle hdvd
  obtain ⟨results, hresults⟩ := exists_mapM_eq_ok.2 hall
  have hforall := mapM_eq_ok_iff.1 hresults
  exact ⟨results, hresults, hforall,
    hforall.length_eq.symm.trans (length_dueCounts hwindow step count)⟩

/-- **The windows of a stream.**  The window of the metadata is made of whole frames, and each raw
    frame has as many values as the sensor reads.  Then the stream gives the predictions of its
    windows, at the counts of frames that fill the window and are divisible, in increasing order.
    If none of them fails, there are as many results as such counts.  Frames that are older than the
    first of these windows have no effect. -/
theorem predictStream_windows (hsensor : sensor.ReadsFrames size)
    (hmetadata : m.window = window * size) (hevery : every.wholeNumber = .ok (step : Int))
    (hstep : 0 < step) {raw : List (List Datum)}
    (hframes : List.Forall₂ (IsRawFrame size) frames raw) :
    let counts := dueCounts window step frames.length
    let result c := predict net m (windowAt window (raw.map sensor.normalization.values) c)
    (counts.Pairwise (· < ·) ∧
      ∀ c, c ∈ counts ↔ window ≤ c ∧ c ≤ frames.length ∧ step ∣ c) ∧
    predictStream net m sensor every frames = counts.mapM result ∧
    ((∀ c, window ≤ c → c ≤ frames.length → step ∣ c → ∃ p, result c = .ok p) →
      ∃ results, predictStream net m sensor every frames = .ok results ∧
        List.Forall₂ (fun c p => result c = .ok p) counts results ∧
        results.length =
          if window ≤ frames.length then frames.length / step - (window - 1) / step else 0) ∧
    ∀ others otherRaw, List.Forall₂ (IsRawFrame size) others otherRaw →
      others.length = frames.length →
      (∀ first ∈ counts.head?, others.drop (first - window) = frames.drop (first - window)) →
      predictStream net m sensor every others = predictStream net m sensor every frames := by
  intro counts result
  have hwindow : 0 < window := Nat.pos_of_mul_pos_right (hmetadata ▸ m.window_pos)
  have hstream : predictStream net m sensor every frames = counts.mapM result :=
    predictStream_rawFrames net m hsensor hmetadata hevery hstep hframes
  refine ⟨⟨pairwise_lt_dueCounts, fun c => mem_dueCounts hwindow⟩, hstream, ?_, ?_⟩
  · intro hresult
    rw [hstream]
    exact exists_results hwindow hresult
  · intro others otherRaw hothers hlength hsame
    have hdrop : ∀ first ∈ counts.head?,
        (otherRaw.map sensor.normalization.values).drop (first - window) =
          (raw.map sensor.normalization.values).drop (first - window) := by
      intro first hfirst
      have hotherEnd := List.forall₂_drop (first - window) hothers
      rw [hsame first hfirst] at hotherEnd
      have hraw := List.right_unique_forall₂' IsRawFrame.rightUnique hotherEnd
        (List.forall₂_drop (first - window) hframes)
      rw [← List.map_drop, hraw, List.map_drop]
    rw [hstream, predictStream_rawFrames net m hsensor hmetadata hevery hstep hothers, hlength]
    refine mapM_congr fun c hc => ?_
    rw [windowAt_congr_of_mem hdrop hc]

/-- Three frames of colours, a window of two, and a prediction after every second frame: there is one
    prediction, and it is for the first two frames. -/
theorem predictStream_windows_twoFrames :
    predictStream .twoFrames Project.twoFrames.metadata .color (.integer 2)
        (List.replicate 3 .sampleFrame) =
      [2].mapM fun c => predict .twoFrames Project.twoFrames.metadata
        (windowAt 2 ((List.replicate 3 Datum.sampleFrame).map Normalization.color.values) c) := by
  have hsensor : Sensor.color.ReadsFrames 5 := Sensor.readsFrames_of_mem_registry (.head _) rfl
  have hmetadata : Project.twoFrames.metadata.window = 2 * 5 := rfl
  have hframe : IsRawFrame 5 .sampleFrame Datum.sampleFrame := ⟨rfl, rfl⟩
  exact (predictStream_windows .twoFrames Project.twoFrames.metadata hsensor hmetadata rfl
    Nat.two_pos (.cons hframe (.cons hframe (.cons hframe .nil)))).2.1

end DenseSketch
