import DenseSketch.Inference.GivenWindow
import DenseSketch.Proofs.Document.Values
import DenseSketch.Proofs.Fault.Results
import Mathlib.Data.List.DropRight

/-!
# Windows over whole runs

What one window holds, and what a window shows of all the frames that are offered to it.
-/

/-!
## What a window holds

A window holds the last values of all that it has been given: of its initial content and the frames
that it has taken behind it.
-/

namespace DenseSketch

variable {α : Type}

/-! ### The last values of a list -/

/-- What has left the end of a list does not come back behind more values. -/
theorem rtake_rtake_append (n : Nat) (xs ys : List α) :
    (xs.rtake n ++ ys).rtake n = (xs ++ ys).rtake n := by
  simp only [List.rtake_eq_reverse_take_reverse, List.reverse_append, List.reverse_reverse,
    List.take_append, List.take_take, Nat.sub_le, Nat.min_eq_left]

/-- Behind enough values what stands in front of them does not count. -/
theorem rtake_append_of_length_le (xs : List α) {ys : List α} {n : Nat} (hn : n ≤ ys.length) :
    (xs ++ ys).rtake n = ys.rtake n := by
  have hfront : (xs ++ ys).length - n = xs.length + (ys.length - n) := by
    rw [List.length_append]
    omega
  rw [List.rtake, hfront, List.drop_length_add_append, List.rtake]

/-- The values of lists of one length. -/
theorem length_flatten_of_forall {xss : List (List α)} {n : Nat}
    (hlengths : ∀ xs ∈ xss, xs.length = n) : xss.flatten.length = xss.length * n := by
  rw [List.length_flatten, List.map_congr_left hlengths, List.map_const', List.sum_replicate_nat]

/-- A frame that is not empty and not longer than the buffer is taken up: the last values remain. -/
theorem slide_eq (buffer frame : List α) :
    slide buffer frame =
      if 1 ≤ frame.length ∧ frame.length ≤ buffer.length then
        .ok ((buffer ++ frame).rtake buffer.length)
      else .error (.vector (.slide frame.length buffer.length)) := by
  unfold slide
  by_cases hfits : 1 ≤ frame.length ∧ frame.length ≤ buffer.length
  · have hfront : (buffer ++ frame).length - buffer.length = frame.length := by simp
    rw [if_neg (by omega), if_pos hfits, List.rtake, hfront,
      List.drop_append_of_le_length hfits.2]
  · rw [if_pos (by omega), if_neg hfits]

/-! ### Frames -/

namespace Window

/-- The window of these sizes started with `content` and has taken the frames `taken`. -/
structure Holds (w : Window α) (size frameSize : Nat) (content : List α)
    (taken : List (List α)) : Prop where
  values : w.values = (content ++ taken.flatten).rtake size
  frames : w.frames = taken.length
  size : w.size = size
  frameSize : w.frameSize = frameSize

variable {w : Window α} {size frameSize : Nat} {content : List α} {taken : List (List α)}

theorem Holds.length_values (hholds : w.Holds size frameSize content taken)
    (hcontent : content.length = size) : w.values.length = size := by
  rw [hholds.values, List.rtake, List.length_drop, List.length_append, hcontent]
  omega

/-- A frame of the right length is taken, and the window holds it from then on. -/
theorem Holds.push (hholds : w.Holds size frameSize content taken)
    (hcontent : content.length = size) (hpos : 0 < frameSize) (hle : frameSize ≤ size)
    {frame : List α} (hframe : frame.length = frameSize) :
    ∃ next, w.push frame = .ok next ∧ next.Holds size frameSize content (taken ++ [frame]) := by
  have hlength := hholds.length_values hcontent
  have hslide : slide w.values frame = .ok ((w.values ++ frame).rtake size) := by
    rw [slide_eq, if_pos ⟨by omega, by omega⟩, hlength]
  refine ⟨{ w with frames := w.frames + 1, values := (w.values ++ frame).rtake size }, ?_, ?_⟩
  · rw [Window.push, if_neg (by simp [hframe, hholds.frameSize]), hslide]
    rfl
  · constructor
    case values =>
      simp only [hholds.values, rtake_rtake_append, List.flatten_append, List.flatten_singleton,
        List.append_assoc]
    case frames => simp [hholds.frames]
    case size => exact hholds.size
    case frameSize => exact hholds.frameSize

end Window

end DenseSketch

/-!
## Whole runs

Frames are offered to a window one after the other, and some of them may be refused.  Whatever has
been offered, the window shows the last values of its initial content and of the frames that it has
taken; once it is filled, the initial content is gone.
-/

namespace DenseSketch

/-- The content that a window of `size` values starts with: zeros where nothing is given, otherwise
    what is given, in single precision and as many values as the window holds. -/
inductive StartsWith (size : Nat) : Document → List Datum → Prop
  | zeros : StartsWith size .null (List.replicate size .zero)
  | given {initial : Document} {t : Tensor} (hgiven : initial.isNull = false)
      (htensor : Tensor.ofDocument initial = .ok t) (hlength : t.data.length = size) :
      StartsWith size initial t.data

theorem StartsWith.length_eq {size : Nat} {initial : Document} {content : List Datum}
    (hstart : StartsWith size initial content) : content.length = size := by
  cases hstart with
  | zeros => exact List.length_replicate
  | given _ _ hlength => exact hlength

namespace GivenWindow

/-! ### Runs -/

/-- Offers a frame: the window behind it, and whether the frame has been refused. -/
def offer (w : GivenWindow) (frame : List Datum) : GivenWindow × Except Fault Unit :=
  match w.push frame with
  | .ok next => (next, .ok ())
  | .error fault => (w, .error fault)

/-- Offers frames one after the other, also behind one that has been refused: the window at the end,
    and the frames that have been taken. -/
def offerAll (w : GivenWindow) : List (List Datum) → GivenWindow × List (List Datum)
  | [] => (w, [])
  | frame :: rest =>
    match w.offer frame with
    | (next, .ok ()) => ((next.offerAll rest).1, frame :: (next.offerAll rest).2)
    | (next, .error _) => next.offerAll rest

/-- What is seen of a window of `size` values that started with `content` and has taken the frames
    `taken`. -/
structure Shows (w : GivenWindow) (size frameSize : Nat) (content : List Datum)
    (taken : List (List Datum)) : Prop where
  values : w.window.values = (content ++ taken.flatten).rtake size
  length_values : w.window.values.length = size
  frames : w.window.frames = taken.length
  isFilled : w.isFilled ↔ size / frameSize ≤ taken.length

section Runs

variable {givenSize givenFrame : Document} {size frameSize : Nat} {initial : Document}
  {content : List Datum} {taken : List (List Datum)} {w : GivenWindow}

/-- What every frame that is offered leaves as it is, and what the window holds. -/
structure Invariant (w : GivenWindow) (givenFrame : Document) (size frameSize : Nat)
    (content : List Datum) (taken : List (List Datum)) : Prop where
  given : w.frameSize = givenFrame
  capacity : w.capacity = .whole ((size / frameSize : Nat) : Int)
  holds : w.window.Holds size frameSize content taken

theorem Invariant.shows (hinvariant : w.Invariant givenFrame size frameSize content taken)
    (hcontent : content.length = size) : w.Shows size frameSize content taken := by
  constructor
  case values => exact hinvariant.holds.values
  case length_values => exact hinvariant.holds.length_values hcontent
  case frames => exact hinvariant.holds.frames
  case isFilled =>
    rw [GivenWindow.isFilled, hinvariant.capacity, Quantity.exact, Datum.le_ofInt,
      hinvariant.holds.frames, decide_eq_true_iff, Int.ofNat_le]

/-- A window of a whole number of frames is made with its initial content. -/
theorem create_eq_ok (hsize : givenSize.wholeNumber = .ok (size : Int))
    (hframe : givenFrame.wholeNumber = .ok (frameSize : Int)) (hsizePos : 0 < size)
    (hframePos : 0 < frameSize) (hwhole : frameSize ∣ size)
    (hstart : StartsWith size initial content) :
    ∃ w, create givenSize givenFrame initial = .ok w ∧
      w.Invariant givenFrame size frameSize content [] := by
  have hframeNe : (frameSize : Int) ≠ 0 := by omega
  have hmultiple : ((size : Int) % frameSize == 0) = true := by
    rw [beq_iff_eq]
    exact_mod_cast Nat.mod_eq_zero_of_dvd hwhole
  have hfits : fits givenSize givenFrame = .ok true := by
    have hframeUp : decide ((frameSize : Int) ≤ 0) = false := decide_eq_false (by omega)
    have hsizeUp : decide ((size : Int) ≤ 0) = false := decide_eq_false (by omega)
    simp only [fits, Document.isNotPositive_of_wholeNumber hframe,
      Document.isNotPositive_of_wholeNumber hsize, Document.quantity_of_wholeNumber hframe,
      Document.quantity_of_wholeNumber hsize, hframeUp, hsizeUp, Quantity.isMultiple,
      if_neg hframeNe, hmultiple, bind, Except.bind, Bool.false_eq_true, if_false]
  have hcontent : contentOf givenSize initial = .ok content := by
    cases hstart with
    | zeros => simp [contentOf, Document.isNull, hsize, bind, Except.bind, pure, Except.pure]
    | given hgiven htensor hlength =>
      simp [contentOf, hgiven, htensor, hsize, hlength, bind, Except.bind, pure, Except.pure]
  have hquotient : (size : Int).fdiv frameSize = ((size / frameSize : Nat) : Int) := by
    rw [Int.fdiv_eq_ediv_of_nonneg _ (Int.natCast_nonneg _), Int.natCast_ediv]
  refine ⟨⟨givenSize, givenFrame, .whole ((size / frameSize : Nat) : Int),
    ⟨content.length, frameSize, 0, content⟩⟩, ?_, ?_⟩
  · simp only [create, hfits, hcontent, Document.quantity_of_wholeNumber hframe,
      Document.quantity_of_wholeNumber hsize, Quantity.floorQuotient, if_neg hframeNe, hquotient,
      Quantity.exact, Datum.truncate?_ofInt, Option.getD_some, Int.toNat_natCast, bind,
      Except.bind, pure, Except.pure, Bool.not_true, Bool.false_eq_true, if_false]
  · constructor
    case given => rfl
    case capacity => rfl
    case holds =>
      constructor
      case values => simp [List.rtake, hstart.length_eq]
      case frames => rfl
      case size => exact hstart.length_eq
      case frameSize => rfl

/-- A frame of another length is refused. -/
theorem Invariant.offer_of_ne (hinvariant : w.Invariant givenFrame size frameSize content taken)
    (hframe : givenFrame.wholeNumber = .ok (frameSize : Int)) {frame : List Datum}
    (hlength : frame.length ≠ frameSize) :
    w.offer frame = (w, .error (.vector (.frame givenFrame.shown frame.length))) := by
  have hother : ¬ ((frame.length : Int) = frameSize) := by exact_mod_cast hlength
  have hpush : w.push frame = .error (.vector (.frame givenFrame.shown frame.length)) := by
    simp only [push, hinvariant.given, Document.same_integer_of_wholeNumber hframe, hother,
      decide_false, Bool.false_eq_true, if_false]
  rw [offer, hpush]

/-- A frame of the right length is taken, and the window keeps its invariant. -/
theorem Invariant.offer_of_eq (hinvariant : w.Invariant givenFrame size frameSize content taken)
    (hframe : givenFrame.wholeNumber = .ok (frameSize : Int)) (hcontent : content.length = size)
    (hframePos : 0 < frameSize) (hle : frameSize ≤ size) {frame : List Datum}
    (hlength : frame.length = frameSize) :
    ∃ next, w.offer frame = (next, .ok ()) ∧
      next.Invariant givenFrame size frameSize content (taken ++ [frame]) := by
  obtain ⟨window, hwindow, hholds⟩ := hinvariant.holds.push hcontent hframePos hle hlength
  have hsame : ((frame.length : Int) = frameSize) := by exact_mod_cast hlength
  have hpush : w.push frame = .ok { w with window := window } := by
    simp only [push, hinvariant.given, Document.same_integer_of_wholeNumber hframe, hsame,
      decide_true, if_true, hwindow]
    rfl
  refine ⟨{ w with window := window }, by rw [offer, hpush], ?_⟩
  exact ⟨hinvariant.given, hinvariant.capacity, hholds⟩

/-- Frames of the right length are taken one after the other. -/
theorem Invariant.pushAll (hinvariant : w.Invariant givenFrame size frameSize content taken)
    (hframe : givenFrame.wholeNumber = .ok (frameSize : Int)) (hcontent : content.length = size)
    (hframePos : 0 < frameSize) (hle : frameSize ≤ size) {frames : List (List Datum)}
    (hlengths : ∀ frame ∈ frames, frame.length = frameSize) :
    ∃ final, frames.foldlM push w = .ok final ∧
      final.Invariant givenFrame size frameSize content (taken ++ frames) := by
  induction frames generalizing w taken with
  | nil => exact ⟨w, rfl, by rwa [List.append_nil]⟩
  | cons frame rest ih =>
    obtain ⟨next, hoffer, hnext⟩ := hinvariant.offer_of_eq hframe hcontent hframePos hle
      (hlengths frame (List.mem_cons_self ..))
    have hpush : w.push frame = .ok next := by
      rw [offer] at hoffer
      split at hoffer
      · next heq => rw [heq, (Prod.mk.inj hoffer).1]
      · cases (Prod.mk.inj hoffer).2
    obtain ⟨final, hrun, hfinal⟩ := ih hnext fun other hother =>
      hlengths other (List.mem_cons_of_mem _ hother)
    rw [List.append_assoc] at hfinal
    exact ⟨final, by rw [List.foldlM_cons, hpush]; exact hrun, hfinal⟩

/-- Of all frames that are offered exactly those of the right length are taken, and the window keeps
    its invariant. -/
theorem Invariant.offerAll (hinvariant : w.Invariant givenFrame size frameSize content taken)
    (hframe : givenFrame.wholeNumber = .ok (frameSize : Int)) (hcontent : content.length = size)
    (hframePos : 0 < frameSize) (hle : frameSize ≤ size) (frames : List (List Datum)) :
    (w.offerAll frames).2 = frames.filter (·.length = frameSize) ∧
      (w.offerAll frames).1.Invariant givenFrame size frameSize content
        (taken ++ (w.offerAll frames).2) := by
  induction frames generalizing w taken with
  | nil =>
    refine ⟨rfl, ?_⟩
    rw [GivenWindow.offerAll, List.append_nil]
    exact hinvariant
  | cons frame rest ih =>
    by_cases hlength : frame.length = frameSize
    · obtain ⟨next, hoffer, hnext⟩ :=
        hinvariant.offer_of_eq hframe hcontent hframePos hle hlength
      obtain ⟨htaken, hrest⟩ := ih hnext
      simp only [GivenWindow.offerAll, hoffer]
      refine ⟨by rw [List.filter_cons_of_pos (by simpa using hlength), htaken], ?_⟩
      rw [List.append_assoc] at hrest
      exact hrest
    · have hoffer := hinvariant.offer_of_ne hframe hlength
      obtain ⟨htaken, hrest⟩ := ih hinvariant
      simp only [GivenWindow.offerAll, hoffer]
      refine ⟨by rw [List.filter_cons_of_neg (by simpa using hlength), htaken], hrest⟩

/-- As many frames as fill the window leave nothing of its initial content. -/
theorem Shows.values_of_isFilled (hshows : w.Shows size frameSize content taken)
    (hwhole : frameSize ∣ size) (hlengths : ∀ frame ∈ taken, frame.length = frameSize)
    (hfilled : w.isFilled) : w.window.values = taken.flatten.rtake size := by
  have hframes : size / frameSize ≤ taken.length := hshows.isFilled.1 hfilled
  have henough : size ≤ taken.flatten.length := by
    calc size = size / frameSize * frameSize := (Nat.div_mul_cancel hwhole).symm
      _ ≤ taken.length * frameSize := Nat.mul_le_mul_right _ hframes
      _ = taken.flatten.length := (length_flatten_of_forall hlengths).symm
  rw [hshows.values, rtake_append_of_length_le content henough]

end Runs

/-- **A window over a whole run.**  Frames are offered to a window of a whole number of frames.
    Those of the right length are taken.  The others are refused and leave the window as it is.  The
    window then shows the last values of its initial content and the frames it has taken; it is
    filled when it has taken as many as it holds, and from then on the initial content does not
    count.  One step of this is sliding: it keeps the last values of the buffer and the frame, and a
    frame that is empty or longer than the buffer is refused. -/
theorem shows_offerAll {givenSize givenFrame : Document} {size frameSize : Nat}
    (hsize : givenSize.wholeNumber = .ok (size : Int))
    (hframe : givenFrame.wholeNumber = .ok (frameSize : Int)) (hsizePos : 0 < size)
    (hframePos : 0 < frameSize) (hwhole : frameSize ∣ size) (frames : List (List Datum)) :
    (∀ initial content, StartsWith size initial content →
      ∃ start, create givenSize givenFrame initial = .ok start ∧
        (start.offerAll frames).2 = frames.filter (·.length = frameSize) ∧
        (start.offerAll frames).1.Shows size frameSize content (start.offerAll frames).2 ∧
        ∀ frame : List Datum, frame.length ≠ frameSize →
          (start.offerAll frames).1.offer frame =
            ((start.offerAll frames).1, .error (.vector (.frame givenFrame.shown frame.length)))) ∧
    (∀ initial content other otherContent start otherStart, StartsWith size initial content →
      StartsWith size other otherContent → create givenSize givenFrame initial = .ok start →
      create givenSize givenFrame other = .ok otherStart → (start.offerAll frames).1.isFilled →
      (otherStart.offerAll frames).1.window.values = (start.offerAll frames).1.window.values) ∧
    ∀ buffer frame : List Datum,
      slide buffer frame =
        if 1 ≤ frame.length ∧ frame.length ≤ buffer.length then
          .ok ((buffer ++ frame).rtake buffer.length)
        else .error (.vector (.slide frame.length buffer.length)) := by
  have hle : frameSize ≤ size := Nat.le_of_dvd hsizePos hwhole
  have hrun : ∀ initial content, StartsWith size initial content →
      ∃ start, create givenSize givenFrame initial = .ok start ∧
        (start.offerAll frames).2 = frames.filter (·.length = frameSize) ∧
        (start.offerAll frames).1.Invariant givenFrame size frameSize content
          (start.offerAll frames).2 := by
    intro initial content hstart
    obtain ⟨start, hcreate, hinvariant⟩ :=
      create_eq_ok hsize hframe hsizePos hframePos hwhole hstart
    obtain ⟨htaken, hafter⟩ :=
      hinvariant.offerAll hframe hstart.length_eq hframePos hle frames
    exact ⟨start, hcreate, htaken, hafter⟩
  refine ⟨?_, ?_, slide_eq⟩
  · intro initial content hstart
    obtain ⟨start, hcreate, htaken, hafter⟩ := hrun initial content hstart
    exact ⟨start, hcreate, htaken, hafter.shows hstart.length_eq,
      fun frame hlength => hafter.offer_of_ne hframe hlength⟩
  · intro initial content other otherContent start otherStart hstart hother hcreate hotherCreate
      hfilled
    obtain ⟨_, hmade, htaken, hafter⟩ := hrun initial content hstart
    obtain ⟨_, hotherMade, hotherTaken, hotherAfter⟩ := hrun other otherContent hother
    cases hmade.symm.trans hcreate
    cases hotherMade.symm.trans hotherCreate
    have hshows := hafter.shows hstart.length_eq
    have hotherShows := hotherAfter.shows hother.length_eq
    -- The same frames are taken by both, so both are filled.
    rw [hotherTaken, ← htaken] at hotherShows
    have hlengths : ∀ frame ∈ (start.offerAll frames).2, frame.length = frameSize := by
      intro frame hmem
      rw [htaken] at hmem
      simpa using List.of_mem_filter hmem
    rw [hshows.values_of_isFilled hwhole hlengths hfilled]
    exact hotherShows.values_of_isFilled hwhole hlengths
      (hotherShows.isFilled.2 (hshows.isFilled.1 hfilled))

/-- A window of two frames that starts with zeros.  The second frame that is offered is too short. -/
theorem shows_offerAll_sample : ∃ start,
    create (.integer 4) (.integer 2) .null = .ok start ∧
      (start.offerAll [[.one, .zero], [.one], [.zero, .one]]).1.Shows 4 2
        (List.replicate 4 .zero) [[.one, .zero], [.zero, .one]] := by
  have hsize : (Document.integer 4).wholeNumber = .ok ((4 : Nat) : Int) := rfl
  have hframe : (Document.integer 2).wholeNumber = .ok ((2 : Nat) : Int) := rfl
  obtain ⟨start, hcreate, htaken, hshows, -⟩ :=
    (shows_offerAll hsize hframe (by decide) (by decide) (by decide)
      [[.one, .zero], [.one], [.zero, .one]]).1 .null _ .zeros
  rw [htaken] at hshows
  exact ⟨start, hcreate, hshows⟩

end GivenWindow

end DenseSketch
