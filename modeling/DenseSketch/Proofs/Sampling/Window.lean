import DenseSketch.Proofs.Inference.GivenWindow
import DenseSketch.Proofs.Project.Files
import DenseSketch.Proofs.Sample
import DenseSketch.Proofs.Sampling.Machine
import DenseSketch.Proofs.Workbench.Stages
import Mathlib.Tactic.Linarith

/-!
# The window of the board

The board keeps its window in one buffer, moves it in place and stops counting once the window is
filled.  After any number of frames it holds what the window of the host holds.  This is the input
buffer of SPEC_FULL, section 4.2.
-/

namespace DenseSketch.Sampling

/-! ### Copying in place -/

variable {b vs : List Datum} {base i : Nat}

/-- A buffer in which values have been written over those from a position on. -/
def patched (b : List Datum) (base : Nat) (vs : List Datum) : List Datum :=
  b.take base ++ vs ++ b.drop (base + vs.length)

@[simp]
theorem patched_nil (b : List Datum) (base : Nat) : patched b base [] = b := by
  simp [patched]

theorem length_patched (hroom : base + vs.length ≤ b.length) :
    (patched b base vs).length = b.length := by
  simp only [patched, List.length_append, List.length_take, List.length_drop]
  omega

/-- Behind what has been written the buffer is as it was. -/
theorem getElem?_patched (hroom : base ≤ b.length) (hi : base + vs.length ≤ i) :
    (patched b base vs)[i]? = b[i]? := by
  have hfront : (b.take base ++ vs).length = base + vs.length := by
    rw [List.length_append, List.length_take, Nat.min_eq_left hroom]
  rw [patched, List.getElem?_append_right (hfront ▸ hi), hfront, List.getElem?_drop]
  congr 1
  omega

/-- One more value is written behind the others. -/
theorem set_patched (hroom : base + vs.length < b.length) (v : Datum) :
    (patched b base vs).set (base + vs.length) v = patched b base (vs ++ [v]) := by
  have hfront : (b.take base ++ vs).length = base + vs.length := by
    rw [List.length_append, List.length_take, Nat.min_eq_left (by omega)]
  rw [patched, List.set_append_right _ _ (by omega), hfront, Nat.sub_self,
    List.drop_eq_getElem_cons hroom, List.set_cons_zero, patched, List.length_append,
    List.length_singleton, ← Nat.add_assoc]
  simp

theorem readAt_natCast (values : List Datum) (i : Nat) : readAt values i = values[i]? := by
  simp [readAt]

theorem writeAt_natCast {values : List Datum} (hi : i < values.length) (v : Datum) :
    writeAt values i v = some (values.set i v) := by
  simp [writeAt, hi]

/-- What a loop reads and where it writes to: the values one behind the other, from a position on.
    It may read from the buffer that it writes to, as long as it reads what it has not yet
    overwritten. -/
structure Loop.Copies (loop : Loop) (sizes : Sizes) (frame b : List Datum) (base : Nat)
    (vs : List Datum) : Prop where
  bound : loop.bound.eval sizes.value = vs.length
  room : base + vs.length ≤ b.length
  target : ∀ k : Nat, loop.target.eval (sizes.at k) = (base + k : Nat)
  source : ∀ k (hk : k < vs.length),
    readAt (loop.source.values frame (patched b base (vs.take k)))
      (loop.position.eval (sizes.at k)) = some vs[k]

section Loops

variable {loop : Loop} {sizes : Sizes} {frame : List Datum}

/-- One round writes one value. -/
theorem Loop.Copies.round_eq (hcopies : loop.Copies sizes frame b base vs) {k : Nat}
    (hk : k < vs.length) :
    loop.round sizes frame (patched b base (vs.take k)) k =
      some (patched b base (vs.take (k + 1))) := by
  have hroom := hcopies.room
  have hlength : (vs.take k).length = k := List.length_take_of_le hk.le
  have hinside : base + k < (patched b base (vs.take k)).length := by
    rw [length_patched (by omega)]
    omega
  have hset := set_patched (by omega : base + (vs.take k).length < b.length) vs[k]
  rw [hlength, List.take_append_getElem] at hset
  simp only [Loop.round, hcopies.source k hk, hcopies.target, writeAt_natCast hinside, hset,
    Option.bind_eq_bind, Option.bind_some]

/-- A loop writes all its values. -/
theorem Loop.Copies.run_eq (hcopies : loop.Copies sizes frame b base vs) :
    loop.run sizes frame b = some (patched b base vs) := by
  -- After `k` rounds the first `k` values have been written.
  have hrounds : ∀ k ≤ vs.length, (List.range k).foldlM (loop.round sizes frame) b =
      some (patched b base (vs.take k)) := by
    intro k hk
    induction k with
    | zero => simp
    | succ k ih =>
      rw [List.range_succ, List.foldlM_append, ih (by omega), Option.bind_eq_bind, Option.bind_some,
        List.foldlM_cons, hcopies.round_eq hk]
      rfl
  rw [Loop.run, hcopies.bound, Int.toNat_natCast, hrounds _ le_rfl, List.take_length]

variable (hbuffer : b.length = sizes.sample) (hle : sizes.frame ≤ sizes.sample)
include hbuffer hle

/-- The buffer is moved by one frame, although every round reads from it. -/
theorem copies_shift : shift.Copies sizes frame b 0 (b.drop sizes.frame) := by
  constructor
  case bound =>
    rw [List.length_drop, hbuffer, Nat.cast_sub hle]
    rfl
  case room =>
    rw [List.length_drop]
    omega
  case target =>
    intro k
    simp [shift, Terms.eval, Sizes.at]
  case source =>
    intro k hk
    rw [List.length_drop] at hk
    have hposition : shift.position.eval (sizes.at k) = (k + sizes.frame : Nat) := by
      simp [shift, Terms.eval, Sizes.at, Sizes.value]
    have hbehind : 0 + ((b.drop sizes.frame).take k).length ≤ k + sizes.frame := by
      rw [List.length_take]
      omega
    rw [hposition, readAt_natCast]
    change (patched b 0 _)[_]? = _
    rw [getElem?_patched (Nat.zero_le _) hbehind, ← List.getElem?_eq_getElem, List.getElem?_drop,
      Nat.add_comm]

/-- The frame comes behind what is left. -/
theorem copies_append (hframe : frame.length = sizes.frame) :
    append.Copies sizes frame b (sizes.sample - sizes.frame) frame := by
  constructor
  case bound =>
    rw [hframe]
    rfl
  case room => omega
  case target =>
    intro k
    simp only [append, Terms.eval, Sizes.at, Sizes.value]
    omega
  case source =>
    intro k hk
    have hposition : append.position.eval (sizes.at k) = (k : Nat) := rfl
    rw [hposition, readAt_natCast]
    exact List.getElem?_eq_getElem hk

end Loops

/-! ### Taking a frame -/

/-- The window with the latch behind one more frame. -/
def Memory.latched (sizes : Sizes) (s : Memory) : Memory :=
  if s.filled then s
  else if sizes.windowFrames ≤ s.collected + 1 then
    { s with collected := s.collected + 1, filled := true, printed := s.printed ++ [announcement] }
  else { s with collected := s.collected + 1 }

variable {sizes : Sizes} {s : Memory} {frame : List Datum}

theorem run_latch (sizes : Sizes) (frame : List Datum) (s : Memory) :
    PushStatement.run sizes frame s (.latch [.unfilled, .counted] [.fill, .announce announcement]) =
      some (s.latched sizes) := by
  cases hfilled : s.filled with
  | true => simp [PushStatement.run, runTests, Test.run, Memory.latched, hfilled]
  | false =>
    by_cases henough : sizes.windowFrames ≤ s.collected + 1
    all_goals
      simp [PushStatement.run, runTests, Test.run, Memory.latched, Filling.run, hfilled, henough]

/-- Copying and the latch are all that taking a frame does. -/
theorem push_eq_some_iff {t : Memory} :
    push sizes s frame = some t ↔ ∃ moved buffer, shift.run sizes frame s.buffer = some moved ∧
      append.run sizes frame moved = some buffer ∧
      t = Memory.latched sizes { s with buffer := buffer } := by
  have hcopy : ∀ (loop : Loop) (s : Memory), PushStatement.run sizes frame s (.copy loop) =
      (loop.run sizes frame s.buffer).map fun buffer => { s with buffer := buffer } := by
    intro loop s
    cases hrun : loop.run sizes frame s.buffer <;> simp [PushStatement.run, hrun]
  have hblank : ∀ s : Memory, PushStatement.run sizes frame s .blank = some s := fun _ => rfl
  simp only [push, pushing, List.foldlM_cons, List.foldlM_nil, hcopy, hblank, run_latch,
    Option.bind_eq_bind, Option.bind_some, Option.bind_eq_some_iff, Option.map_eq_some_iff,
    Option.pure_def]
  constructor
  · rintro ⟨_, ⟨moved, hmoved, rfl⟩, _, ⟨buffer, hbuffer, rfl⟩, ht⟩
    exact ⟨moved, buffer, hmoved, hbuffer, (Option.some.inj ht).symm⟩
  · rintro ⟨moved, buffer, hmoved, hbuffer, rfl⟩
    exact ⟨_, ⟨moved, hmoved, rfl⟩, _, ⟨buffer, hbuffer, rfl⟩, rfl⟩

/-- In the buffer the oldest frame makes room for the new one. -/
theorem push_eq_some (hbuffer : s.buffer.length = sizes.sample) (hle : sizes.frame ≤ sizes.sample)
    (hframe : frame.length = sizes.frame) :
    push sizes s frame =
      some (Memory.latched sizes { s with buffer := s.buffer.drop sizes.frame ++ frame }) := by
  have hshift : shift.run sizes frame s.buffer =
      some (patched s.buffer 0 (s.buffer.drop sizes.frame)) :=
    (copies_shift hbuffer hle).run_eq
  have hmoved : (patched s.buffer 0 (s.buffer.drop sizes.frame)).length = sizes.sample := by
    rw [length_patched (by rw [List.length_drop]; omega), hbuffer]
  have happend := (copies_append hmoved hle hframe).run_eq
  refine push_eq_some_iff.2 ⟨_, _, hshift, happend, ?_⟩
  congr 2
  have hfront : sizes.sample - sizes.frame = (s.buffer.drop sizes.frame).length := by
    rw [List.length_drop, hbuffer]
  rw [patched, hframe, Nat.sub_add_cancel hle, ← hmoved, List.drop_length, List.append_nil, hmoved]
  rw [patched, hfront, List.take_zero, List.nil_append, List.take_left]

/-! ### Runs -/

theorem windowFrames_eq (sizes : Sizes) :
    sizes.windowFrames = (sizes.sample / sizes.frame : Nat) :=
  (Int.ofNat_tdiv ..).symm

/-- What is seen of the window of a board that has taken the frames `taken`. -/
structure Memory.Shows (s : Memory) (sizes : Sizes) (taken : List (List Datum)) : Prop where
  buffer : s.buffer =
    (List.replicate sizes.sample Datum.zero ++ taken.flatten).rtake sizes.sample
  filled : s.filled = decide (sizes.sample / sizes.frame ≤ taken.length)
  collected : s.collected = (min taken.length (sizes.sample / sizes.frame) : Nat)
  printed : s.printed = if s.filled then [announcement] else []

variable {taken : List (List Datum)}

theorem Memory.Shows.length_buffer (hshows : s.Shows sizes taken) :
    s.buffer.length = sizes.sample := by
  rw [hshows.buffer, List.rtake, List.length_drop, List.length_append, List.length_replicate]
  omega

theorem shows_initial (hpos : 0 < sizes.frame) (hle : sizes.frame ≤ sizes.sample) :
    (Memory.initial sizes).Shows sizes [] := by
  have hframes : 0 < sizes.sample / sizes.frame := Nat.div_pos hle hpos
  constructor
  case buffer => simp [Memory.initial, List.rtake]
  case filled => exact (decide_eq_false (by rw [List.length_nil]; omega)).symm
  case collected => simp [Memory.initial]
  case printed => rfl

/-- The latch counts up to a full window and stays there. -/
theorem Memory.Shows.latched (hshows : s.Shows sizes taken) (hle : sizes.frame ≤ sizes.sample)
    (hframe : frame.length = sizes.frame) :
    (Memory.latched sizes { s with buffer := s.buffer.drop sizes.frame ++ frame }).Shows sizes
      (taken ++ [frame]) := by
  have hlength := hshows.length_buffer
  have hcount : (taken ++ [frame]).length = taken.length + 1 := List.length_append
  have hbuffer : s.buffer.drop sizes.frame ++ frame =
      (List.replicate sizes.sample Datum.zero ++ (taken ++ [frame]).flatten).rtake
        sizes.sample := by
    have hslide : s.buffer.drop sizes.frame ++ frame =
        (s.buffer ++ frame).rtake sizes.sample := by
      rw [List.rtake, List.length_append, hlength, hframe, Nat.add_sub_cancel_left,
        List.drop_append_of_le_length (by omega)]
    rw [hslide, hshows.buffer, rtake_rtake_append, List.flatten_append, List.flatten_singleton,
      List.append_assoc]
  have hfilled := hshows.filled
  have hcollected := hshows.collected
  have hprinted := hshows.printed
  by_cases hbefore : s.filled
  · -- Nothing but the buffer changes any more.
    have henough : sizes.sample / sizes.frame ≤ taken.length := by
      simpa [hbefore] using hfilled
    rw [Memory.latched, if_pos hbefore]
    constructor
    case buffer => exact hbuffer
    case filled => rw [hbefore, decide_eq_true (by omega)]
    case collected => rw [hcollected, Nat.min_eq_right henough, Nat.min_eq_right (by omega)]
    case printed => exact hprinted
  · have hfew : taken.length < sizes.sample / sizes.frame := by
      simpa [hbefore] using hfilled
    have hnext : s.collected + 1 =
        (min (taken ++ [frame]).length (sizes.sample / sizes.frame) : Nat) := by
      rw [hcollected, Nat.min_eq_left hfew.le, Nat.min_eq_left (by omega), hcount, Nat.cast_succ]
    rw [if_neg hbefore] at hprinted
    rw [Memory.latched, if_neg hbefore]
    split
    · next henough =>
      rw [windowFrames_eq, hnext, Nat.cast_le] at henough
      constructor
      case buffer => exact hbuffer
      case filled => rw [decide_eq_true (henough.trans (min_le_left ..))]
      case collected => exact hnext
      case printed => rw [hprinted, if_pos rfl, List.nil_append]
    · next hmore =>
      rw [windowFrames_eq, hnext, Nat.cast_le] at hmore
      constructor
      case buffer => exact hbuffer
      case filled => rw [decide_eq_false (by omega), Bool.eq_false_iff.2 hbefore]
      case collected => exact hnext
      case printed => rw [hprinted, if_neg hbefore]

/-- One frame. -/
theorem Memory.Shows.push (hshows : s.Shows sizes taken) (hle : sizes.frame ≤ sizes.sample)
    (hframe : frame.length = sizes.frame) :
    ∃ t, push sizes s frame = some t ∧ t.Shows sizes (taken ++ [frame]) :=
  ⟨_, push_eq_some hshows.length_buffer hle hframe, hshows.latched hle hframe⟩

/-- Any number of frames. -/
theorem Memory.Shows.pushAll (hshows : s.Shows sizes taken) (hle : sizes.frame ≤ sizes.sample)
    {frames : List (List Datum)} (hframes : ∀ frame ∈ frames, frame.length = sizes.frame) :
    ∃ t, frames.foldlM (Sampling.push sizes) s = some t ∧ t.Shows sizes (taken ++ frames) := by
  induction frames generalizing s taken with
  | nil => exact ⟨s, rfl, by rwa [List.append_nil]⟩
  | cons frame rest ih =>
    obtain ⟨next, hpush, hnext⟩ := hshows.push hle (hframes frame (List.mem_cons_self ..))
    obtain ⟨t, hrun, ht⟩ := ih hnext fun other hother =>
      hframes other (List.mem_cons_of_mem _ hother)
    rw [List.append_assoc] at ht
    exact ⟨t, by rw [List.foldlM_cons, hpush, Option.bind_eq_bind, Option.bind_some, hrun], ht⟩

/-- Of three frames a window of two keeps the last two. -/
example : ([[.one], [.zero], [.one]].foldlM (push ⟨2, 1⟩) (.initial ⟨2, 1⟩)).map Memory.buffer =
    some [.zero, .one] := by
  decide

/-! ### Board and host -/

/-- After any frames board and host hold the same, for every window of whole frames. -/
theorem exists_runs (sizes : Sizes) (hpos : 0 < sizes.frame) (hsample : 0 < sizes.sample)
    (hdvd : sizes.frame ∣ sizes.sample) {frames : List (List Datum)}
    (hframes : ∀ frame ∈ frames, frame.length = sizes.frame) :
    ∃ start w s,
      GivenWindow.create (.integer sizes.sample) (.integer sizes.frame) .null = .ok start ∧
      frames.foldlM GivenWindow.push start = .ok w ∧
      frames.foldlM (push sizes) (.initial sizes) = some s ∧
      s.buffer = w.window.values ∧ s.buffer.length = sizes.sample ∧ s.filled = w.isFilled ∧
      s.collected = min (frames.length : Int) sizes.windowFrames := by
  have hle : sizes.frame ≤ sizes.sample := Nat.le_of_dvd hsample hdvd
  have hsize : (Document.integer sizes.sample).wholeNumber = .ok (sizes.sample : Int) := rfl
  have hstep : (Document.integer sizes.frame).wholeNumber = .ok (sizes.frame : Int) := rfl
  have hzeros : (List.replicate sizes.sample Datum.zero).length = sizes.sample :=
    List.length_replicate
  obtain ⟨start, hcreate, hstart⟩ := GivenWindow.create_eq_ok hsize hstep hsample hpos hdvd .zeros
  obtain ⟨w, hhost, hw⟩ := hstart.pushAll hstep hzeros hpos hle hframes
  obtain ⟨s, hboard, hs⟩ := (shows_initial hpos hle).pushAll hle hframes
  rw [List.nil_append] at hs hw
  have hshows := hw.shows hzeros
  refine ⟨start, w, s, hcreate, hhost, hboard, ?_, hs.length_buffer, ?_, ?_⟩
  · rw [hs.buffer, hshows.values]
  · rw [hs.filled, Bool.eq_iff_iff, decide_eq_true_iff, hshows.isFilled]
  · rw [hs.collected, windowFrames_eq, Nat.cast_min]

/-- The sizes of a project whose sensor has frames of a size. -/
def sizesOf (p : Project) (frameSize : Nat) : Sizes := ⟨p.network.inputs, frameSize⟩

/-- The window of the sketch is that of the host. -/
structure Refines (p : Project) (frameSize : Nat) : Prop where
  emitted : ∀ d code, p.sketchCode d = .ok code → IsEmitted p frameSize code
  defined : ∀ d, ("INPUT_SIZE", p.network.inputs) ∈ Header.defines p d
  windowFrames_pos : 1 ≤ (sizesOf p frameSize).windowFrames
  windowFrames_mul : (sizesOf p frameSize).windowFrames * frameSize = p.network.inputs
  /-- After any frames: no index was outside its array, and both hold the same. -/
  runs : ∀ frames : List (List Datum), (∀ frame ∈ frames, frame.length = frameSize) →
    ∃ start w s,
      GivenWindow.create (.integer p.network.inputs) (.integer frameSize) .null = .ok start ∧
      frames.foldlM GivenWindow.push start = .ok w ∧
      frames.foldlM (push (sizesOf p frameSize)) (.initial (sizesOf p frameSize)) = some s ∧
      s.buffer = w.window.values ∧ s.buffer.length = p.network.inputs ∧ s.filled = w.isFilled ∧
      s.collected = min (frames.length : Int) (sizesOf p frameSize).windowFrames

/-- **Board and host keep the same window.**  For every project that passes its checks the window is
    a whole number of frames, at least one.  Taking frames of the sensor one after the other, the
    function of its sketch reads and writes inside its arrays only, and keeps in its buffer what the
    window of the host holds; the flag tells whether that is filled, and the counter stops at as
    many frames as fill it. -/
theorem refines_window {p : Project} {start : Workbench}
    (hvalid : (Job.runOn p.validate start).1 = .ok ()) :
    ∃ frameSize, p.sensor.frameSize = .ok frameSize ∧ Refines p frameSize := by
  obtain ⟨_, hvalidate⟩ := p.runOn_validate start
  have hcheck : p.check = .ok () := by rwa [hvalidate] at hvalid
  obtain ⟨-, -, hcounts, -, -⟩ := Project.check_eq_ok.1 hcheck
  obtain ⟨-, hwindow, frameSize, hframe, hnonzero, hwhole⟩ := Project.checkCounts_eq_ok.1 hcounts
  have hpos : 0 < frameSize := Nat.pos_of_ne_zero hnonzero
  have hinputs : 0 < p.network.inputs := hwindow ▸ p.metadata.window_pos
  have hdvd : frameSize ∣ p.network.inputs := hwindow ▸ Nat.dvd_of_mod_eq_zero hwhole
  have hle : frameSize ≤ p.network.inputs := Nat.le_of_dvd hinputs hdvd
  refine ⟨frameSize, hframe, ?_⟩
  constructor
  case emitted =>
    intro d code hcode
    obtain ⟨other, hother, -, hemitted⟩ := exists_isEmitted hcode
    rwa [Except.ok.inj (hframe.symm.trans hother)]
  case defined =>
    intro d
    simp [Header.defines, Plan.inputSymbol]
  case windowFrames_pos =>
    rw [windowFrames_eq]
    exact_mod_cast Nat.div_pos hle hpos
  case windowFrames_mul =>
    rw [windowFrames_eq]
    exact_mod_cast Nat.div_mul_cancel hdvd
  case runs =>
    intro frames hframes
    exact exists_runs (sizesOf p frameSize) hpos hinputs hdvd hframes

/-- A window of two frames of colours. -/
theorem refines_window_twoFrames :
    Project.twoFrames.sensor.frameSize = .ok 5 ∧
      (sizesOf Project.twoFrames 5).windowFrames = 2 ∧ Refines Project.twoFrames 5 := by
  have hcheck : Project.twoFrames.check = .ok () := rfl
  obtain ⟨_, hvalidate⟩ := Project.twoFrames.runOn_validate {}
  have hvalid : (Job.runOn Project.twoFrames.validate {}).1 = .ok () := by rw [hvalidate, hcheck]
  obtain ⟨frameSize, hframe, hrefines⟩ := refines_window hvalid
  have hfive : Project.twoFrames.sensor.frameSize = .ok 5 := rfl
  obtain rfl : frameSize = 5 := Except.ok.inj (hframe.symm.trans hfive)
  exact ⟨hfive, rfl, hrefines⟩

end DenseSketch.Sampling
