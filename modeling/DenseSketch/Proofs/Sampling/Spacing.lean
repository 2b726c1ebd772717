import DenseSketch.Proofs.Sampling.Window
import Mathlib.Data.List.Chain
import Mathlib.Data.List.Infix

/-!
# Tasks of the board are spaced

The clock of the board goes round every 2^32 milliseconds.  The difference of two of its readings is
still never more than the time between them, so a task that is due has been left alone for its whole
interval, however late the board looks at the clock.  The two intervals are those of SPEC_FULL,
section 4.2.
-/

namespace DenseSketch.Sampling

/-! ### The clock -/

theorem toNat_sub_le {t u : Nat} (htu : t ≤ u) :
    (BitVec.ofNat 32 u - BitVec.ofNat 32 t).toNat ≤ u - t := by
  have hsub : BitVec.ofNat 32 u - BitVec.ofNat 32 t = BitVec.ofNat 32 (u - t) := by
    apply BitVec.eq_of_toNat_eq
    simp only [BitVec.toNat_sub, BitVec.toNat_ofNat]
    omega
  rw [hsub, BitVec.toNat_ofNat]
  exact Nat.mod_le _ _

/-- An interval that fits 32 bits is kept by them; one below zero only grows. -/
theorem le_toNat_ofInt {interval : Int} (hfits : interval < 2 ^ 32) :
    interval ≤ (BitVec.ofInt 32 interval).toNat := by
  rw [BitVec.toNat_ofInt]
  omega

/-- Where the clock says that an interval has passed, it has. -/
theorem add_interval_le {interval : Int} {t u : Nat} (hfits : interval < 2 ^ 32) (htu : t ≤ u)
    (helapsed : BitVec.ofInt 32 interval ≤ BitVec.ofNat 32 u - BitVec.ofNat 32 t) :
    t + interval ≤ u := by
  have hinterval := le_toNat_ofInt hfits
  have hdifference := toNat_sub_le htu
  rw [BitVec.le_def] at helapsed
  omega

/-- One millisecond before the clock goes round to four behind it are five. -/
example : BitVec.ofNat 32 (2 ^ 32 + 4) - BitVec.ofNat 32 (2 ^ 32 - 1) = 5 := by decide

/-! ### What has happened -/

/-- When a task was done. -/
def times (task : Task) (trace : List Event) : List Nat :=
  trace.filterMap fun
    | .does other time => if other = task then some time else none
    | .pushes => none

/-- How many frames have been taken. -/
def taken (trace : List Event) : Nat := trace.count .pushes

section Trace

variable (task other : Task) (trace : List Event) (time : Nat)

@[simp]
theorem times_append_does :
    times task (trace ++ [.does other time]) =
      if other = task then times task trace ++ [time] else times task trace := by
  by_cases h : other = task <;> simp [times, h]

@[simp]
theorem times_append_pushes : times task (trace ++ [.pushes]) = times task trace := by
  simp [times]

@[simp]
theorem taken_append_does : taken (trace ++ [.does other time]) = taken trace := by
  simp [taken]

@[simp]
theorem taken_append_pushes : taken (trace ++ [.pushes]) = taken trace + 1 := by
  simp [taken]

end Trace

/-- Each time comes at least an interval behind the one before it. -/
def IsSpaced (interval : Int) (times : List Nat) : Prop :=
  times.IsChain fun t u : Nat => (t : Int) + interval ≤ u

/-- The tasks are spaced, and no prediction is made before the window is filled. -/
structure Spaced (sizes : Sizes) (intervals : Task → Int) (trace : List Event) : Prop where
  spaced : ∀ task, IsSpaced (intervals task) (times task trace)
  filled : ∀ front time, front ++ [.does .prediction time] <+: trace →
    sizes.windowFrames ≤ taken front

/-- What is known of the time that is kept for a task when the true time is `now`. -/
structure Keeps (interval : Int) (now : Nat) (last : BitVec 32) (times : List Nat) : Prop where
  last_eq : ∀ t ∈ times.getLast?, last = BitVec.ofNat 32 t
  last_le : ∀ t ∈ times.getLast?, t ≤ now
  spaced : IsSpaced interval times

section Keeps

variable {interval : Int} {now later : Nat} {last : BitVec 32} {times : List Nat}

theorem Keeps.mono (hkeeps : Keeps interval now last times) (hlater : now ≤ later) :
    Keeps interval later last times :=
  ⟨hkeeps.last_eq, fun t ht => (hkeeps.last_le t ht).trans hlater, hkeeps.spaced⟩

/-- A task that is due may be done. -/
theorem Keeps.append (hkeeps : Keeps interval now last times) (hfits : interval < 2 ^ 32)
    (hdue : BitVec.ofInt 32 interval ≤ BitVec.ofNat 32 now - last) :
    Keeps interval now (BitVec.ofNat 32 now) (times ++ [now]) := by
  constructor
  case last_eq => simp
  case last_le => simp
  case spaced =>
    refine List.isChain_append.2 ⟨hkeeps.spaced, List.isChain_singleton _, ?_⟩
    intro t ht u hu
    obtain rfl : now = u := by simpa using hu
    rw [hkeeps.last_eq t ht] at hdue
    exact add_interval_le hfits (hkeeps.last_le t ht) hdue

end Keeps

/-! ### One call -/

/-- The constants of a window and of two intervals. -/
def constants (sizes : Sizes) (intervals : Task → Int) : Constants :=
  { sizes with interval := fun task => BitVec.ofInt 32 (intervals task) }

/-- The board once it has done a task. -/
def Board.does (b : Board) (task : Task) (time : Nat) : Board :=
  { b with last := Function.update b.last task b.now, trace := b.trace ++ [.does task time] }

/-- The board once it has taken a frame. -/
def Board.took (b : Board) (memory : Memory) : Board :=
  { b with memory := memory, trace := b.trace ++ [.pushes] }

variable {c : Constants} {visit : Visit} {b : Board}

theorem run_sampleStage (c : Constants) (visit : Visit) (b : Board) :
    sampleStage.run c visit b =
      if c.interval .sample ≤ b.now - b.last .sample then
        match visit.frame with
        | none => some (b.does .sample visit.time)
        | some frame =>
          (push c.toSizes b.memory frame).map (b.does .sample visit.time).took
      else some b := by
  by_cases hdue : c.interval .sample ≤ b.now - b.last .sample
  · cases hframe : visit.frame with
    | none => simp [sampleStage, Statement.run, Due.holds, Action.run, hdue, hframe, Board.does]
    | some frame =>
      cases hpush : push c.toSizes b.memory frame <;>
        simp [sampleStage, Statement.run, Due.holds, Action.run, hdue, hframe, hpush, Board.does,
          Board.took]
  · simp [sampleStage, Statement.run, Due.holds, hdue]

theorem run_predictionStage (c : Constants) (visit : Visit) (b : Board) :
    predictionStage.run c visit b =
      if b.memory.filled ∧ c.interval .prediction ≤ b.now - b.last .prediction then
        some (b.does .prediction visit.time)
      else some b := by
  by_cases hdue : b.memory.filled ∧ c.interval .prediction ≤ b.now - b.last .prediction
  · simp [predictionStage, Statement.run, Due.holds, Action.run, hdue.1, hdue.2, Board.does]
  · rw [if_neg hdue, predictionStage, Statement.run, if_neg (by simpa [Due.holds] using hdue)]

/-- A call looks at the clock, then at what is due for a sample, then at what is due for a
    prediction. -/
theorem process_eq (c : Constants) (b : Board) (visit : Visit) :
    process c b visit =
      (sampleStage.run c visit { b with now := BitVec.ofNat 32 visit.time }).bind
        (predictionStage.run c visit) := by
  have hclock : Statement.run c visit b .readClock =
      some { b with now := BitVec.ofNat 32 visit.time } := rfl
  have hblank : ∀ b : Board, Statement.run c visit b .blank = some b := fun _ => rfl
  simp only [process, processing, List.foldlM_cons, List.foldlM_nil, hclock, hblank,
    Option.bind_eq_bind, Option.bind_some, Option.pure_def, Option.bind_fun_some]

/-! ### What a call preserves -/

variable {sizes : Sizes} {intervals : Task → Int} {now later : Nat} {task : Task}

/-- What holds of a board when the true time is `now`. -/
structure Regular (sizes : Sizes) (intervals : Task → Int) (now : Nat) (b : Board) : Prop where
  keeps : ∀ task, Keeps (intervals task) now (b.last task) (times task b.trace)
  collected : b.memory.collected ≤ taken b.trace
  filled : b.memory.filled → sizes.windowFrames ≤ taken b.trace
  predicted : ∀ front time, front ++ [.does .prediction time] <+: b.trace →
    sizes.windowFrames ≤ taken front

theorem Regular.mono (hb : Regular sizes intervals now b) (hlater : now ≤ later) :
    Regular sizes intervals later b :=
  { hb with keeps := fun task => (hb.keeps task).mono hlater }

theorem Regular.look (hb : Regular sizes intervals now b) (reading : BitVec 32) :
    Regular sizes intervals now { b with now := reading } :=
  { hb with }

/-- What is seen of the latch behind one more frame. -/
theorem counts_of_push {s t : Memory} {frame : List Datum} (hpush : push sizes s frame = some t) :
    t.collected ≤ s.collected + 1 ∧
      (t.filled → s.filled ∨ sizes.windowFrames ≤ s.collected + 1) := by
  obtain ⟨_, _, -, -, rfl⟩ := push_eq_some_iff.1 hpush
  rw [Memory.latched]
  split
  · next hfilled => exact ⟨by simp, fun _ => .inl hfilled⟩
  · next hfilled =>
    split
    · next henough => exact ⟨le_rfl, fun _ => .inr henough⟩
    · exact ⟨le_rfl, fun h => absurd h hfilled⟩

theorem Regular.took {memory : Memory} {frame : List Datum} (hb : Regular sizes intervals now b)
    (hpush : push sizes b.memory frame = some memory) :
    Regular sizes intervals now (b.took memory) := by
  obtain ⟨hcollected, hfilled⟩ := counts_of_push hpush
  have hbefore := hb.collected
  constructor
  case keeps =>
    intro task
    simpa [Board.took] using hb.keeps task
  case collected =>
    simp only [Board.took, taken_append_pushes]
    push_cast
    omega
  case filled =>
    intro h
    simp only [Board.took, taken_append_pushes]
    push_cast
    rcases hfilled h with hthen | henough
    · have hold := hb.filled hthen
      omega
    · omega
  case predicted =>
    intro front time hfront
    rcases List.prefix_concat_iff.1 hfront with heq | hprefix
    · cases List.append_inj_right' heq rfl
    · exact hb.predicted front time hprefix

/-- A task that is due may be done; a prediction needs a window that is filled. -/
theorem Regular.does (hb : Regular sizes intervals now b) (hclock : b.now = BitVec.ofNat 32 now)
    (hfits : intervals task < 2 ^ 32)
    (hdue : BitVec.ofInt 32 (intervals task) ≤ b.now - b.last task)
    (hfilled : task = .prediction → b.memory.filled) :
    Regular sizes intervals now (b.does task now) := by
  constructor
  case keeps =>
    intro other
    by_cases hother : task = other
    · subst hother
      rw [hclock] at hdue
      simpa [Board.does, hclock] using (hb.keeps task).append hfits hdue
    · simpa [Board.does, hother, Function.update_of_ne (Ne.symm hother)] using hb.keeps other
  case collected => simpa [Board.does] using hb.collected
  case filled => simpa [Board.does] using hb.filled
  case predicted =>
    intro front time hfront
    rcases List.prefix_concat_iff.1 hfront with heq | hprefix
    · obtain ⟨rfl, hevent⟩ := List.append_inj' heq rfl
      cases hevent
      exact hb.filled (hfilled rfl)
    · exact hb.predicted front time hprefix

/-- One call. -/
theorem Regular.process {t : Board} (hb : Regular sizes intervals now b)
    (hfits : ∀ task, intervals task < 2 ^ 32) (hlater : now ≤ visit.time)
    (hrun : process (constants sizes intervals) b visit = some t) :
    Regular sizes intervals visit.time t := by
  have hstart := (hb.mono hlater).look (BitVec.ofNat 32 visit.time)
  rw [process_eq, Option.bind_eq_some_iff] at hrun
  obtain ⟨u, hsample, hprediction⟩ := hrun
  have hmiddle : Regular sizes intervals visit.time u ∧ u.now = BitVec.ofNat 32 visit.time := by
    rw [run_sampleStage] at hsample
    split at hsample
    · next hdue =>
      have hdone := hstart.does rfl (hfits .sample) hdue (by simp)
      split at hsample
      · rw [Option.some.injEq] at hsample
        subst hsample
        exact ⟨hdone, rfl⟩
      · rw [Option.map_eq_some_iff] at hsample
        obtain ⟨memory, hpush, rfl⟩ := hsample
        exact ⟨hdone.took hpush, rfl⟩
    · rw [Option.some.injEq] at hsample
      subst hsample
      exact ⟨hstart, rfl⟩
  obtain ⟨hu, hclock⟩ := hmiddle
  rw [run_predictionStage] at hprediction
  split at hprediction
  · next hdue =>
    rw [Option.some.injEq] at hprediction
    subst hprediction
    exact hu.does hclock (hfits .prediction) hdue.2 fun _ => hdue.1
  · rw [Option.some.injEq] at hprediction
    subst hprediction
    exact hu

/-! ### Runs -/

theorem regular_initial (sizes : Sizes) (intervals : Task → Int) :
    Regular sizes intervals 0 (.initial (constants sizes intervals)) := by
  constructor
  case keeps =>
    intro task
    exact ⟨by simp [Board.initial, times], by simp [Board.initial, times], .nil⟩
  case collected => exact le_rfl
  case filled => exact fun h => absurd h Bool.false_ne_true
  case predicted =>
    intro front time hfront
    simp [Board.initial] at hfront

/-- Calls in the order of time. -/
theorem Regular.run {visits : List Visit} {t : Board} (hb : Regular sizes intervals now b)
    (hfits : ∀ task, intervals task < 2 ^ 32) (hlater : ∀ visit ∈ visits, now ≤ visit.time)
    (hordered : visits.Pairwise fun v w => v.time ≤ w.time)
    (hrun : visits.foldlM (Sampling.process (constants sizes intervals)) b = some t) :
    ∃ final, Regular sizes intervals final t := by
  induction visits generalizing b now with
  | nil =>
    obtain rfl : b = t := Option.some.inj hrun
    exact ⟨now, hb⟩
  | cons visit rest ih =>
    rw [List.foldlM_cons, Option.bind_eq_bind, Option.bind_eq_some_iff] at hrun
    obtain ⟨next, hprocess, hrest⟩ := hrun
    rw [List.pairwise_cons] at hordered
    exact ih (hb.process hfits (hlater visit (List.mem_cons_self ..)) hprocess) hordered.1
      hordered.2 hrest

/-- Taking a frame of the right size leaves the length of the buffer as it is. -/
theorem exists_push {s : Memory} {frame : List Datum} (hbuffer : s.buffer.length = sizes.sample)
    (hle : sizes.frame ≤ sizes.sample) (hframe : frame.length = sizes.frame) :
    ∃ t, push sizes s frame = some t ∧ t.buffer.length = sizes.sample := by
  refine ⟨_, push_eq_some hbuffer hle hframe, ?_⟩
  have hlength : (s.buffer.drop sizes.frame ++ frame).length = sizes.sample := by
    rw [List.length_append, List.length_drop]
    omega
  rw [Memory.latched]
  split_ifs <;> exact hlength

/-- No call leaves an array, as long as the sensor gives frames of the right size and there is room
    for one. -/
theorem exists_process (intervals : Task → Int) (hbuffer : b.memory.buffer.length = sizes.sample)
    (hle : sizes.frame ≤ sizes.sample)
    (hframe : ∀ frame ∈ visit.frame, frame.length = sizes.frame) :
    ∃ t, process (constants sizes intervals) b visit = some t ∧
      t.memory.buffer.length = sizes.sample := by
  obtain ⟨u, hsample, hu⟩ : ∃ u, sampleStage.run (constants sizes intervals) visit
      { b with now := BitVec.ofNat 32 visit.time } = some u ∧
        u.memory.buffer.length = sizes.sample := by
    rw [run_sampleStage]
    split
    · cases hvisit : visit.frame with
      | none => exact ⟨_, rfl, hbuffer⟩
      | some frame =>
        obtain ⟨memory, hpush, hmemory⟩ := exists_push hbuffer hle (hframe frame hvisit)
        exact ⟨_, Option.map_eq_some_iff.2 ⟨memory, hpush, rfl⟩, hmemory⟩
    · exact ⟨_, rfl, hbuffer⟩
  rw [process_eq, hsample, Option.bind_some, run_predictionStage]
  split
  · exact ⟨_, rfl, hu⟩
  · exact ⟨_, rfl, hu⟩

theorem exists_run {visits : List Visit} (hbuffer : b.memory.buffer.length = sizes.sample)
    (hle : sizes.frame ≤ sizes.sample)
    (hframes : ∀ visit ∈ visits, ∀ frame ∈ visit.frame, frame.length = sizes.frame) :
    ∃ t, visits.foldlM (process (constants sizes intervals)) b = some t := by
  induction visits generalizing b with
  | nil => exact ⟨b, rfl⟩
  | cons visit rest ih =>
    obtain ⟨next, hprocess, hnext⟩ := exists_process intervals hbuffer hle
      (hframes visit (List.mem_cons_self ..))
    obtain ⟨t, hrest⟩ := ih hnext fun other hother => hframes other (List.mem_cons_of_mem _ hother)
    exact ⟨t, by rw [List.foldlM_cons, hprocess, Option.bind_eq_bind, Option.bind_some, hrest]⟩

/-! ### Sketches -/

/-- The intervals of a project. -/
def intervalsOf (p : Project) : Task → Int
  | .sample => p.sampleInterval
  | .prediction => p.predictionInterval

/-- The calls of a sketch keep their distance. -/
structure KeepsDistance (p : Project) (frameSize : Nat) (code : Code) : Prop where
  emitted : IsEmitted p frameSize code
  defined : ∀ d, ("INPUT_SIZE", p.network.inputs) ∈ Header.defines p d
  /-- There is a result for all frames of the sensor that fit the window. -/
  runs : frameSize ≤ p.network.inputs → ∀ visits : List Visit,
    (∀ visit ∈ visits, ∀ frame ∈ visit.frame, frame.length = frameSize) →
      ∃ b, visits.foldlM (process (constants (sizesOf p frameSize) (intervalsOf p)))
        (.initial (constants (sizesOf p frameSize) (intervalsOf p))) = some b
  spaced : ∀ visits : List Visit, visits.Pairwise (fun v w => v.time ≤ w.time) →
    ∀ b, visits.foldlM (process (constants (sizesOf p frameSize) (intervalsOf p)))
        (.initial (constants (sizesOf p frameSize) (intervalsOf p))) = some b →
      Spaced (sizesOf p frameSize) (intervalsOf p) b.trace

/-- **The tasks of a sketch keep their distance.**  For every sketch whose intervals are below 2^32
    milliseconds, and whenever and however often its function is called, whether the sensor is ready
    or not: no prediction is made before as many frames have been taken as fill the window, and from
    one prediction to the next, as from one attempt to take a sample to the next, at least the
    interval of the task passes. -/
theorem sketch_keeps_distance {p : Project} {d : Draft} {code : Code}
    (hcode : p.sketchCode d = .ok code) (hsample : p.sampleInterval < 2 ^ 32)
    (hprediction : p.predictionInterval < 2 ^ 32) :
    ∃ frameSize, p.sensor.frameSize = .ok frameSize ∧ 0 < frameSize ∧
      KeepsDistance p frameSize code := by
  obtain ⟨frameSize, hframe, hpos, hemitted⟩ := exists_isEmitted hcode
  have hfits : ∀ task, intervalsOf p task < 2 ^ 32 := by
    intro task
    cases task with
    | sample => exact hsample
    | prediction => exact hprediction
  refine ⟨frameSize, hframe, hpos, ?_⟩
  constructor
  case emitted => exact hemitted
  case defined =>
    intro d
    simp [Header.defines, Plan.inputSymbol]
  case runs =>
    intro hle visits hframes
    exact exists_run (by simp [Board.initial, Memory.initial, constants]) hle hframes
  case spaced =>
    intro visits hordered b hrun
    obtain ⟨final, hfinal⟩ :=
      (regular_initial _ _).run hfits (fun _ _ => Nat.zero_le _) hordered hrun
    exact ⟨fun task => (hfinal.keeps task).spaced, hfinal.predicted⟩

/-- A window of two frames, sampled every 20 and predicted every 100 milliseconds. -/
theorem sketch_keeps_distance_twoFrames :
    ∃ code, Project.twoFrames.sketchCode {} = .ok code ∧
      Project.twoFrames.sampleInterval < 2 ^ 32 ∧ Project.twoFrames.predictionInterval < 2 ^ 32 ∧
      KeepsDistance Project.twoFrames 5 code := by
  obtain ⟨code, hcode⟩ : ∃ code, Project.twoFrames.sketchCode {} = .ok code := ⟨_, rfl⟩
  have hsample : Project.twoFrames.sampleInterval < 2 ^ 32 := by decide
  have hprediction : Project.twoFrames.predictionInterval < 2 ^ 32 := by decide
  obtain ⟨frameSize, hframe, -, hkeeps⟩ := sketch_keeps_distance hcode hsample hprediction
  have hfive : Project.twoFrames.sensor.frameSize = .ok 5 := rfl
  obtain rfl : frameSize = 5 := Except.ok.inj (hframe.symm.trans hfive)
  exact ⟨code, hcode, hsample, hprediction, hkeeps⟩

end DenseSketch.Sampling
