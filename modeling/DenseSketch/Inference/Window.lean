import DenseSketch.Fault

/-!
# Sliding windows

A window keeps the most recent frames of a sensor in one flat buffer, oldest frame first.  A new
frame pushes the oldest one out.  It is the input buffer of SPEC_FULL, section 4.2, with the sizes
of a checked project.
-/

namespace DenseSketch

variable {α : Type}

/-- The buffer moved left by the length of a frame, and the frame behind it. -/
def slide (buffer frame : List α) : Except Fault (List α) :=
  if frame.length = 0 ∨ buffer.length < frame.length then
    .error (.vector (.slide frame.length buffer.length))
  else .ok (buffer.drop frame.length ++ frame)

/-- A window of whole frames and the number of frames that it has taken. -/
structure Window (α : Type) where
  size : Nat
  frameSize : Nat
  frames : Nat
  values : List α

namespace Window

def fits (size frameSize : Int) : Bool :=
  0 < frameSize && 0 < size && size % frameSize == 0

def create (size frameSize : Int) (initial : List α) : Except Fault (Window α) :=
  if fits size frameSize then
    if initial.length = size.toNat then
      .ok ⟨size.toNat, frameSize.toNat, 0, initial⟩
    else .error .badValue
  else .error (.vector (.window (toString size) (toString frameSize)))

def filledWith (value : α) (size frameSize : Int) : Except Fault (Window α) :=
  create size frameSize (List.replicate size.toNat value)

def capacity (w : Window α) : Nat := w.size / w.frameSize

def isFilled (w : Window α) : Bool := w.capacity ≤ w.frames

def push (w : Window α) (frame : List α) : Except Fault (Window α) :=
  if frame.length ≠ w.frameSize then .error (.vector (.frame (toString w.frameSize) frame.length))
  else do
    let values ← slide w.values frame
    return { w with frames := w.frames + 1, values := values }

end Window

end DenseSketch
