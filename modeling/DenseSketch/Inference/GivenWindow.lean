import DenseSketch.Inference.Window
import DenseSketch.Document.Arithmetic
import DenseSketch.Tensor

/-!
# Windows of given sizes

The sizes of a window may be given as any plain values.  They are compared and divided as numbers
and shown as they were given; only the length of the buffer has to be a whole number.  It is the
window of the reference operations (SPEC_FULL, section 9.5).
-/

namespace DenseSketch

/-- A window of single-precision data with its sizes as they were given. -/
structure GivenWindow where
  size : Document
  frameSize : Document
  /-- The number of frames that fill the window. -/
  capacity : Quantity
  window : Window Datum

namespace GivenWindow

/-- Are the sizes positive and the window a whole number of frames?  The frame is looked at
    first. -/
def fits (size frameSize : Document) : Except Fault Bool := do
  if ← frameSize.isNotPositive then return false
  if ← size.isNotPositive then return false
  (← size.quantity).isMultiple (← frameSize.quantity)

/-- The content of a new window: zeros, or the initial values, as many as the window holds. -/
def contentOf (size initial : Document) : Except Fault (List Datum) := do
  if initial.isNull then return List.replicate (← size.wholeNumber).toNat .zero
  let values := (← Tensor.ofDocument initial).data
  if values.length = (← size.wholeNumber) then return values
  throw .badValue

/-- A new window.  The sizes are checked before the content is read. -/
def create (size frameSize initial : Document) : Except Fault GivenWindow := do
  if !(← fits size frameSize) then
    throw (.vector (.window size.shown frameSize.shown))
  let values ← contentOf size initial
  let step ← frameSize.quantity
  return {
    size := size
    frameSize := frameSize
    capacity := ← (← size.quantity).floorQuotient step
    window :=
      { size := values.length
        frameSize := (step.exact.truncate?.getD 0).toNat
        frames := 0
        values := values } }

def isFilled (w : GivenWindow) : Bool := Datum.le w.capacity.exact (.ofInt w.window.frames)

def push (w : GivenWindow) (frame : List Datum) : Except Fault GivenWindow :=
  if Document.same (.integer frame.length) w.frameSize then do
    return { w with window := ← w.window.push frame }
  else .error (.vector (.frame w.frameSize.shown frame.length))

end GivenWindow

end DenseSketch
