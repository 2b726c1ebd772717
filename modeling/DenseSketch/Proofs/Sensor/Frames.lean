import DenseSketch.Sensor
import Mathlib.Data.List.Basic
import Mathlib.Logic.Relator

/-!
# Flat frames

A sensor reads a raw frame in two steps: the frame becomes a tensor, and the tensor is brought into
the range of the network.  The normalization of motion works value by value and keeps a flat frame of
any length.  The normalization of colours writes five values: it needs a fifth one, and it does not
look at any that come behind.
-/

namespace DenseSketch

namespace Normalization

/-- The values of a flat frame in the range of the network. -/
def values : Normalization → List Datum → List Datum
  | .motion, xs => xs.map motionValue
  | .color, xs => (xs.take 4).map colorValue ++ ((xs.drop 4).take 1).map proximityValue

/-- The values that a flat frame needs to have. -/
def needed : Normalization → Nat
  | .motion => 0
  | .color => 5

/-- The length of a flat frame of `count` values after the normalization. -/
def kept : Normalization → Nat → Nat
  | .motion, count => count
  | .color, _ => 5

variable {normalization : Normalization} {xs : List Datum}

/-- A list of at least five values, taken apart. -/
theorem exists_eq_cons_of_five_le {α : Type} {xs : List α} (h : 5 ≤ xs.length) :
    ∃ a b c d e rest, xs = a :: b :: c :: d :: e :: rest := by
  match xs, h with
  | a :: b :: c :: d :: e :: rest, _ => exact ⟨a, b, c, d, e, rest, rfl⟩

theorem apply_vector (hneeded : normalization.needed ≤ xs.length) :
    normalization.apply (.vector xs) = .ok (.vector (normalization.values xs)) := by
  cases normalization with
  | motion => simp [apply, values, Block.vector]
  | color =>
    obtain ⟨a, b, c, d, e, rest, rfl⟩ := exists_eq_cons_of_five_le hneeded
    rfl

/-- A frame that is too short has no normalized values. -/
theorem apply_vector_of_lt (hshort : xs.length < normalization.needed) :
    ∃ fault, normalization.apply (.vector xs) = .error fault := by
  cases normalization with
  | motion => exact absurd hshort (Nat.not_lt_zero _)
  | color =>
    -- A single value and four values fail at the missing fifth one, the others at the first four.
    match xs, hshort with
    | [], _ | [_, _], _ | [_, _, _], _ => exact ⟨.badValue, rfl⟩
    | [_], _ | [_, _, _, _], _ => exact ⟨.outOfBounds, rfl⟩

theorem length_values (hneeded : normalization.needed ≤ xs.length) :
    (normalization.values xs).length = normalization.kept xs.length := by
  cases normalization with
  | motion => exact List.length_map _
  | color =>
    obtain ⟨a, b, c, d, e, rest, rfl⟩ := exists_eq_cons_of_five_le hneeded
    rfl

/-- Nothing behind the fifth value has any effect on colours. -/
theorem values_color_take (xs : List Datum) : color.values (xs.take 5) = color.values xs := by
  simp only [values, List.take_take, List.drop_take]
  rfl

end Normalization

/-! ### Readings -/

/-- A raw frame of `size` values, with these values in single precision. -/
def IsRawFrame (size : Nat) (frame : Document) (xs : List Datum) : Prop :=
  Tensor.ofDocument frame = .ok (.vector xs) ∧ xs.length = size

theorem IsRawFrame.rightUnique {size : Nat} : Relator.RightUnique (IsRawFrame size) := by
  rintro frame xs ys ⟨hxs, -⟩ ⟨hys, -⟩
  have hvector := Except.ok.inj (hxs.symm.trans hys)
  exact congrArg Block.data hvector

namespace Sensor

/-- What the sensor makes of a raw frame: its values in the range of the network. -/
def reading (sensor : Sensor) (frame : Document) : Except Fault (List Datum) := do
  return (← sensor.normalization.apply (← Tensor.ofDocument frame)).data

variable {sensor : Sensor} {size : Nat} {frame : Document} {xs : List Datum}

theorem reading_of_vector (hframe : Tensor.ofDocument frame = .ok (.vector xs))
    (hneeded : sensor.normalization.needed ≤ xs.length) :
    sensor.reading frame = .ok (sensor.normalization.values xs) := by
  simp only [reading, hframe, Normalization.apply_vector hneeded, bind, Except.bind]
  rfl

theorem reading_of_vector_of_lt (hframe : Tensor.ofDocument frame = .ok (.vector xs))
    (hshort : xs.length < sensor.normalization.needed) :
    ∃ fault, sensor.reading frame = .error fault := by
  obtain ⟨fault, hfault⟩ := Normalization.apply_vector_of_lt hshort
  refine ⟨fault, ?_⟩
  simp only [reading, hframe, hfault, bind, Except.bind]

/-- The frames of the sensor have `size` values, which its normalization takes and keeps. -/
structure ReadsFrames (sensor : Sensor) (size : Nat) : Prop where
  frameSize : sensor.frameSize = .ok size
  takes : sensor.normalization.needed ≤ size
  keeps : sensor.normalization.kept size = size

theorem ReadsFrames.eq_five (hsensor : sensor.ReadsFrames size)
    (hcolor : sensor.normalization = .color) : size = 5 := by
  have hkeeps := hsensor.keeps
  rw [hcolor] at hkeeps
  exact hkeeps.symm

/-- The sensor reads the frame as these values, `size` of them. -/
def Reads (sensor : Sensor) (size : Nat) (frame : Document) (values : List Datum) : Prop :=
  sensor.reading frame = .ok values ∧ values.length = size

theorem ReadsFrames.reads (hsensor : sensor.ReadsFrames size) (hframe : IsRawFrame size frame xs) :
    sensor.Reads size frame (sensor.normalization.values xs) := by
  obtain ⟨htensor, hlength⟩ := hframe
  have hneeded : sensor.normalization.needed ≤ xs.length := hlength ▸ hsensor.takes
  refine ⟨reading_of_vector htensor hneeded, ?_⟩
  rw [Normalization.length_values hneeded, hlength, hsensor.keeps]

theorem readsFrames_of_mem_registry {name : String} (hsensor : (name, sensor) ∈ registry)
    (hsize : sensor.frameSize = .ok size) : sensor.ReadsFrames size := by
  simp only [registry, List.mem_cons, Prod.mk.injEq, List.not_mem_nil, or_false] at hsensor
  rcases hsensor with ⟨-, rfl⟩ | ⟨-, rfl⟩
  · cases hsize
    exact ⟨rfl, Nat.le_refl 5, rfl⟩
  · cases hsize
    exact ⟨rfl, Nat.zero_le _, rfl⟩

end Sensor

end DenseSketch
