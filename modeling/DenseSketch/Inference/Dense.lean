import DenseSketch.Inference.Arithmetic
import DenseSketch.Tensor

/-!
# Dense layers applied to vectors

A vector times a matrix, one row of the matrix for each value of the vector, and a bias.  Flat
weights stand for the matrix with as many rows as the vector has values; a block with more axes is a
stack of matrices.  It is the dense operation of the reference (SPEC_FULL, section 9.5).
-/

namespace DenseSketch

variable {α : Type}

namespace Arithmetic

def addScaled (A : Arithmetic α) (sums : List α) (x : α) (row : List α) : List α :=
  List.zipWith (fun s w => A.add s (A.mul x w)) sums row

/-- A vector times a matrix of the given width, the rows added up from the first one on. -/
def vecMul (A : Arithmetic α) (width : Nat) (x : List α) (rows : List (List α)) : List α :=
  (List.zip x rows).foldl (fun sums p => A.addScaled sums p.1 p.2) (List.replicate width A.zero)

/-- The product of a vector with each matrix of a stack of `count`. -/
def stackMul (A : Arithmetic α) (height width : Nat) (x : List α) : Nat → List α → List α
  | 0, _ => []
  | count + 1, data =>
    A.vecMul width x (Block.rowsOf width height data) ++
      stackMul A height width x count (data.drop (height * width))

/-- Adds a bias to every row of a block.  A bias of one value serves all columns, and a single
    column is spread over the values of the bias. -/
def addBias (A : Arithmetic α) (y : Block α) (bias : List α) : Except Fault (Block α) :=
  match y.dims.getLast? with
  | none => .ok y
  | some width =>
    let count := Block.sizeOf y.dims.dropLast
    let rows := Block.rowsOf width count y.data
    if width = bias.length then
      .ok ⟨y.dims, rows.flatMap fun row => List.zipWith A.add row bias⟩
    else if width = 1 then
      .ok ⟨y.dims.dropLast ++ [bias.length],
        rows.flatMap fun row => row.flatMap fun v => bias.map (A.add v)⟩
    else
      match bias with
      | [b] => .ok ⟨y.dims, y.data.map fun v => A.add v b⟩
      | _ => .error .badValue

/-- Flat weights as a matrix with a row for each of `count` values. -/
def asMatrix (count : Nat) (w : Block α) : Except Fault (Block α) :=
  match w.dims with
  | [_] =>
    if count = 0 ∨ w.size % count ≠ 0 then .error .badValue
    else .ok ⟨[count, w.size / count], w.data⟩
  | _ => .ok w

def product (A : Arithmetic α) (x w : Block α) : Except Fault (Block α) := do
  let w ← asMatrix x.size w
  match w.dims with
  | [] => throw .outOfBounds
  | rows :: _ =>
    if rows ≠ x.size then throw (.vector (.rows x.size rows))
    match w.dims.reverse with
    | width :: height :: outer =>
      if height ≠ x.size then throw .badValue
      return ⟨outer.reverse ++ [width],
        A.stackMul height width x.data (Block.sizeOf outer) w.data⟩
    | _ => throw .badValue

def dense (A : Arithmetic α) (x w : Block α) (bias : Option (Block α)) :
    Except Fault (Block α) := do
  let y ← A.product x w
  match bias with
  | none => return y
  | some b => A.addBias y b.data

end Arithmetic

end DenseSketch
