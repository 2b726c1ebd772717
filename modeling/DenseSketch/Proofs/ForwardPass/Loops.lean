import DenseSketch.Inference.Activation
import DenseSketch.Plan
import DenseSketch.Proofs.List.Lookup
import DenseSketch.Proofs.List.Monadic
import Mathlib.Data.List.GetD

/-!
# The loops of a forward pass

How the steps of a plan are run, and what their loops compute.
-/

/-!
## Running a forward pass

The steps of a plan are run the way the sketch loops over them.  Buffers and flash tables are arrays
that are only found by the names which a step carries, and every element is read at a position that
has to lie inside its array: a run yields nothing as soon as a name is unknown or a position lies
outside.  How far the loops go is a parameter of a step: the counts that the step carries, or what
its symbols are defined as.
-/

namespace DenseSketch

variable {α σ : Type}

/-- Arrays by name. -/
abbrev Arrays (α : Type) := List (String × List α)

/-- The function that stands for an activation. -/
def Activation.apply (A : Arithmetic α) : Activation → α → α
  | .relu => A.relu
  | .sigmoid => A.sigmoid
  | .linear => id

namespace DenseStep

/-- The products that output `i` sums up, each as two positions: one in the input buffer and one in
    the weight table. -/
def products (inSize outSize i : Nat) : List (Nat × Nat) :=
  (List.range inSize).map fun j => (j, j * outSize + i)

/-- What the sum of output `i` starts at: the bias, or zero where there is none. -/
def start (A : Arithmetic α) (bias : Option (List α)) (i : Nat) : Option α :=
  match bias with
  | none => some A.zero
  | some b => b[i]?

/-- One output: the sum takes up one product after another before the activation is applied. -/
def cell (A : Arithmetic α) (step : DenseStep) (inSize outSize : Nat) (input weights : List α)
    (bias : Option (List α)) (i : Nat) : Option α := do
  let sum ← (products inSize outSize i).foldlM
    (fun sum p => do return A.add sum (A.mul (← input[p.1]?) (← weights[p.2]?)))
    (← start A bias i)
  return step.activation.apply A sum

/-- Fills the output buffer, one output after another. -/
def run (A : Arithmetic α) (tables : Arrays α) (inSize outSize : Nat) (step : DenseStep)
    (buffers : Arrays α) : Option (Arrays α) := do
  let weights ← lookup? step.weightTable tables
  let bias ← step.biasTable.mapM fun table => lookup? table tables
  let input ← lookup? step.inputBuffer buffers
  let output ← (List.range outSize).mapM (step.cell A inSize outSize input weights bias)
  return put step.outputBuffer output buffers

end DenseStep

/-- A loop over the first `size` values that replaces each one in place; a state goes along. -/
def replaceEach (size : Nat) (body : σ → α → α × σ) (values : List α) (state : σ) :
    Option (List α × σ) :=
  (List.range size).foldlM
    (fun found i => do
      let result := body found.2 (← found.1[i]?)
      return (found.1.set i result.1, result.2))
    (values, state)

namespace SoftmaxStep

/-- The largest of the first `size` values: only a strictly larger one takes over. -/
def largest (A : Arithmetic α) (size : Nat) (values : List α) : Option α := do
  let first ← values[0]?
  (List.range' 1 (size - 1)).foldlM
    (fun top i => do
      let value ← values[i]?
      return if A.lt top value then value else top)
    first

/-- Changes the buffer in place: exponentials of the distances to the largest value, then their
    parts of the total. -/
def run (A : Arithmetic α) (size : Nat) (step : SoftmaxStep) (buffers : Arrays α) :
    Option (Arrays α) := do
  let values ← lookup? step.buffer buffers
  let top ← largest A size values
  let (powers, total) ← replaceEach size
    (fun total value =>
      let power := A.exp (A.sub value top)
      (power, A.add total power))
    values A.zero
  let (parts, _) ← replaceEach size (fun state power => (A.div power total, state)) powers total
  return put step.buffer parts buffers

end SoftmaxStep

namespace Step

/-- Runs one step with the counts that it carries; a softmax takes up its whole buffer. -/
def run (A : Arithmetic α) (tables buffers : Arrays α) : Step → Option (Arrays α)
  | .dense step => step.run A tables step.inUnits step.outUnits buffers
  | .softmax step => do
    let values ← lookup? step.buffer buffers
    step.run A values.length buffers

/-- Runs one step with what its symbols are defined as. -/
def runDefined (A : Arithmetic α) (tables : Arrays α) (valueOf : String → Option Nat)
    (buffers : Arrays α) : Step → Option (Arrays α)
  | .dense step => do
    step.run A tables (← valueOf step.inSymbol) (← valueOf step.outSymbol) buffers
  | .softmax step => do
    step.run A (← valueOf step.sizeSymbol) buffers

end Step

namespace Plan

/-- Runs steps one after the other. -/
def run (A : Arithmetic α) (tables : Arrays α) (steps : List Step) (buffers : Arrays α) :
    Option (Arrays α) :=
  steps.foldlM (fun buffers step => step.run A tables buffers) buffers

/-- Runs steps one after the other, all sizes taken from their symbols. -/
def runDefined (A : Arithmetic α) (tables : Arrays α) (valueOf : String → Option Nat)
    (steps : List Step) (buffers : Arrays α) : Option (Arrays α) :=
  steps.foldlM (fun buffers step => step.runDefined A tables valueOf buffers) buffers

end Plan

/-- The flash tables of layers that are numbered from `index` on. -/
def Layer.flashTables (A : Arithmetic α) (index : Nat) (layer : Layer) : Arrays α :=
  (Table.tableName index .weights, layer.weights.map A.ofDatum) ::
    layer.bias.toList.map fun bias => (Table.tableName index .bias, bias.map A.ofDatum)

/-- The flash tables of a network, layer by layer. -/
def Network.flashTables (A : Arithmetic α) (net : Network) : Arrays α :=
  net.layers.zipIdx.flatMap fun entry => entry.1.flashTables A entry.2

end DenseSketch

/-!
## What the loops of a forward pass compute

As long as the arrays are as long as the loops go, every loop runs to its end.  A dense step then
fills its buffer with weighted sums, and a softmax step maps its buffer.
-/

namespace DenseSketch

variable {α σ : Type}

theorem getElem?_eq_some_getD {xs : List α} {i : Nat} (hi : i < xs.length) (default : α) :
    xs[i]? = some (xs.getD i default) := by
  rw [List.getD_eq_getElem xs default hi, List.getElem?_eq_getElem hi]

/-! ### Dense steps -/

namespace DenseStep

/-- The weights of a matrix lie row by row. -/
theorem position_lt {inSize outSize i j : Nat} (hi : i < outSize) (hj : j < inSize) :
    j * outSize + i < inSize * outSize := by
  calc j * outSize + i < j * outSize + outSize := by omega
    _ = (j + 1) * outSize := by rw [Nat.succ_mul]
    _ ≤ inSize * outSize := Nat.mul_le_mul_right _ hj

/-- The sum that an output takes up, products added one after another. -/
def sumFrom (A : Arithmetic α) (inSize outSize : Nat) (input weights : List α) (start : α)
    (i : Nat) : α :=
  (products inSize outSize i).foldl
    (fun sum p => A.add sum (A.mul (input.getD p.1 A.zero) (weights.getD p.2 A.zero))) start

/-- What a sum starts at. -/
def startAt (A : Arithmetic α) (bias : Option (List α)) (i : Nat) : α :=
  match bias with
  | none => A.zero
  | some b => b.getD i A.zero

theorem cell_eq_some (A : Arithmetic α) (step : DenseStep) {inSize outSize i : Nat}
    {input weights : List α} {bias : Option (List α)} (hinput : input.length = inSize)
    (hweights : weights.length = inSize * outSize) (hbias : ∀ b ∈ bias, b.length = outSize)
    (hi : i < outSize) :
    step.cell A inSize outSize input weights bias i =
      some (step.activation.apply A
        (sumFrom A inSize outSize input weights (startAt A bias i) i)) := by
  have hstart : start A bias i = some (startAt A bias i) := by
    cases bias with
    | none => rfl
    | some b => exact getElem?_eq_some_getD (by rw [hbias b rfl]; exact hi) A.zero
  have hterm : ∀ sum, ∀ p ∈ products inSize outSize i,
      (do return A.add sum (A.mul (← input[p.1]?) (← weights[p.2]?)) : Option α) =
        pure (A.add sum (A.mul (input.getD p.1 A.zero) (weights.getD p.2 A.zero))) := by
    intro sum p hp
    obtain ⟨j, hj, rfl⟩ := List.mem_map.1 hp
    rw [List.mem_range] at hj
    simp only [getElem?_eq_some_getD (hinput.symm ▸ hj) A.zero,
      getElem?_eq_some_getD (hweights.symm ▸ position_lt hi hj) A.zero]
    rfl
  have hsum := foldlM_eq_pure_foldl hterm (startAt A bias i)
  simp only [Option.bind_eq_bind, Option.pure_def] at hsum
  simp only [cell, hstart, Option.bind_eq_bind, Option.bind_some, Option.pure_def, hsum, sumFrom]

/-- A dense step whose arrays are all found and long enough fills its output buffer. -/
theorem run_eq_some (A : Arithmetic α) (step : DenseStep) {tables buffers : Arrays α}
    {inSize outSize : Nat} {input weights : List α} {bias : Option (List α)}
    (hfoundInput : lookup? step.inputBuffer buffers = some input)
    (hfoundWeights : lookup? step.weightTable tables = some weights)
    (hfoundBias : step.biasTable.mapM (fun table => lookup? table tables) = some bias)
    (hinput : input.length = inSize) (hweights : weights.length = inSize * outSize)
    (hbias : ∀ b ∈ bias, b.length = outSize) :
    step.run A tables inSize outSize buffers =
      some (put step.outputBuffer
        ((List.range outSize).map fun i => step.activation.apply A
          (sumFrom A inSize outSize input weights (startAt A bias i) i)) buffers) := by
  have hcells := mapM_eq_pure_map fun i hi =>
    cell_eq_some A step hinput hweights hbias (List.mem_range.1 hi)
  simp only [run, hfoundWeights, hfoundBias, hfoundInput, Option.bind_eq_bind, Option.bind_some,
    hcells, Option.pure_def]

end DenseStep

/-! ### Loops in place -/

/-- Replacing values one after the other maps them, and the state runs through all of them. -/
theorem replaceEach_length (value : α → α) (next : σ → α → σ) (values : List α) (state : σ) :
    replaceEach values.length (fun s x => (value x, next s x)) values state =
      some (values.map value, values.foldl next state) := by
  -- After `k` rounds the first `k` values are replaced, and the state has run through them.
  have hrounds : ∀ k ≤ values.length, replaceEach k (fun s x => (value x, next s x)) values state =
      some ((values.map value).take k ++ values.drop k, (values.take k).foldl next state) := by
    intro k hk
    induction k with
    | zero => simp [replaceEach]
    | succ k ih =>
      have hlt : k < values.length := hk
      have hdone : ((values.map value).take k).length = k := by simp [Nat.le_of_lt hlt]
      have hread : ((values.map value).take k ++ values.drop k)[k]? = some values[k] := by
        rw [List.getElem?_append_right (Nat.le_of_eq hdone), hdone]
        simp
      have hset : ((values.map value).take k ++ values.drop k).set k (value values[k]) =
          (values.map value).take (k + 1) ++ values.drop (k + 1) := by
        rw [List.set_append_right _ _ (Nat.le_of_eq hdone), hdone, Nat.sub_self,
          List.drop_eq_getElem_cons hlt, List.set_cons_zero,
          List.take_succ_eq_append_getElem (by simpa using hlt)]
        simp
      have hstate : next ((values.take k).foldl next state) values[k] =
          (values.take (k + 1)).foldl next state := by
        rw [List.take_succ_eq_append_getElem hlt, List.foldl_append]
        rfl
      have hprev := ih (Nat.le_of_lt hlt)
      unfold replaceEach at hprev ⊢
      rw [List.range_succ, List.foldlM_append, hprev]
      simp only [List.foldlM_cons, List.foldlM_nil, Option.bind_eq_bind, Option.bind_some, hread,
        Option.pure_def, hset, hstate]
  have hall := hrounds values.length (Nat.le_refl _)
  rwa [List.take_of_length_le (by simp), List.drop_length, List.append_nil, List.take_length]
    at hall

namespace SoftmaxStep

/-- The larger of two values as the scan for the largest one picks it. -/
def larger (A : Arithmetic α) (top value : α) : α := if A.lt top value then value else top

theorem largest_length (A : Arithmetic α) (first : α) (rest : List α) :
    largest A (first :: rest).length (first :: rest) = some (rest.foldl (larger A) first) := by
  have hscan : ∀ (before after : List α) (top : α),
      (List.range' before.length after.length).foldlM
        (fun top i => do
          let value ← (before ++ after)[i]?
          return if A.lt top value then value else top) top =
        some (after.foldl (larger A) top) := by
    intro before after
    induction after generalizing before with
    | nil => intro top; rfl
    | cons value after ih =>
      intro top
      have hnext := ih (before ++ [value]) (larger A top value)
      simp only [List.append_assoc, List.singleton_append, List.length_append,
        List.length_singleton] at hnext
      rw [List.length_cons, List.range'_succ, List.foldlM_cons, List.foldl_cons, ← hnext]
      simp [larger]
  have hrest := hscan [first] rest first
  simp only [largest, List.length_cons, Nat.add_sub_cancel, List.getElem?_cons_zero,
    Option.bind_eq_bind, Option.bind_some]
  exact hrest

/-- The values that a softmax step leaves. -/
def parts (A : Arithmetic α) (first : α) (rest : List α) : List α :=
  let top := rest.foldl (larger A) first
  let power (x : α) := A.exp (A.sub x top)
  let total := (first :: rest).foldl (fun sum x => A.add sum (power x)) A.zero
  (first :: rest).map fun x => A.div (power x) total

/-- A softmax step over the whole of a buffer that is not empty. -/
theorem run_eq_some (A : Arithmetic α) (step : SoftmaxStep) {buffers : Arrays α} {first : α}
    {rest : List α} (hfound : lookup? step.buffer buffers = some (first :: rest)) :
    step.run A (first :: rest).length buffers =
      some (put step.buffer (parts A first rest) buffers) := by
  have hpowers := replaceEach_length
    (fun x => A.exp (A.sub x (rest.foldl (larger A) first)))
    (fun sum x => A.add sum (A.exp (A.sub x (rest.foldl (larger A) first))))
    (first :: rest) A.zero
  have hparts := fun total : α => replaceEach_length (fun x => A.div x total)
    (fun (state : α) _ => state)
    ((first :: rest).map fun x => A.exp (A.sub x (rest.foldl (larger A) first))) total
  simp only [List.length_map] at hparts
  simp only [run, hfound, largest_length, Option.bind_eq_bind, Option.bind_some, hpowers, hparts,
    Option.pure_def, parts, List.map_map]
  rfl

end SoftmaxStep

end DenseSketch
