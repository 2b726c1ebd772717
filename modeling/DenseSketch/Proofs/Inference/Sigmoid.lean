import DenseSketch.Inference.Activation
import Mathlib.Tactic.Common

/-!
# The sign of the logistic function

Rounding keeps signs, so sums and quotients of data without a sign have none, and neither has a
value of the logistic function.
-/

namespace DenseSketch

namespace Format

variable (f : Format)

theorem isNegative_nearest (s : Bool) (num den : Nat) : (f.nearest s num den).isNegative = s := by
  unfold nearest
  split
  · rfl
  · dsimp only
    split
    · rfl
    · unfold Datum.ofDyadic
      split <;> rfl

variable {f} {a b : Datum}

theorem isNegative_add (ha : a.isNegative = false) (hb : b.isNegative = false) :
    (f.add a b).isNegative = false := by
  match a, b with
  | .nan, _ => rfl
  | .infinite _, .nan => rfl
  | .finite .., .nan => rfl
  | .infinite false, .infinite false => rfl
  | .infinite false, .finite .. => rfl
  | .finite .., .infinite false => rfl
  | .finite false m e, .finite false n g =>
    have hsum : ¬ (Datum.scaled false m e (min e g) + Datum.scaled false n g (min e g) < 0) := by
      simp only [Datum.scaled, Bool.false_eq_true, if_false]
      omega
    simp only [add]
    split
    · rfl
    · rw [ofDyadic, isNegative_nearest, decide_eq_false hsum]

theorem isNegative_div (ha : a.isNegative = false) (hb : b.isNegative = false) :
    (f.div a b).isNegative = false := by
  match a, b with
  | .nan, _ => rfl
  | .infinite _, .nan => rfl
  | .finite .., .nan => rfl
  | .infinite _, .infinite _ => rfl
  | .infinite false, .finite false .. => rfl
  | .finite false .., .infinite false => rfl
  | .finite false m e, .finite false n g =>
    simp only [div]
    split
    · split <;> rfl
    · rw [isNegative_nearest]
      rfl

end Format

namespace Arithmetic

/-- Whatever stands for the exponential, as long as it has no sign the logistic function has none. -/
theorem isNegative_sigmoid {exp : Datum → Datum} (hexp : ∀ x, (exp x).isNegative = false)
    (x : Datum) : (sigmoid { binary32 with exp := exp } x).isNegative = false :=
  Format.isNegative_div rfl (Format.isNegative_add rfl (hexp _))

end Arithmetic

end DenseSketch
