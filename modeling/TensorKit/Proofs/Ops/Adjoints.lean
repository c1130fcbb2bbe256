import Mathlib.Algebra.BigOperators.Ring.List
import TensorKit.Ops.Conv
import TensorKit.Proofs.Ops.Broadcasting
/-! # Adjoints of convolutions

A convolution and its two gradients find outputs, taps and inputs in three ways. Each is a sum over the triples in which
the tap of the window at the output lies on the input; over the rationals the sums are equal.
-/
namespace TensorKit.Kernel
open List
variable {β γ : Type}

variable (xs : List β) (ys : List γ) (w : Window)
theorem sum_comm (g : β → γ → ℚ) :
    (xs.map fun x => (ys.map (g x)).sum).sum = (ys.map fun y => (xs.map (g · y)).sum).sum :=
  Multiset.sum_map_sum_map (xs : Multiset β) (ys : Multiset γ)

theorem range_mul (d k : Nat) : range (d * k) = (range d).flatMap fun c => (range k).map (c * k + ·) := by
  induction d with
  | zero => simp
  | succ d ih => rw [Nat.succ_mul,range_add,ih,range_succ,flatMap_append,flatMap_singleton]

/-- The sum of the products of the elements at each place. -/
def dot (x y : NDArray ℚ) : ℚ := ((range x.shape.size).map fun i => x.item i * y.item i).sum

/-- The tap `t` of the window at output `y` lies on the input `x`. -/
abbrev Meets (a : Window.Axis) (y t x : Nat) : Prop := x + a.before = y * a.stride + t

variable {a : Window.Axis} {axes : List Window.Axis} {g : Nat × Nat → ℚ} (size : Window.Axis → ℤ)
  (found : Window.Axis → Nat → List (Nat × Nat))

/-- The sum over all locations of one kind and what is found for them on all axes. -/
def total (axes : List Window.Axis)
    (g : Nats → Nats → Nats → ℚ) : ℚ :=
  ((choices ((axes.map fun a => (size a).toNat).map range)).map fun loc =>
    ((choices ((axes.zip loc).map fun (a,i) => found a i)).map fun c => g loc (c.map (·.1)) (c.map (·.2))).sum).sum

variable {x f dy : NDArray ℚ} {w : Window}

end TensorKit.Kernel
