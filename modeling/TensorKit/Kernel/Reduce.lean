import TensorKit.Tensor.NDArray

/-! # Reductions, products and normalisation -/
namespace TensorKit.Kernel
open Scalar List Number

/-! ## Reductions

The reduced axes are the last ones, so every result comes from one run of neighbours in the buffer.
-/

section
variable {α : Type} [Scalar α]
def run (xs : Array α) (length i : Nat) : List α := (range length).map fun j => readAt xs (i * length + j)
@[specialize] def reduceRuns {β : Type} (xs : Array α) (count length : Nat) (f : List α → β) : Array β :=
  .ofFn fun i : Fin count => f (run xs length i.val)

variable (vs : List α)
def sum : α := vs.foldl (· + ·) zero
def prod : α := vs.foldl (· * ·) one
def minimum : α := vs.foldl (fun m v => if lt v m then v else m) (vs.headD missing)
def maximum : α := vs.foldl (fun m v => if lt m v then v else m) (vs.headD missing)
def all : α := vs.foldl (fun acc v => if truthy acc then v else acc) (vs.headD missing)
def any : α := vs.foldl (fun acc v => if truthy acc then acc else v) (vs.headD missing)
def argMin : Nat := (vs.zipIdx.foldl (fun acc (v,j) => if lt v acc.1 then (v,j) else acc) (vs.headD missing,0)).2
def argMax : Nat := (vs.zipIdx.foldl (fun acc (v,j) => if lt acc.1 v then (v,j) else acc) (vs.headD missing,0)).2
def prefixSums (store : α → α) (exclusive : Bool) : α → List α → List α
  | _, [] => []
  | acc, v :: vs =>
    let next := store (v + acc)
    (if exclusive then acc else next) :: prefixSums store exclusive next vs

def cumsum (store : α → α) (x : NDArray α) (exclusive reverse : Bool) : NDArray α :=
  let n := x.shape.getLastD 0
  let rows := if n == 0 then 0 else x.data.size / n
  let data := (range rows).flatMap fun i =>
    let vs := run x.data n i
    if reverse then (prefixSums store exclusive zero vs.reverse).reverse
    else prefixSums store exclusive zero vs
  ⟨x.shape,data.toArray⟩
end

/-! ## Matrix products

The running result is stored after every block of the shared dimension.
-/

section
def blockSize : Nat := 48
variable {α : Type} [Scalar α] (store : α → α) (f : Nat → α)
@[specialize] def blockSum (start stop : Nat) : α :=
  (range (stop - start)).foldl (fun acc k => acc + f (start + k)) zero
@[specialize] def blockedSum (n : Nat) : α :=
  (range ((n + blockSize - 1) / blockSize)).foldl (fun acc i =>
    store (acc + blockSum f (i * blockSize) (min ((i + 1) * blockSize) n))) zero

@[specialize] def matMul (a b : NDArray α) (transposeA transposeB : Bool) : NDArray α :=
  let dim x i := x.shape.getD i 0
  let shared := if transposeA then dim a 1 else dim a 2
  let left := if transposeA then dim a 2 else dim a 1
  let right := if transposeB then dim b 1 else dim b 2
  .ofCoords [dim a 0,left,right] fun loc =>
    let n := loc.getD 0 0
    let i := loc.getD 1 0
    let j := loc.getD 2 0
    blockedSum store (fun k =>
      (if transposeA then a.get [n,k,i] else a.get [n,i,k]) *
        (if transposeB then b.get [n,j,k] else b.get [n,k,j])) shared
end

/-! ## Normalisation kernels -/

def batchNorm (x mean variance scale offset : Array Float) (epsilon : Float) : Array Float :=
  let cyclic xs i := readAt xs (i % xs.size)
  x.mapIdx fun i v => cyclic offset i + (v - cyclic mean i) * cyclic scale i / (cyclic variance i + epsilon).sqrt
def neighbourhood (channels : Nat) (radius : Int) (c : Nat) : Nat × Nat :=
  ((max 0 (c - radius)).toNat,(min (c + radius) (channels - 1)).toNat)
def neighbourSquares (x : Array Float) (channels : Nat) (radius : Int) (k : Nat) : Float :=
  let c := k % channels
  let (lo,hi) := neighbourhood channels radius c
  (range (hi + 1 - lo)).foldl (fun acc j =>
    let z := readAt x (k - c + lo + j)
    acc + z * z) 0.0
def localResponse (x : Array Float) (channels : Nat) (radius : Int) (bias alpha beta : Float) : Array Float :=
  x.mapIdx fun k v => v * pow (bias + alpha * neighbourSquares x channels radius k) (-beta)

def localResponseGradient (dy x y : Array Float) (channels : Nat) (radius : Int)
    (bias alpha beta : Float) : Array Float :=
  let step out k : Array Float :=
    let c := k % channels
    let (lo,hi) := neighbourhood channels radius c
    let span := (range (hi + 1 - lo)).map fun j => k - c + lo + j
    let total := span.foldl (fun acc j => acc + pow (readAt x j) 2.0) 0.0
    let norm := alpha * total + bias
    span.foldl (fun out j =>
      let d := -2.0 * alpha * beta * readAt x j * readAt y k / norm
      let d := if k == j then d + pow norm (-beta) else d
      out.modify j fun old => toSingle (old + d * readAt dy k)) out
  (range dy.size).foldl step (.replicate dy.size 0.0)
end TensorKit.Kernel
