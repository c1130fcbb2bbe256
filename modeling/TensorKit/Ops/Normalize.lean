import TensorKit.Ops.Conv
import TensorKit.Ops.Reduce
/-! # Normalisation -/
namespace TensorKit.Ops
open Engine
variable (x : Tensor)
def asImages : Op :=
  if x.rank == 0 || x.rank == 1 then reshapeTo x [1,1,1,x.size]
  else if x.rank < 4 then reshapeTo x (List.replicate (4 - x.rank) 1 ++ x.shape)
  else pure x

def batchNorm (mean variance : Tensor) (offset scale : Option Tensor) (epsilon : Float) : Op := inScope "batchNorm" do
  if mean.rank != variance.rank then fail "Batch normalization gradient requires mean and variance to have equal ranks."
  if offset.any (·.rank != mean.rank) then
    fail "Batch normalization gradient requires mean and offset to have equal ranks."
  if scale.any (·.rank != mean.rank) then
    fail "Batch normalization gradient requires mean and scale to have equal ranks."
  let x4 ← asImages x
  let named n t := t.toList.map ((n,·))
  let inputs := [("$x",x),("$mean",mean),("$variance",variance)] ++ named "$scale" scale ++ named "$offset" offset
  let y ← runKernel inputs (some (.batchNorm epsilon)) do
    requireReal ([x4,mean,variance] ++ scale.toList ++ offset.toList) "batchNorm"
    let part t (v : Float) := t.elim (pure #[v]) numbers
    let y := Kernel.batchNorm (← numbers x4) (← numbers mean) (← numbers variance)
      (← part scale 1) (← part offset 0) epsilon
    return (← store .float32 ⟨x4.shape,y⟩,[x,mean,variance] ++ scale.toList)
  reshapeTo y x.shape

def batchNormOfRank (rank : Nat) (x mean variance : Tensor) (offset scale : Option Tensor)
    (epsilon : Float) : Op := inScope s!"batchNorm{rank}d" do
  let shown := if rank == 2 then 3 else rank
  if x.rank != rank then fail s!"Error in batchNorm{shown}D: x must be rank {shown} but got rank {x.rank}."
  let check what t := do
    if t.rank != rank && t.rank != 1 then
      fail s!"Error in batchNorm{rank}D: {what} must be rank {rank} or rank 1 but got rank {t.rank}."
  check "mean" mean
  check "variance" variance
  scale.forM (check "scale")
  offset.forM (check "offset")
  batchNorm x mean variance offset scale epsilon

def localResponseNormalization (radius : Float) (bias alpha beta : Float) :
    Op := inScope "localResponseNormalization" do
  if x.rank != 4 && x.rank != 3 then
    fail s!"Error in localResponseNormalization: x must be rank 3 or 4 but got\n               rank {x.rank}."
  if !Number.isWhole radius then
    fail s!"Error in localResponseNormalization: depthRadius must be an integer but got depthRadius {num radius}."
  let r := Number.wholePart radius
  let (x4,added) ← withBatch 4 x
  let y ← runKernel [("x4D",x4)] (some (.localResponse r bias alpha beta)) do
    requireReal [x4] "localResponseNormalization4D"
    let vs := Kernel.localResponse (← numbers x4) (x4.dim 3) r bias alpha beta
    let y ← store .float32 ⟨x4.shape,vs⟩
    return (y,[x4,y])
  dropBatch y added

def localResponseGradient (dy x y : Tensor) (radius : Int) (bias alpha beta : Float) : Op :=
  runKernel [] none do
    requireReal [dy] "LRNGrad"
    let vs := Kernel.localResponseGradient (← numbers dy) (← numbers x) (← numbers y) (dy.dim 3) radius bias alpha beta
    return (← ofNumbers dy.shape .float32 vs,[])
def lastAxis (what verb : String) (x : Tensor) (dim : Int) : Eng Int := do
  let last := (x.rank : Int) - 1
  let dim := if dim == -1 then last else dim
  if dim != last then
    fail s!"{what} along a non-last dimension is not yet supported. Logits was rank {x.rank} and {verb} was {dim}"
  return dim
def softmax (dim : Int) : Op := inScope "softmax" do
  let dim ← lastAxis "Softmax" "dim" x dim
  runKernel [("0",x)] (some (.softmax dim.toNat)) do
    let lse ← logSumExp x (some [dim]) true
    let y ← exp (← sub (← toFloat x) lse)
    return (y,[y])
def logSoftmax (axis : Int) : Op := inScope "logSoftmax" do
  let axis ← lastAxis "Log Softmax" "axis" x axis
  runKernel [("0",x)] (some (.logSoftmax axis.toNat)) do
    let shifted ← sub x (← max x (some [axis]) true)
    let y ← sub (← toFloat shifted) (← log (← sum (← exp shifted) (some [axis]) true))
    return (y,[y])

def movingAverage (v x decay : Tensor) (step : Option Tensor) (zeroDebias : Bool) : Op :=
  inScope "movingAverage" do
    if v.dtype != x.dtype then
      fail s!"The dtypes of the first({v.dtype.name}) and second({x.dtype.name}) input must match"
    if v.shape != x.shape then fail "Shape mismatch in v and x"
    let one ← scalar 1
    let update ← mul (← sub x v) (← sub one decay)
    let update ← if zeroDebias then do
        let some s := step | fail "When using zeroDebias: true, step is required."
        div update (← sub one (← pow decay s))
      else pure update
    add v update
end TensorKit.Ops
