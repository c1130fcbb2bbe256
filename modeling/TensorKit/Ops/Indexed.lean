import TensorKit.Ops.Layout

/-! # Operations by index -/
namespace TensorKit.Ops
open Engine
def indexData (indices : Tensor) : Eng (Array Int) := return (← numbers indices).map Number.wholePart

def gatherND (x indices : Tensor) : Op := inScope "gatherND" do
  runKernel [("$x",x),("$indices",indices)] none do
    if x.rank < 1 then fail s!"tf.gatherND() expects the input to be rank 1 or higher, but the rank was {x.rank}."
    if indices.rank < 1 then
      fail s!"tf.gatherND() expects the indices to be rank 1 or higher, but the rank was {indices.rank}."
    if indices.dtype != .int32 then
      fail s!"tf.gatherND() expects the indices to be int32 type, but the dtype was {indices.dtype.name}."
    let rank := indices.dim (indices.rank - 1)
    if x.rank < rank then fail s!"index innermost dimension length must be <= tensor rank; saw: {rank} vs. {x.rank}"
    if x.size == 0 then fail s!"Requested more than 0 entries, but input is empty. Input shape: {x.shape.text}."
    let rows : Shape := indices.shape.take (indices.rank - 1)
    let out := rows ++ x.shape.drop rank
    let vs ← Kernel.gatherSlices (← read x) (← indexData indices) rank rows.size
    return (← ofNumbers out x.dtype (vs.map x.dtype.store),[])

def requireUpdates (shape : Shape) (indices updates : Tensor) : Tried Unit := do
  let sliceDim := if 1 < indices.rank then indices.dim (indices.rank - 1) else 1
  let batchDim := if 1 < indices.rank then indices.rank - 1 else 1
  let start := "Must have updates.shape = indices.shape[:batchDim] + shape[sliceDim:], got updates.shape: " ++
    s!"{updates.shape.text}, indices.shape: {indices.shape.text}, shape: {shape.text}, sliceDim: {sliceDim}, and " ++
    s!"batchDim: {batchDim}."
  let bad rest : Tried Unit := .error (.failure (start ++ rest))
  if updates.rank < batchDim then bad s!" update.rank < {batchDim}. "
  if shape.length < sliceDim + (updates.rank - batchDim) then
    bad s!" Output shape length < {sliceDim + (updates.rank - batchDim)}"
  let rank : Int := batchDim + shape.length - sliceDim
  if updates.rank != rank then bad s!" update.rank != {rank}"
  for d in List.range batchDim do
    if updates.dim d != indices.dim d then
      bad s!" updates.shape[{d}] ({updates.dim d}) != indices.shape[{d}] ({indices.dim d})."
  for d in List.range (updates.rank - batchDim) do
    if updates.dim (d + batchDim) != shape.getD (d + sliceDim) 0 then
      let shown := (shape[d + batchDim]?).elim "undefined" toString
      bad s!" updates.shape[{d + batchDim}] ({updates.dim (d + batchDim)}) != shape[{d + batchDim}] ({shown})"

def scatterData (how : Kernel.Meeting) (indices updates : Tensor) (shape : Shape) (start : Float) : Op := do
  let rank := if 1 < indices.rank then indices.dim (indices.rank - 1) else 1
  let count := indices.size / max 1 rank
  let t := updates.dtype
  if shape.size == 0 then ofNumbers shape t #[]
  else
    let us ← numbers updates
    let sliceSize := Shape.size (shape.drop rank)
    let update (i k) :=
      if how == .replace && updates.rank == 0 then readAt us 0 else readAt us (i * sliceSize + k)
    let y ← Kernel.scatter t.store how (← indexData indices) rank count update start shape
    ofArray t y

def scatterND (indices updates : Tensor) (shape : Shape) : Op := inScope "scatterND" do
  if indices.rank < 1 then
    fail s!"tf.scatterND() expects the indices to be rank 1 or higher, but the rank was {indices.rank}."
  if updates.rank < 1 then
    fail s!"tf.scatterND() expects the updates to be rank 1 or higher, but the rank was {updates.rank}."
  if indices.dtype != .int32 then fail s!"The dtype of 'indices' should be int32, but got dtype: {indices.dtype.name}"
  if shape.isEmpty then fail s!"Output rank must be greater or equal to 1, but got shape: {shape.text}"
  requireUpdates shape indices updates
  runKernel [("$indices",indices),("$updates",updates)] none do return (← scatterData .sum indices updates shape 0,[])

def sparseToDense (indices values : Tensor) (shape : Shape) (default : Tensor) : Op :=
  inScope "sparseToDense" do
    if indices.dtype != .int32 then
      fail s!"tf.sparseToDense() expects the indices to be int32 type, but the dtype was {indices.dtype.name}."
    if 2 < indices.rank then
      fail s!"sparseIndices should be a scalar, vector, or matrix, but got shape {indices.shape.text}."
    let elems := if 0 < indices.rank then indices.dim 0 else 1
    let dims := if 1 < indices.rank then indices.dim 1 else 1
    if shape.length != dims then
      fail s!"outputShape has incorrect number of elements:, {shape.length}, should be: {dims}."
    if !(values.rank == 0 || values.rank == 1 && values.size == elems) then
      fail s!"sparseValues has incorrect shape {values.shape.text}, should be [] or [{elems}]"
    if values.dtype != default.dtype then fail "sparseValues.dtype must match defaultValues.dtype"
    runKernel [("$sparseIndices",indices),("$sparseValues",values),("$defaultValue",default)]
      none do
      let d ← numbers default
      return (← scatterData .replace indices values shape (readAt d 0),[])

def wherePlaces (condition : Tensor) : Op := do
  let vs ← numbers condition
  let places := (List.range vs.size).filter fun i => Number.truthy (readAt vs i)
  let rows := places.map condition.shape.coords
  ofNumbers [places.length,condition.rank] .int32 (rows.flatten.map .ofNat).toArray
def descending (vs : Floats) : List (Float × Nat) := vs.zipIdx.mergeSort fun a b => !(a.1 < b.1)

def topk (x : Tensor) (k : Int) : Eng (Tensor × Tensor) := inScope "topk" do
  if x.rank == 0 then fail "topk() expects the input to be of rank 1 or higher"
  let last := x.dim (x.rank - 1)
  if last < k then fail s!"'k' passed to topk() must be <= the last dimension ({last}) but got {k}"
  let k := k.toNat
  let ts ← runKernels [("$x",x)] none do
    requireReal [x] "topk"
    let vs ← numbers x
    let rows := if last == 0 then 0 else x.size / last
    let best := (List.range rows).flatMap fun r => (descending (Kernel.run vs last r)).take k
    let shape := x.shape.set (x.rank - 1) k
    let values ← ofNumbers shape x.dtype (best.map (·.1)).toArray
    let places ← ofNumbers shape .int32 (best.map (.ofNat ·.2)).toArray
    return ([values,places],[])
  let [a,b] := ts | fail "topk() expects the input to be of rank 1 or higher"
  return (a,b)

def unsortedSegmentSum (x segments : Tensor) (count : Nat) : Op := inScope "unsortedSegmentSum" do
  runKernel [("$x",x)] (some .segmentSum) do
    requireReal [x] "unsortedSegmentSum"
    let ids ← (List.range (x.rank - segments.rank)).foldlM (fun t i => expandDims t (.ofNat i + 1)) segments
    let sums ← (List.range count).mapM fun i => do
      let mask ← toFloat (← equal (← scalarOf .int32 (.ofNat i)) ids)
      let y ← mul mask x
      let n := y.dim 0
      let inner := Shape.size (y.shape.drop 1)
      let vs ← numbers y
      let t ← DType.upcast y.dtype .int32
      store t (.ofIndex (y.shape.drop 1) fun k => Kernel.sum ((List.range n).map fun r => readAt vs (r * inner + k)))
    return (← stack sums 0,[segments])

def setDifference (x y : Tensor) : Eng (Tensor × Tensor) := do
  if x.dtype != y.dtype then
    fail s!"x and y should have the same dtype, but got x ({x.dtype.name}) and y ({y.dtype.name})."
  if x.rank != 1 then fail s!"x should be 1D tensor, but got x ({x.shape.text})."
  if y.rank != 1 then fail s!"y should be 1D tensor, but got y ({y.shape.text})."
  let xs ← numbers x
  let ys ← numbers y
  let same (a b) := a == b || a.isNaN && b.isNaN
  let kept := xs.toList.zipIdx.filter fun (v,_) => !ys.any (same v)
  let values ← ofNumbers [kept.length] x.dtype (kept.map (·.1)).toArray
  let places ← ofNumbers [kept.length] .int32 (kept.map (.ofNat ·.2)).toArray
  return (values,places)
end TensorKit.Ops
