import TensorKit.Ops.Elementwise
import TensorKit.Kernel.Reduce

/-! # Operations that move elements -/
namespace TensorKit.Ops
open Engine List Number
def transpose (x : Tensor) (perm : Option Ints) : Op := inScope "transpose" do
  let perm := perm.getD ((List.range x.rank).reverse.map .ofNat)
  if x.rank != perm.length then
    fail s!"Error in transpose: rank of input {x.rank} must match length of perm {intsText perm}."
  if perm.any fun a => a < 0 || x.rank ≤ a then
    fail s!"All entries in 'perm' must be between 0 and {(x.rank : Int) - 1} but got {intsText perm}"
  let p := perm.map Int.toNat
  if x.rank ≤ 1 then clone x
  else kernel1 x (some (.transpose p)) do
    requireReal [x] "transpose"
    move x (Kernel.transpose · p)

variable (x : Tensor) (shape : Shape) (block : Nats) (xs : Tensors)
abbrev transposeBy (perm : Nats) : Op := transpose x (some (nat perm))
variable (mask : Nat) (axis : Nat) (paddings : List (Int × Int)) (start size : Ints) (shapes : List Shape)
  (given : Ints)
def isContiguous : Shape → Ints → Ints → Bool
  | _ :: shape, _ :: start, s :: size =>
    if 1 < s then ((start.zip size).zip shape).all fun ((b,s),d) => b ≤ 0 && s == d
    else isContiguous shape start size
  | _, _, _ => true
def between {α : Type} (xs : Array α) (lo hi : Int) : Array α :=
  let n : Int := xs.size
  let place (i : Int) : Nat := (if i < 0 then max 0 (n + i) else min i n).toNat
  xs.extract (place lo) (place hi)
def outOfRange (loc : Ints) : Eng Unit :=
  fail s!"Requested out of range element at {intsText loc}.   Buffer shape={shape.text}"

def sliceData : Op := do
  requireReal [x] "slice"
  if size.any (· < 0) then fail (Fault.badDims (intsText size))
  let out : Shape := size.map Int.toNat
  if isContiguous x.shape start size then
    let lo := Kernel.flatIndex x.shape start
    let part := between (← numbers x) lo (lo + out.size)
    if part.size != out.size then
      fail s!"Based on the provided shape, [{out.text}], the tensor should have {out.size} values but has {part.size}"
    ofNumbers out x.dtype (part.map x.dtype.store)
  else
    if out.size != 0 && start.any (· < 0) then outOfRange x.shape start
    move x fun a => Kernel.slice a (start.map Int.toNat) out

/-- What is wrong with a slice that is to start at some places and to take some numbers of elements. -/
def sliceFault? : Option String :=
  let rank := shape.length
  let because (wrong : Bool) message := if wrong then some message else none
  because (rank == 0) "Slicing scalar is not possible" <|>
    because (start.contains (-1)) "slice() does not support negative begin indexing." <|>
    (given.zipIdx.findSome? fun (d,i) => because (d < -1)
      s!"Negative size values should be exactly -1 but got {d} for the slice() size at index {i}.") <|>
    because (rank != start.length)
      s!"Error in slice{rank}D: Length of begin {intsText start} must match the rank of the array ({rank})." <|>
    because (rank != size.length)
      s!"Error in slice{rank}D: Length of size {intsText size} must match the rank of the array ({rank})." <|>
    (start.zip size).zipIdx.findSome? fun ((b,s),i) => because ((shape.getD i 0) < b + s)
      s!"Error in slice{rank}D: begin[{i}] + size[{i}] ({b + s}) would overflow input.shape[{i}] ({shape.getD i 0})"

/-- Starts and sizes of a slice for all axes. A size of -1 takes all that follow. -/
def sliceBounds : Tried (Ints × Ints) :=
  let start := start ++ replicate (shape.length - start.length) 0
  let given := given ++ replicate (shape.length - given.length) (-1)
  let size := given.zipIdx.map fun (d,i) => if d < 0 then (shape.getD i 0) - start.getD i 0 else d
  (sliceFault? shape start size given).elim (.ok (start,size)) fail
def slice (size : Option Ints) : Op := inScope "slice" do
  let (start,size) ← sliceBounds x.shape start (size.getD [])
  kernel1 x (some (.slice start size x.shape)) (sliceData x start size)
abbrev sliceNat (start size : Nats) : Op := slice x (nat start) (some (nat size))
def inMask : Bool := mask / .pow 2 axis % 2 == 1
def maskAxes : Nats := (List.range (mask.log2 + 1)).filter (inMask mask)
def clamp (low x high : Int) : Int := max low (min x high)
def strideStart (start : Option Int) (step : Int) (dim : Nat) (axis : Nat) : Int :=
  let dim : Int := dim
  let far : Int := Nat.pow 2 53 - 1
  let s := match start with
    | some s => if inMask mask axis then if 0 < step then -far else far else s
    | none => if 0 < step then -far else far
  clamp 0 (if s < 0 then s + dim else s) (dim - 1)

def strideStop (stop : Option Int) (step : Int) (dim : Nat) (axis : Nat) : Int :=
  let dim : Int := dim
  let far : Int := Nat.pow 2 53 - 1
  let s := match stop with
    | some s => if inMask mask axis then if 0 < step then far else -far else s
    | none => if 0 < step then far else -far
  let s := if s < 0 then s + dim else s
  if 0 < step then clamp 0 s dim else clamp (-1) s (dim - 1)

def stepCount (start stop step : Int) : Int := -((-(stop - start)).fdiv step)

/-- Which axes a strided slice treats in a special way, as bits. -/
structure SliceMasks where
  start : Nat := 0
  stop : Nat := 0
  ellipsis : Nat := 0
  newAxis : Nat := 0
  shrinkAxis : Nat := 0

/-- Where a slice starts on an axis, how it steps and how many elements it takes. -/
structure AxisCut where
  (start step count : Int)

def axisCut (masks : SliceMasks) (start stop : List (Option Int)) (steps : Ints) (axis : Nat) : AxisCut :=
  let s := steps.getD axis 0
  let step := if s == 0 then 1 else s
  let given := (start.getD axis none,stop.getD axis none)
  let (lo,hi) := match shape[axis]? with
    | some d => (strideStart masks.start given.1 step d axis,strideStop masks.stop given.2 step d axis)
    | none => (given.1.getD 0,given.2.getD 0)
  if inMask masks.shrinkAxis axis then ⟨lo,1,1⟩ else ⟨lo,step,stepCount lo hi step⟩

variable (cuts : List AxisCut)
def stridedData : Op := do
  requireReal [x] "stridedSlice"
  let size := cuts.map (·.count)
  if size.any (· < 0) then fail (Fault.badDims (intsText size))
  let out : Shape := size.map Int.toNat
  if size.contains 0 then ofNumbers out .float32 #[]
  else
    let starts := cuts.map (·.start)
    if x.shape.contains 0 then outOfRange x.shape starts
    move x fun a => Kernel.stridedSlice a starts (cuts.map (·.step)) out

def takeCuts (more : Ints) : Op :=
  if cuts.all (·.step == 1) && more.all (· == 1) then slice x (cuts.map (·.start)) (some (cuts.map (·.count)))
  else kernel1 x none (stridedData x cuts)

def stridedSlice (stop : Ints) (step : Option Ints) (masks : SliceMasks) : Op := inScope "stridedSlice" do
  if masks.ellipsis != 0 then fail "ellipsis mask is not yet supported"
  let new := maskAxes masks.newAxis
  let shape := new.foldl (fun s a => s.take a ++ [1] ++ s.drop a) x.shape
  let put v (xs : List (Option Int)) a := (xs ++ .replicate (a + 1 - xs.length) none).set a (some v)
  let start := new.foldl (put 0) (start.map some)
  let stop := new.foldl (put 1) (stop.map some)
  let x ← reshapeTo x shape
  let steps := step.getD []
  let cuts := (List.range (max x.rank start.length)).map (axisCut x.shape masks start stop steps)
  let y ← takeCuts x cuts (steps.drop x.rank)
  reshape y ((cuts.zipIdx.filter fun (_,a) => !inMask masks.shrinkAxis a).map (·.1.count))

def reverse (axes : Option Ints) : Op := inScope "reverse" do
  if x.rank == 0 then clone x
  else
    let axes ← match axes with
      | some as => Axes.normalize x.rank as
      | none => pure (.range x.rank)
    let y ← kernel1 x (some (.reverse axes)) do
      requireReal [x] "reverse"
      move x (Kernel.reverse · axes)
    reshapeTo y x.shape

def tile (reps : Nats) : Op := inScope "tile" do
  if x.rank != reps.length then
    fail s!"Error in transpose: rank of input {x.rank} must match length of reps {Shape.text reps}."
  runKernel [("$x",x)] (some (.tile reps)) do
    requireReal [x] "tile"
    return (← move x (Kernel.tile · reps),[x])
def paddedText : String := ",".intercalate (paddings.zipIdx.map fun ((a,b),i) =>
  shape[i]?.elim "NaN" fun d => toString (a + d + b))

def pad (paddings : List (Int × Int)) (value : Float) : Op := inScope "pad" do
  if x.rank == 0 then fail "pad(scalar) is not defined. Pass non-scalar to pad"
  kernel1 x (some (.pad (paddings.map (·.1)) x.shape)) do
    requireReal [x] "pad"
    let dims : Ints := (paddings.zip x.shape).map fun ((a,b),d) => a + d + b
    if dims.any (· < 0) || dims.length < paddings.length then fail (Fault.badDims (paddedText x.shape paddings))
    if paddings.length != x.rank && x.size > 0 then
      fail s!"The number of provided coordinates ({x.rank}) must match the rank ({paddings.length})"
    let a ← read x
    let v := x.dtype.store value
    if paddings.all fun (a,b) => 0 ≤ a && 0 ≤ b then
      ofArray x.dtype (Kernel.pad a (paddings.map (·.1.toNat)) (paddings.map (·.2.toNat)) v)
    else ofArray x.dtype (Kernel.padSigned a (paddings.map (·.1)) (dims.map Int.toNat) v)

def requireConcat (axis : Int) : Tried Unit := do
  let first := shapes.headD []
  let rank := first.length
  for (s,i) in shapes.zipIdx do
    if s.length != rank then
      throw (.failure
        s!"Error in concat{rank}D: rank of tensors[{i}] must be the same as the rank of the rest ({rank})")
  if axis < 0 || rank ≤ axis then
    throw (.failure s!"Error in concat{rank}D: axis must be between 0 and {(rank : Int) - 1}.")
  for (s,i) in shapes.zipIdx do
    for r in List.range rank do
      if r != axis && s.getD r 0 != first.getD r 0 then
        throw (.failure (s!"Error in concat{rank}D: Shape of tensors[{i}] ({s.text}) does not match the shape of " ++
          s!"the rest ({first.text}) along the non-concatenated axis {i}."))

def concatShape (axis : Nat) : Shape := match shapes with
  | [] => []
  | s :: rest => s.set axis (rest.foldl (fun n t => n + t.getD axis 0) (s.getD axis 0))

def concatData : Op := do
  let first := xs.headD default
  let out := concatShape (xs.map (·.shape)) axis
  let joined (ts : Tensors) := return Kernel.concat (← ts.mapM read) axis out
  if first.dtype == .complex64 then
    let ps ← xs.mapM parts
    let re ← store .float32 (← joined (ps.map (·.1)))
    let im ← store .float32 (← joined (ps.map (·.2)))
    makeComplex re im
  else store first.dtype (← joined xs)

def concatAlong : Op := do
  let out := concatShape (xs.map (·.shape)) axis
  if out.size == 0 && xs.all (axis < ·.rank) then ofNumbers out .float32 #[]
  else
    match xs.filter (0 < ·.size) with
    | [t] => pure t
    | ts =>
      let shapes := ts.map (·.shape)
      requireConcat shapes axis
      runKernel (ts.zipIdx.map fun (t,i) => (toString i,t))
        (some (.concat (shapes.map (·.getD axis 0)) axis)) do
        return (← concatData ts axis,[])

def concat (axis : Int) : Op := inScope "concat" do
  let first ← match xs with
    | [] => fail "Pass at least one tensor to concat"
    | t :: _ => pure t
  if first.dtype == .complex64 then
    for t in xs do
      if t.dtype != .complex64 then
        fail s!"Cannot concatenate complex64 tensors with a tensor\n          with dtype {t.dtype.name}. "
  concatAlong xs ((← Axes.normalize first.rank [axis]).headD 0)

def splitStep (acc : Tensors × Int) (size : Int) : Eng (Tensors × Int) := do
  let start := (replicate x.rank 0).set axis acc.2
  let t ← slice x start (some ((nat x.shape).set axis size))
  return (acc.1 ++ [t],acc.2 + size)
def splitSizes (sizes : Ints) (axis : Nat) : Eng Tensors := runKernels [("$x",x)] (some (.split axis)) do
  let (ts,_) ← sizes.foldlM (splitStep x axis) ([],0)
  return (ts,[])

inductive Division where
  | parts (count : Nat)
  | sizes (sizes : Ints)

def split (how : Division) (axis : Int) : Eng Tensors := inScope "split" do
  let axis := (← Axes.normalize x.rank [axis]).headD 0
  let dim := x.dim axis
  let sizes ← match how with
    | .parts n => do
      if n == 0 || dim % n != 0 then fail "Number of splits must evenly divide the axis."
      pure (replicate n (.ofNat (dim / n)))
    | .sizes ss => do
      if (dim : Int) != ss.foldl (· + ·) 0 then fail "The sum of sizes must match the size of the axis dimension."
      pure ss
  splitSizes x sizes axis

def stack (axis : Int) : Op := inScope "stack" do
  match xs with
  | [] => fail "Pass at least one tensor to tf.stack"
  | [t] => expandDims t axis
  | first :: _ =>
    if first.rank < axis then fail "Axis must be <= rank of the tensor"
    for t in xs do requireSameShape first.shape t.shape "All tensors passed to stack must have matching shapes"
    if xs.any (·.dtype != first.dtype) then fail "All tensors passed to stack must have matching dtypes"
    concat (← xs.mapM (expandDims · axis)) axis

def unstack (axis : Int) : Eng Tensors := inScope "unstack" do
  let rank : Int := x.rank
  if axis < -rank || rank ≤ axis then fail s!"Axis = {axis} is not in [-{x.rank}, {x.rank})"
  let axis := (if axis < 0 then axis + rank else axis).toNat
  runKernels [("$x",x)] (some (.unstack axis)) do
    let ts ← (List.range (x.dim axis)).mapM fun i => do
      let start := (replicate x.rank 0).set axis (.ofNat i)
      let t ← sliceData x start ((nat x.shape).set axis 1)
      reshapeTo t (x.shape.eraseIdx axis)
    return (ts,[])

variable (indices : Tensor)
def gatherData (axis : Nat) : Op := do
  requireReal [x,indices] "gather"
  let is := (← numbers indices).map wholePart
  let .strings vs ← dataOf x | store x.dtype (Kernel.gather nan (← read x) is axis)
  let r := Kernel.gather .empty ⟨x.shape,vs⟩ is axis
  make r.shape .string (.strings r.data)

def gather (axis : Int) : Op := inScope "gather" do
  let axis := (← Axes.normalize x.rank [axis]).headD 0
  let out := x.shape.take axis ++ indices.shape ++ x.shape.drop (axis + 1)
  let y ← runKernel [("$x",x)] (some (.gather axis x.shape)) do return (← gatherData x indices axis,[indices])
  reshapeTo y out
def cumsumLast (axis : Int) (exclusive reversed : Bool) : Op :=
  runKernel [("permutedX",x)] (some (.cumsum axis exclusive reversed)) do
    requireReal [x] "cumsum"
    let t ← DType.upcast x.dtype .int32
    return (← ofArray t (Kernel.cumsum t.store (← read x) exclusive reversed),[])
def cumsum (axis : Int) (exclusive reversed : Bool) : Op := inScope "cumsum" do
  if axis == x.rank - 1 then cumsumLast x axis exclusive reversed
  else
    let perm : Ints := (nat (.range x.rank)).filter (· != axis) ++ [axis]
    transpose (← cumsumLast (← transpose x (some perm)) axis exclusive reversed) (some perm)

/-- Shapes and order of axes that pass between batches and blocks of space. -/
structure BlockPlan where
  split : Shape
  perm : Nats
  merged : Shape

def productOf : Nat := block.foldl (· * ·) 1
def requireBlock : Eng Unit := do if block.isEmpty then throw (.badType "Reduce of empty array with no initial value")

def BlockPlan.ofBatch : BlockPlan :=
  let k := block.length
  let prod := productOf block
  let split := block ++ [shape.headD 0 / prod] ++ shape.drop 1
  let perm := [k] ++ ((List.range split.length).drop (k + 1)).flatMap fun i =>
    if i ≤ 2 * k then [i,i - (k + 1)] else [i]
  let merged := [shape.headD 0 / prod] ++ (shape.drop 1).zipIdx.map fun (d,i) => if i < k then block.getD i 1 * d else d
  ⟨split,perm,merged⟩

def BlockPlan.ofSpace : BlockPlan :=
  let k := block.length
  let prod := productOf block
  let split := [shape.headD 0] ++ (block.zipIdx.flatMap fun (b,i) => [shape.getD (i + 1) 0 / b,b]) ++ shape.drop (k + 1)
  let rest := (List.range split.length).drop 1
  let isAfter i := k * 2 + 1 ≤ i || i % 2 == 1
  let perm := rest.filter (!isAfter ·) ++ [0] ++ rest.filter isAfter
  let merged := [shape.headD 0 * prod] ++ (shape.drop 1).zipIdx.map fun (d,i) => if i < k then d / block.getD i 1 else d
  ⟨split,perm,merged⟩

def batchToSpaceND (crops : List (Int × Int)) : Op := inScope "batchToSpaceND" do
  let k := block.length
  let prod := productOf block
  requireBlock block
  if x.rank < 1 + k then fail s!"input rank is {x.rank} but should be > than blockShape.length {k}"
  if crops.length != k then fail s!"crops.length is {crops.length} but should be equal to blockShape.length  {k}"
  if prod == 0 || x.dim 0 % prod != 0 then
    fail (s!"input tensor batch is {x.dim 0} but is not divisible by the product of the elements of " ++
      "blockShape " ++ " * ".intercalate (block.map toString) ++ s!" === {prod}")
  kernel1 x (some (.batchToSpace block crops)) do
    requireReal [x] "batchToSpaceND"
    let p := BlockPlan.ofBatch x.shape block
    let y ← reshapeTo (← transposeBy (← reshapeTo x p.split) p.perm) p.merged
    let size := [(p.merged.headD 0 : Int)] ++ crops.zipIdx.map fun ((a,b),i) => (p.merged.getD (i + 1) 0) - a - b
    slice y ([0] ++ crops.map (·.1)) (some size)

def spaceToBatchND : Op := inScope "spaceToBatchND" do
  let k := block.length
  if x.rank < 1 + k then fail s!"input rank {x.rank} should be > than [blockShape] {k}"
  if paddings.length != k then fail s!"paddings.shape[0] {paddings.length} must be equal to [blockShape] {k}"
  let fits := (x.shape.drop 1).zipIdx.all fun (d,i) =>
    match paddings[i]?, block[i]? with
    | some (a,b), some s => s != 0 && (d + a + b) % s == 0
    | _, _ => true
  if !fits then
    let pads := paddings.flatMap fun (a,b) => [a,b]
    fail (s!"input spatial dimensions {Shape.text (x.shape.drop 1)} with paddings " ++
      s!"{intsText pads} must be divisible by blockShapes {Shape.text block}")
  kernel1 x (some (.spaceToBatch block paddings)) do
    requireReal [x] "spaceToBatchND"
    requireBlock block
    let full := [(0,0)] ++ paddings ++ replicate (x.rank - 1 - k) (0,0)
    let y ← pad x full 0
    let p := BlockPlan.ofSpace y.shape block
    reshapeTo (← transposeBy (← reshapeTo y p.split) p.perm) p.merged

def depthToSpace (block : Int) (format : String) : Op := inScope "depthToSpace" do
  let axisOf (last first) := x.dim (if format == "NHWC" then last else first)
  let h := axisOf 1 2
  let w := axisOf 2 3
  let d := axisOf 3 1
  if h * block < 0 then
    fail ("Negative dimension size caused by overflow when multiplying\n" ++
      s!"      {h} and {block}  for depthToSpace with input shape\n      {x.shape.text}")
  if w * block < 0 then
    fail ("Negative dimension size caused by overflow when multiplying\n" ++
      s!"      {w} and {block} for depthToSpace with input shape\n          {x.shape.text}")
  if block == 0 || d % (block * block) != 0 then
    fail (s!"Dimension size must be evenly divisible by {block * block} but is " ++
      s!"{d} for depthToSpace with input shape {x.shape.text}")
  kernel1 x none do
    if format != "NHWC" then fail s!"Only NHWC dataFormat supported on CPU for depthToSpace. Got {format}"
    if block ≤ 1 then fail s!"blockSize should be > 1 for depthToSpace, but was: {block}"
    ofArray .float32 (Kernel.depthToSpace (← read x) block.toNat)

def diag : Op := inScope "diag" do
  let flat ← flatten x
  let y ← kernel1 flat none do
    let n := x.size
    let vs ← numbers flat
    ofNumbers [n,n] x.dtype (.ofFn fun k : Fin (n * n) => if k.val / n == k.val % n then readAt vs (k.val / n) else 0)
  reshapeTo y (x.shape ++ x.shape)

def oneHot (depth : Nat) (on off : Float) : Op := inScope "oneHot" do
  let flat ← flatten indices
  let y ← runKernel [("$indices",flat)] (some (.zeros flat.shape)) do
    requireReal [flat] "oneHot"
    let is ← numbers flat
    let place v := toInt32 (toSingle v)
    let y ← ofNumbers [flat.size,depth] .int32
      (.ofFn fun k : Fin (flat.size * depth) =>
        if readAt is (k.val / depth) == .ofNat (k.val % depth) then place on else place off)
    return (y,[])
  reshapeTo y (indices.shape ++ [depth])

def eye (rows columns : Nat) (batch : Option Nats) (dtype : DType) : Op := inScope "eye" do
  let y ← ofNumbers [rows,columns] dtype
    (.ofFn fun k : Fin (rows * columns) => if k.val / columns == k.val % columns then 1 else 0)
  let y ← reshapeTo y [rows,columns]
  let some b := batch | pure y
  if b.length == 0 || 3 < b.length then
    fail s!"eye() currently supports only 1D and 2D batchShapes, but received {b.length}D."
  let z ← b.foldlM (fun t _ => expandDims t 0) y
  tile z (b ++ [1,1])
end TensorKit.Ops
