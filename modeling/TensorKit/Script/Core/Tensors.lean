import TensorKit.Script.Arguments
import TensorKit.Ops.Conv

/-! # Elementwise operations of programs -/
namespace TensorKit.Script
open Engine Ops Number
def unaryTable : Handlers :=
  ([ .ceil,.sign,.isNaN,.isInf,.isFinite,.round,.expm1,.log1p,.reciprocal,.logSigmoid,.sin,.cos,.tan,.asin,.acos,
    .atan,.sinh,.cosh,.tanh,.asinh,.acosh,.atanh,.neg,.floor,.exp,.log,.sqrt,.rsqrt,.square,.sigmoid,.softplus,
    .elu,.selu ].map fun u : UnaryOp => unaryHandler u.name (unary u)) ++
  ([ ("abs",abs),("erf",erf),("relu",relu),("relu6",relu6),("onesLike",onesLike),
    ("zerosLike",zerosLike) ].map fun (name,f) => unaryHandler name f) ++
  [ opOn "step" "x" fun x a => step x (numOr (a 1) 0),
    opOn "clipByValue" "x" fun x a => clipByValue x (a 1).toNumber (a 2).toNumber,
    opOn "leakyRelu" "x" fun x a => leakyRelu x (numOr (a 1) 0.2),
    opOnTwo "prelu" "x" "alpha" fun x y _ => prelu x y ]

variable (name : String) (f : Tensor → Tensor → Op)
def strictHandler (fn label : String) (f : Tensor → Tensor → Op) : Route :=
  binaryHandler name fn .numeric (strict f name label)
def strictOf : Route := strictHandler (name ++ "Strict") (name ++ "Strict") (name ++ "Strict") f
def binaryOf : Route := binaryHandler name name .numeric f

def binaryTable : Handlers :=
  ([ ("add",add),("sub",sub),("mod",mod),("minimum",minimum),("maximum",maximum),
    ("squaredDifference",squaredDifference),("equal",equal),("notEqual",notEqual),("less",less),
    ("lessEqual",lessEqual),("greater",greater),
    ("greaterEqual",greaterEqual) ].flatMap fun (name,f) => [binaryOf name f,strictOf name f]) ++
  ([ ("logicalAnd",logicalAnd),("logicalOr",logicalOr),
    ("logicalXor",logicalXor) ].map fun (name,f) => binaryHandler name name (.dtype .bool) f) ++
  [ binaryOf "mul" mul,binaryOf "div" div,binaryOf "floorDiv" floorDiv,binaryOf "atan2" atan2,
    strictHandler "mulStrict" "mul" "multiplyStrict" mul,strictHandler "divStrict" "div" "divideStrict" div,
    op "logicalNot" <| on1 fun x => do logicalNot (← toTensor x "x" "logicalNot" (.dtype .bool)),
    opOnTwo "pow" "base" "exp" fun x y _ => pow x y,
    op "powStrict" <| on2 fun z w => do
      match z,w with
      | .tensor x,.tensor y => strict pow "powStrict" "powStrict" x y
      | x,y => do
        let x ← toTensor x "base" "pow" .numeric
        strict pow "powStrict" "powStrict" x (← toTensor y "exp" "pow" .numeric),
    op "where" fun a => do
      let x ← tensorAt a 1 "a" "where"
      let y ← tensorAt a 2 "b" "where"
      select (← toTensor (a 0) "condition" "where" (.dtype .bool)) x y,
    op "addN" <| on1 fun y => do
      match y with
      | .list xs =>
        if xs.isEmpty then fail s!"Must pass at least one tensor to tf.addN(), but got {xs.length}"
        addN (← xs.zipIdx.mapM fun (x,i) => toTensor x s!"tensors{i}" "addN" .numeric)
      | _ => fail "The argument passed to tf.addN() must be a list of tensors" ]

/-! # Operations of programs that move elements -/

variable (rank : Nat) (x : Tensor) (v : Value) (key : String)
def pairsOf : List (Int × Int) := v.items.map fun p => ((p.ints).getD 0 0,(p.ints).getD 1 0)

def padHandler (rank : Nat) : Route := opHandler key key fun a => do
  let given := a 1
  let value := numOr (a 2) 0
  if rank == 1 then
    if given.items.length != 2 then fail "Invalid number of paddings. Must be length of 2."
    pad (← tensorAt a 0 "x" "pad") (pairsOf ([given])) value
  else
    if rank != 0 && !(given.items.length == rank && given.items.all (·.items.length == 2)) then
      fail "Invalid number of paddings. Must be length of 2 each."
    pad (← tensorAt a 0 "x" "pad") (pairsOf given) value

def sliceArgs (start size : Value) : Op :=
  let start := (listOf start).map (wholePart ·.toNumber)
  let size := match size with
    | .absent | .null => none
    | v => some ((listOf v).map (wholePart ·.toNumber))
  slice x start size
def sliceHandler : Route :=
  opOn (s!"slice{rank}d") "x" fun x a => do
    if x.rank != rank then fail s!"slice{rank}d expects a rank-{rank} tensor, but got a rank-{x.rank} tensor"
    sliceArgs x (a 1) (a 2)
def reverseHandler : Route :=
  let key := s!"reverse{rank}d"
  opHandler key key fun a => do
    let x ← tensorAt a 0 "x" "reverse"
    if x.rank != rank then fail s!"Error in reverse{rank}D: x must be rank {rank} but got rank {x.rank}."
    let axes ← axesArg (if rank == 1 then .num 0 else a 1) x.rank
    reverse x axes

def concatArgs (axis : Value) : Op := do
  if v.items.isEmpty then fail "Pass at least one tensor to concat"
  let ts ← toTensors v "tensors" "concat"
  let first := ts.headD default
  if first.dtype == .complex64 then
    for t in ts do
      if t.dtype != .complex64 then
        fail s!"Cannot concatenate complex64 tensors with a tensor\n          with dtype {t.dtype.name}. "
  concat ts (← axisArg axis 0 first.rank)

def concatHandler (fixed : Bool) : Route :=
  opHandler key key <| on2 fun x y => concatArgs x (if fixed then .num 0 else y)
def divisionOf : Division := match v with
  | .num x => .parts (wholePart x).toNat
  | v => .sizes v.ints
def castArgs : Op := do
  let some t := DType.ofName? v.text | fail ("Failed to cast to unknown dtype " ++ v.text)
  cast x t
variable (a : Values)
def stridedSliceArgs : Op :=
  let mask i := natOr (a i) 0
  stridedSlice x (a 1).ints (a 2).ints (if (a 3).isNil then none else some (a 3).ints)
    ⟨mask 4,mask 5,mask 6,mask 7,mask 8⟩
def stridedSliceHandler : Route := opOn "stridedSlice" "x" stridedSliceArgs

def layoutTable : Handlers :=
  [ op "clone" <| on1 fun x => do clone (← toTensor x "x" "clone" .any),
    op "reshape" <| on2 fun y z => do
      let x ← toTensor y "x" "reshape" .any
      let dims ← fillIn z (.ofNat x.size)
      if productOf dims != .ofNat x.size then fail "new shape and old shape must have the same number of elements."
      reshape x (dims.map wholePart),
    opOn "cast" "x" fun x a => castArgs x (a 1),
    opOn "squeeze" "x" fun x a => do squeeze x (← axesArg (a 1) x.rank),
    op "expandDims" <| on2 fun x y => do expandDims (← toTensor x "x" "expandDims" .any) (intOr y 0),
    opOn "transpose" "x" fun x a => transpose x (if (a 1).isNil then none else some (a 1).ints),
    op "tile" <| on2 fun x y => do tile (← toTensor x "x" "tile" .any) y.nats,
    padHandler "pad" 0,padHandler "pad1d" 1,padHandler "pad2d" 2,padHandler "pad3d" 3,padHandler "pad4d" 4,
    opOn "slice" "x" fun x a => sliceArgs x (a 1) (a 2),
    sliceHandler 1,sliceHandler 2,sliceHandler 3,sliceHandler 4,
    stridedSliceHandler,
    opOn "reverse" "x" fun x a => do reverse x (← axesArg (if x.rank == 0 then .absent else a 1) x.rank),
    reverseHandler 1,reverseHandler 2,reverseHandler 3,reverseHandler 4,
    concatHandler "concat" false,concatHandler "concat1d" true,concatHandler "concat2d" false,
    concatHandler "concat3d" false,concatHandler "concat4d" false,
    opListHandler "split" "split" fun a => do
      let x ← tensorAt a 0 "x" "split"
      split x (divisionOf (a 1)) (← axisArg (a 2) 0 x.rank),
    op "stack" <| on2 fun x y => do stack (← toTensors x "tensors" "stack") (intOr y 0),
    opListHandler "unstack" "unstack" fun a => do unstack (← tensorAt a 0 "x" "unstack") (intOr (a 1) 0),
    opOn "gather" "x" fun x a => do
      gather x (← toTensor (a 1) "indices" "gather" (.dtype .int32)) (← axisArg (a 2) 0 x.rank),
    opOn "cumsum" "x" fun x a => cumsum x (intOr (a 1) 0) (boolOr (a 2) false) (boolOr (a 3) false),
    opOn "batchToSpaceND" "x" fun x a => batchToSpaceND x (a 1).nats (pairsOf (a 2)),
    opOn "spaceToBatchND" "x" fun x a => spaceToBatchND x (a 1).nats (pairsOf (a 2)),
    opOn "depthToSpace" "x" fun x a => depthToSpace x (intOr (a 1) 0) (strOr (a 2) "NHWC"),
    opOn "diag" "x" fun x _ => diag x,
    op "oneHot" <| on4 fun y z w u => do
      let depth := z.toNumber
      if depth < 2 then fail s!"Error in oneHot: depth must be >=2, but it is {num depth}"
      let x ← toTensor y "indices" "oneHot" (.dtype .int32)
      oneHot x (wholePart depth).toNat (numOr w 1) (numOr u 0),
    op "eye" <| on4 fun x y batch w => do
      let rows := natOr x 0
      eye rows (if y.isNil then rows else natOr y 0)
        (if batch.isNil then none else some batch.nats) (← dtypeArg w .float32),
    op "gatherND" fun a => do
      let i ← toTensor (a 1) "indices" "gatherND" (.dtype .int32)
      gatherND (← tensorAt a 0 "x" "gatherND") i,
    op "scatterND" fun a => do
      let i ← toTensor (a 0) "indices" "scatterND" (.dtype .int32)
      scatterND i (← tensorAt a 1 "updates" "scatterND") (a 2).nats,
    op "sparseToDense" fun a => do
      let i ← toTensor (a 0) "sparseIndices" "sparseToDense" (.dtype .int32)
      let v ← tensorAt a 1 "sparseValues" "sparseToDense"
      let d := a 3
      let d ← toTensor (if d.isAbsent then .num 0 else d) "defaultValue" "sparseToDense" (.dtype v.dtype)
      sparseToDense i v (a 2).nats d,
    opOn "unsortedSegmentSum" "x" fun x a => do
      let s ← toTensor (a 1) "segmentIds" "unsortedSegmentSum" (.dtype .int32)
      let n := (a 2).toNumber
      if !isWhole n then fail "numSegments must be of dtype int"
      unsortedSegmentSum x s (wholePart n).toNat,
    ("topk",fun a => inOp "topk" do
      let k := a 1
      let (values,indices) ← (do topk (← tensorAt a 0 "x" "topk") (intOr k 1) : Eng (Tensor × Tensor))
      return .record [("values",values),("indices",indices)]) ]

/-! # Convolutions, pooling and images in programs -/

def ones2 : Window.Extent := .each [1,1]
def ones3 : Window.Extent := .each [1,1,1]
def windowArgs (strides pad dilations rounding : Value) (default : Window.Extent) : WindowParams :=
  ⟨extentArg strides (.one 1),extentArg dilations default,padArg pad,roundingArg rounding,true⟩
def poolArgs : Window.Extent × WindowParams := (extentArg (a 1) (.one 1),windowArgs (a 2) (a 3) .absent (a 4) (.one 1))
def pool3dArgs (s : PoolSpec) (expected : Expected) (a : Values) : Op := do
  let x ← toTensor (a 0) "x" s.name expected
  pool3d s x (extentArg (a 1) (.one 1)) (windowArgs (a 2) (a 3) (a 6) (a 4) ones3) (strOr (a 5) "NDHWC")
def poolOf : Op := do
  let x ← toTensor (a 0) "x" "maxPool" .numeric
  let strides := a 5
  let p := windowArgs (if strides.isNil then .num 1 else strides) (a 3) (a 4) .absent ones2
  pool x (extentArg (a 1) (.one 1)) (if (a 2).text == "avg" then .avg else .max) p
def epilogueArgs (biasFn preluFn : String) : Eng Epilogue := do
  let bias ← toTensor? (v "bias") "bias" biasFn .numeric
  let prelu ← toTensor? (v "preluActivationWeights") "prelu weights" preluFn .numeric
  let activation := v "activation"
  return ⟨bias,if activation.isNil then "linear" else activation.text,prelu⟩
def fusedWindow : WindowParams := windowArgs (v "strides") (v "pad") (v "dilations") (v "dimRoundingMode") ones2
def fusedHandler (fn preluFn first second : String) (f : Tensor → Tensor → Value → Epilogue → Op) : Route :=
  opHandler ("fused." ++ name) name <| on1 fun v => do
    let x ← toTensor (v first) first fn .numeric
    let y ← toTensor (v second) second fn .numeric
    f x y v (← epilogueArgs v (if name == "matMul" then preluFn else "fused conv2d") preluFn)
def resizeHandler (key fn : String) (f : Tensor → Ints → Bool → Op) : Route :=
  opHandler key fn fun a => do f (← tensorAt a 0 "images" fn) (a 1).ints (boolOr (a 2) false)
def boxesArgs (fn : String) (a : Values) : Eng (Tensor × Tensor × Float × Float × Float) := do
  let boxes ← tensorAt a 0 "boxes" fn
  let scores ← tensorAt a 1 "scores" fn
  let iou := a 3
  let least := a 4
  return (boxes,scores,(a 2).toNumber,if iou.isNil then 0.5 else iou.toNumber,
    if least.isNil then -infinity else least.toNumber)

def windowedTable : Handlers :=
  [ opOnTwo "conv1d" "x" "filter" fun x f a =>
      conv1d x f (intOr (a 2) 1) (intOr (a 5) 1) (padArg (a 3)) (roundingArg (a 6)) (strOr (a 4) "NWC"),
    opOnTwo "conv2d" "x" "filter" fun x f a =>
      conv2d x f (windowArgs (a 2) (a 3) (a 5) (a 6) ones2) (strOr (a 4) "NHWC"),
    opOnTwo "depthwiseConv2d" "x" "filter" fun x f a => depthwiseConv2d x f (windowArgs (a 2) (a 3) (a 5) (a 6) ones2),
    opOnTwo "separableConv2d" "x" "depthwiseFilter" fun x d a => do
      separableConv2d x d (← tensorAt a 2 "pointwiseFilter" "separableConv2d")
        (windowArgs (a 3) (a 4) (a 5) .absent ones2) (strOr (a 6) "NHWC"),
    opOnTwo "conv2dTranspose" "x" "filter" fun x f a =>
      conv2dTranspose x f (a 2).nats (windowArgs (a 3) (a 4) .absent (a 5) (.one 1)),
    opOnTwo "conv3d" "x" "filter" fun x f a =>
      conv3d x f (windowArgs (a 2) (a 3) (a 5) .absent ones3) (strOr (a 4) "NDHWC"),
    opOnTwo "conv3dTranspose" "x" "filter" fun x f a =>
      conv3dTranspose x f (a 2).nats (windowArgs (a 3) (a 4) .absent .absent (.one 1)),
    opOn "maxPool" "x" fun x a => maxPool x (poolArgs a).1 (poolArgs a).2,
    op "avgPool" fun a => do avgPool (← toTensor (a 0) "x" "avgPool" (.dtype .float32)) (poolArgs a).1 (poolArgs a).2,
    op "maxPool3d" (pool3dArgs maxPool3dSpec .numeric),
    op "avgPool3d" (pool3dArgs avgPool3dSpec (.dtype .float32)),
    op "pool" poolOf,
    fusedHandler "matMul" "fused matMul" "fused matMul" "a" "b" fun x y v e =>
      fusedMatMul x y (boolOr (v "transposeA") false) (boolOr (v "transposeB") false) e,
    fusedHandler "conv2d" "conv2d" "fused conv2d" "x" "filter" fun x f v e =>
      fusedConv2d x f (fusedWindow v) (strOr (v "dataFormat") "NHWC") e,
    fusedHandler "depthwiseConv2d" "depthwiseConv2d" "fused depthwiseConv2d" "x" "filter" fun x f v e =>
      fusedDepthwiseConv2d x f (fusedWindow v) e,
    resizeHandler "image.resizeBilinear" "resizeBilinear" resizeBilinear,
    resizeHandler "image.resizeNearestNeighbor" "resizeNearestNeighbor" resizeNearest,
    opHandler "image.nonMaxSuppression" "nonMaxSuppression" fun a => do
      let (boxes,scores,limit,iou,least) ← boxesArgs "nonMaxSuppression" a
      nonMaxSuppression boxes scores limit iou least,
    plainHandler "image.nonMaxSuppressionAsync" fun a => do
      let (boxes,scores,limit,iou,least) ← boxesArgs "nonMaxSuppressionAsync" a
      let r ← suppressedBoxes boxes scores (← requireBoxes boxes scores limit iou) iou least
      if (a 0).tensor?.isNone then dispose boxes
      if (a 1).tensor?.isNone then dispose scores
      return r,
    opHandler "image.cropAndResize" "cropAndResize" fun a => do
      let image ← toTensor (a 0) "image" "cropAndResize" (.dtype .float32)
      let boxes ← toTensor (a 1) "boxes" "cropAndResize" (.dtype .float32)
      let ind ← toTensor (a 2) "boxInd" "cropAndResize" (.dtype .int32)
      let method := a 4
      let outside := a 5
      cropAndResize image boxes ind (a 3).ints
        (if method.truthy then method.text else "bilinear")
        (if outside.truthy then outside.toNumber else 0) ]
end TensorKit.Script
