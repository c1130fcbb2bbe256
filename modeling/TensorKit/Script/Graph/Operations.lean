import TensorKit.Script.Core.Methods
import TensorKit.Script.Graph.OpList

/-! # What the operations of graphs compute -/
namespace TensorKit.Script
open Engine TensorKit.Graph
abbrev GraphNode := Node Value
abbrev Params := String → Reply
abbrev OpRun := Params → Reply

def attrValue (n : GraphNode) (name : String) : Value := (n.attrParams.lookup name).elim .absent (·.2)
variable (r : Results Tensor) (c : Context)
def heldAt (name : String) : Value := (getTensor name r c).elim .absent .tensor
def paramValue (n : GraphNode) (name : String) : Reply := do
  let some p := n.inputParams.find? (·.name == name) | return attrValue n name
  let from_ (i : Int) := if i < 0 then (n.inputNames.length + i).toNat else i.toNat
  match p.kind with
  | .tensor => return n.inputNames[p.start.toNat]?.elim .absent (heldAt r c)
  | .tensors =>
    let start := from_ p.start
    let stop := match p.stop with
      | some 0 => n.inputNames.length
      | some e => from_ e
      | none => start + 1
    return ((n.inputNames.take stop).drop start).map (heldAt r c)
  | k =>
    match (n.inputNames[from_ p.start]?).bind fun i => getTensor i r c with
    | none => throw (.noMember "dataSync")
    | some t =>
      let data ← (do
        requireLive t
        tensorValues t : Eng (Array Value))
      return if k == .number then data.getD 0 .absent else .list data.toList

variable (v : Value) (op fn : String)
def direct (params : Strings) : String × OpRun := (op,fun p => do core fn (← params.mapM p))
def same : String × OpRun := direct op fn ["x"]
def pairwise : String × OpRun := direct op fn ["a","b"]
def reducing : String × OpRun := direct op fn ["x","axis","keepDims"]
def pick (places : Nats) : Value := .list (places.map (v.items ·))
def pairsIn : Values → Values
  | a :: b :: rest => [a,b] :: pairsIn rest
  | [a] => [[a]]
  | [] => []
def upper : Value := v.text.toUpper
def shapeTensor (dtype : Value) : Reply := match v with
  | .tensor t => core "tensor1d" [.ofShape t.shape,dtype]
  | _ => throw (.noMember "shape")
def countOf (f : Tensor → Nat) : Reply := match v with
  | .tensor t => core "scalar" [f t,"int32"]
  | _ => throw (.badType "Cannot read properties of undefined")

/-- Operations that go by the name of the function they call. -/
def named (run : String → String → String × OpRun) (ops : Strings) : Named OpRun :=
  ops.map fun op => run op op.decapitalize
def arithmeticRuns : Named OpRun :=
  named pairwise ["Add","FloorDiv","Maximum","Minimum","Mod","Mul","Pow","SquaredDifference","Sub","Div"] ++
  [ pairwise "BiasAdd" "add",pairwise "AddV2" "add",direct "AddN" "addN" ["tensors"],pairwise "FloorMod" "mod",
    pairwise "RealDiv" "div" ]
def mathRuns : Named OpRun :=
  named same ["Abs","Acos","Acosh","Asin","Asinh","Atan","Atanh","Ceil","Cos","Cosh","Elu","Erf","Exp",
    "Expm1","Floor","Log","Log1p","Imag","Neg","Reciprocal","Real","Relu","Round","Selu","Sigmoid","Sin",
    "Sign","Sinh","Softplus","Sqrt","Square","Tanh","Tan","Rsqrt"] ++
  ["Relu6","ClipByValue"].map (fun op => direct op "clipByValue" ["x","clipValueMin","clipValueMax"]) ++
  [ same "ComplexAbs" "abs",direct "Atan2" "atan2" ["x","y"],direct "Complex" "complex" ["real","imag"],
    direct "LeakyRelu" "leakyRelu" ["x","alpha"] ]

def windowRuns : Named OpRun :=
  [ ("Conv1D",fun p => do
      core "conv1d" [← p "x",← p "filter",← p "stride",← p "pad",upper (← p "dataFormat"),← p "dilation"]),
    convolving "Conv2D" "conv2d" "x" [1,2],
    ("_FusedConv2D",fun p => do
      let fusedOps := (← p "fusedOps").items
      let extra := fusedOps 0
      let activation := fusedOps 1
      let isPrelu := activation.str? == some "prelu"
      let count := (← p "numArgs").toNumber
      if extra.str? == some "biasadd" then
        if isPrelu && count != 2 then
          fail "Fused Conv2d with BiasAdd and Prelu must have two extra arguments: bias and alpha."
        if !isPrelu && count != 1 then fail "Fused Conv2d with BiasAdd must have one extra argument: bias."
      if extra.str? == some "fusedbatchnorm" then fail "Fused Conv2d with FusedBatchNorm is not supported."
      let args := (← p "args").items
      core "fused.conv2d" [.record [("x",← p "x"),("filter",← p "filter"),
        ("strides",pick (← p "strides") [1,2]),("pad",← p "pad"),
        ("dataFormat",upper (← p "dataFormat")),("dilations",pick (← p "dilations") [1,2]),
        ("bias",args 0),("activation",activation),
        ("preluActivationWeights",args 1)]]),
    ("Conv2DBackpropInput",fun p => do
      core "conv2dTranspose" [← p "x",← p "filter",← p "outputShape",pick (← p "strides") [1,2],← p "pad"]),
    convolving "DepthwiseConv2d" "depthwiseConv2d" "input" [1,2],
    convolving "DepthwiseConv2dNative" "depthwiseConv2d" "input" [1,2],convolving "Conv3D" "conv3d" "x" [1,2,3],
    pooling "AvgPool" "avgPool" [1,2],pooling "MaxPool" "maxPool" [1,2],
    pooling "AvgPool3D" "avgPool3d" [1,2,3],pooling "MaxPool3D" "maxPool3d" [1,2,3] ]
where
  convolving (op fn x : String) (places : Nats) : String × OpRun :=
    (op,fun p => do
      core fn [← p x,← p "filter",pick (← p "strides") places,← p "pad",upper (← p "dataFormat"),
        pick (← p "dilations") places])
  pooling (op fn : String) (places : Nats) : String × OpRun :=
    (op,fun p => do core fn [← p "x",pick (← p "kernelSize") places,pick (← p "strides") places,← p "pad"])

def creationRuns : Named OpRun :=
  [ direct "Fill" "fill" ["shape","value","dtype"],
    direct "LinSpace" "linspace" ["start","stop","num"],
    direct "OneHot" "oneHot" ["indices","depth","onValue","offValue"],
    direct "Ones" "ones" ["shape","dtype"],same "OnesLike" "onesLike",
    direct "Range" "range" ["start","stop","step","dtype"],
    direct "Zeros" "zeros" ["shape","dtype"],same "ZerosLike" "zerosLike",
    ("TopKV2",fun p => do
      let r ← core "topk" [← p "x",← p "k",← p "sorted"]
      return [r "values",r "indices"]) ]

def graphRuns : Named OpRun :=
  [ ("Identity",clone),("StopGradient",clone),("FakeQuantWithMinMaxVars",clone),
    ("Snapshot",clone),
    ("IdentityN",fun p => return .list (← (← p "x").items.mapM cloneOf)),
    ("Shape",fun p => do shapeTensor (← p "x") "int32"),
    ("ShapeN",fun p => return .list (← (← p "x").items.mapM (shapeTensor · .absent))),
    ("Size",fun p => do countOf (← p "x") Tensor.size),
    ("Rank",fun p => do countOf (← p "x") Tensor.rank),
    ("NoOp",fun _ => return .list []),
    ("Print",fun p => p "x") ]
where
  clone : OpRun := fun p => do cloneOf (← p "x")

def imageRuns : Named OpRun :=
  [ resize "ResizeBilinear" "image.resizeBilinear",
    resize "ResizeNearestNeighbor" "image.resizeNearestNeighbor",
    direct "CropAndResize" "image.cropAndResize" ["image","boxes","boxInd","cropSize","method","extrapolationValue"] ]
where
  resize (op fn : String) : String × OpRun :=
    (op,fun p => do core fn [← p "images",pick (← p "size") [0,1],← p "alignCorners"])

def logicalRuns : Named OpRun :=
  named pairwise ["Equal","NotEqual","Greater","GreaterEqual","Less","LessEqual","LogicalAnd","LogicalOr"] ++
  ["BatchMatMul","BatchMatMulV2","MatMul"].map (fun op => direct op "matMul" ["a","b","transposeA","transposeB"]) ++
  [ direct "LogicalNot" "logicalNot" ["a"],direct "Select" "where" ["condition","a","b"],
    direct "Transpose" "transpose" ["x","perm"] ]
def normalizationRuns : Named OpRun :=
  [ batchNorm "FusedBatchNorm",batchNorm "FusedBatchNormV2",batchNorm "FusedBatchNormV3",
    direct "LRN" "localResponseNormalization" ["x","radius","bias","alpha","beta"],
    same "Softmax" "softmax",same "LogSoftmax" "logSoftmax" ]
where
  batchNorm (op : String) : String × OpRun := direct op "batchNorm" ["x","mean","variance","offset","scale","epsilon"]

def reductionRuns : Named OpRun :=
  named reducing ["Max","Mean","Min","Sum","All","Any","Prod"] ++
  [ direct "ArgMax" "argMax" ["x","axis"],direct "ArgMin" "argMin" ["x","axis"] ]

/-- Bounds and strides for one axis are widened to all axes of a tensor. -/
def widenSlice (shape : Shape) (start stop strides : Values) : Values × Values × Values :=
  if start.length == 1 && shape.length > 1 then
    let more := (shape.drop 1).map .ofNat
    (start ++ more.map fun _ => .num 0,stop ++ more,strides ++ more.map fun _ => strides 0)
  else (start,stop,strides)
def stridedSliceRun : OpRun := fun p => do
  let x ← p "x"
  let (start,stop,strides) := widenSlice (x.tensor?.elim [] (·.shape)) (← p "begin").items
    (← p "end").items (← p "strides").items
  stridedSliceHandler.2 [x,start,stop,strides,← p "beginMask",
    ← p "endMask",← p "ellipsisMask",← p "newAxisMask",← p "shrinkAxisMask"]

def packRun : OpRun := fun p => do
  scopedWith Value.tensors unnamed do
    let axis ← p "axis"
    let ts := (← p "tensors").items
    let squeezed (v : Value) := do
      let .tensor t := v | return none
      return (← tensorMethod t "squeeze" []).tensor?.map (·.shape)
    let some (.tensor first) := ts.head? | throw (.noMember "shape")
    let bare ← squeezed first
    let mapped ← ts.mapM fun v => do
      let .tensor t := v | return v
      if t.shape == first.shape then return v
      if (← squeezed v) != bare then fail "the input tensors shape does not match"
      reshapeTo t (first.shape.map .ofNat)
    core "stack" [mapped,axis]

def sliceRuns : Named OpRun :=
  ["Split","SplitV"].map (direct · "split" ["x","numOrSizeSplits","axis"]) ++
  [ direct "ConcatV2" "concat" ["tensors","axis"],direct "Concat" "concat" ["tensors","axis"],
    ("GatherV2",gather),("Gather",gather),
    direct "ReverseV2" "reverse" ["x","axis"],direct "Reverse" "reverse" ["x","axis"],
    direct "Slice" "slice" ["x","begin","size"],
    ("StridedSlice",stridedSliceRun),
    ("Pack",packRun),
    ("Unpack",fun p => scopedWith Value.tensors unnamed do
      core "unstack" [← p "tensor",← p "axis"]),
    direct "Tile" "tile" ["x","reps"],
    direct "ScatterNd" "scatterND" ["indices","values","shape"],
    direct "GatherNd" "gatherND" ["x","indices"],
    ("SparseToDense",fun p => do
      let values ← p "sparseValues"
      let default ← p "defaultValue"
      let default ← match values,default with
        | .tensor v,.tensor d =>
          if v.dtype == d.dtype then pure default
          else tensorMethod d "asType" [v.dtype.name]
        | _,_ => pure default
      core "sparseToDense" [← p "sparseIndices",values,← p "outputShape",default]) ]
where
  gather : OpRun := fun p => do
    let axis ← p "axis"
    let x ← p "x"
    let .tensor i ← p "indices" | throw (.noMember "asType")
    core "gather" [x,← tensorMethod i "asType" ["int32"],axis]

def transformationRuns : Named OpRun :=
  [ same "FFT" "spectral.fft",same "IFFT" "spectral.ifft",same "RFFT" "spectral.rfft",
    same "IRFFT" "spectral.irfft",
    direct "Cast" "cast" ["x","dtype"],direct "ExpandDims" "expandDims" ["x","axis"],
    direct "Squeeze" "squeeze" ["x","axis"],direct "Reshape" "reshape" ["x","shape"],
    ("Pad",pad),("PadV2",pad),
    blocks "SpaceToBatchND" "spaceToBatchND" "paddings",blocks "BatchToSpaceND" "batchToSpaceND" "crops",
    ("DepthToSpace",fun p => do core "depthToSpace" [← p "x",← p "blockSize",upper (← p "dataFormat")]) ]
where
  blocks (op fn edges : String) : String × OpRun :=
    (op,fun p => do core fn [← p "x",← p "blockShape",pairsIn (← p edges).items])
  pad : OpRun := fun p => do core "pad" [← p "x",pairsIn (← p "padding").items,← p "constantValue"]

def dynamicRuns : Named OpRun :=
  ["NonMaxSuppressionV2","NonMaxSuppressionV3"].map (fun op => direct op "image.nonMaxSuppressionAsync"
    ["boxes","scores","maxOutputSize","iouThreshold","scoreThreshold"]) ++
  [ direct "Where" "whereAsync" ["condition"],direct "ListDiff" "setdiff1dAsync" ["x","y"] ]
def plainRuns : Named OpRun :=
  arithmeticRuns ++ mathRuns ++ windowRuns ++ creationRuns ++ graphRuns ++ imageRuns ++ logicalRuns ++
    normalizationRuns ++ reductionRuns ++ sliceRuns ++ transformationRuns
end TensorKit.Script
