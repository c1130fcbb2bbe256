import TensorKit.Script.Arguments

/-! # Attributes of graph nodes

Text is written in base 64 or as codes of characters; long numbers may be written as text.
-/
namespace TensorKit.Script.Attr
def leadingInt (s : String) : Float :=
  let (neg,cs) := Text.readSign (s.toList.dropWhile Decimal.isSpace)
  let (n,count,_) := Decimal.readDigits 0 0 cs
  if count == 0 then Number.nan else if neg then -.ofNat n else .ofNat n

variable (attrs : Value) (v : Value)
def toNumber : Float := match v with
  | .num x => x
  | v => leadingInt v.text
def textOfBytes (data : ByteArray) : String := .ofList (data.toList.map (.ofNat ·.toNat))
def lowered (keepCase : Bool) (s : String) : String := if keepCase then s else s.toLower
def parseString (keepCase : Bool) : String :=
  lowered keepCase (match v with
    | .list xs => .ofList (xs.map fun c => .ofNat (Number.wholePart c.toNumber).toNat)
    | v => textOfBytes (Base64.decode v.text))

section
variable (name : String) (default : Value)
def string (keepCase : Bool) : Value :=
  let p := attrs name
  if p.isPresent then .str (parseString (p "s") keepCase) else default
def bool : Value :=
  let p := attrs name
  if p.truthy then p "b" else default
def number : Value :=
  let p := attrs name
  let v := if (p "i").isPresent then p "i"
    else if (p "f").isPresent then p "f" else default
  (toNumber v)

def typeName : Value := match v with
  | .str "DT_FLOAT" | .str "DT_DOUBLE" => "float32"
  | .str "DT_INT32" => "int32"
  | .str "DT_BOOL" => "bool"
  | .str "DT_STRING" => "string"
  | .num x =>
    if x == 1 || x == 2 then "float32"
    else if x == 3 then "int32"
    else if x == 10 then "bool"
    else if x == 7 then "string"
    else .null
  | _ => .null

def dtype : Value :=
  let t := (attrs name) "type"
  if t.truthy then typeName t else default
def listOf? (key : String) : Option Values := match ((attrs name) "list") key with
  | .list xs => some xs
  | _ => none
def dtypes : Value := (listOf? attrs name "type").elim default fun ts => .list (ts.map typeName)
def parseShape : Value :=
  if (v "unknownRank").truthy then .absent
  else
    match v "dim" with
    | .list ds => .list (ds.map fun d => toNumber (d "size"))
    | _ => .list []
def shape : Value :=
  let s := (attrs name) "shape"
  if s.truthy then parseShape s else default
def shapes : Value := (listOf? attrs name "shape").elim default fun ss => .list (ss.map parseShape)
def numbers : Value :=
  let p := attrs name
  if p.truthy then
    let f := (p "list") "f"
    let xs := if f.items.isEmpty then ((p "list") "i").items else f.items
    .list (xs.map fun v => toNumber v)
  else default
def strings (keepCase : Bool) : Value :=
  (listOf? attrs name "s").elim default fun ss => .list (ss.map fun s => .str (parseString s keepCase))
def bools : Value := (listOf? attrs name "b").elim default .list
end

/-- Types that attributes are declared to have. -/
inductive Kind where
  | string | strings | number | numbers | bool | shape | dtype
deriving DecidableEq

def Kind.name : Kind → String
  | .string => "string"
  | .strings => "string[]"
  | .number => "number"
  | .numbers => "number[]"
  | .bool => "bool"
  | .shape => "shape"
  | .dtype => "dtype"

def Kind.read (k : Kind) (attrs : Value) (name : String) (default : Value) : Value := match k with
  | .string => Attr.string attrs name default false
  | .strings => Attr.strings attrs name default false
  | .number => Attr.number attrs name default
  | .numbers => Attr.numbers attrs name default
  | .bool => Attr.bool attrs name default
  | .shape => Attr.shape attrs name default
  | .dtype => Attr.dtype attrs name default
end TensorKit.Script.Attr

/-! # Operations of graphs

Parameters are found among the inputs of a node, or among its attributes under a key, with a default.
-/
namespace TensorKit.Script.OpTable
open TensorKit.Graph
structure AttrParam where
  name : String
  kind : Attr.Kind
  key : String
  oldKey : Option String
  default : Value

structure OpDef where
  (op category : String)
  inputs : List InputParam
  attrs : List AttrParam

def tensor (name : String) (start : Int) : InputParam := ⟨name,.tensor,start,none,"tensor"⟩
def tensors (name : String) (stop : Option Int) (start : Int) : InputParam := ⟨name,.tensors,start,stop,"tensors"⟩
def number (name : String) (start : Int) : InputParam := ⟨name,.number,start,none,"number"⟩
def data (name typeName : String) (start : Int) : InputParam := ⟨name,.data,start,none,typeName⟩

variable (name : String) (kind : Attr.Kind)
def attr (key : String) : AttrParam := ⟨name,kind,key,none,.absent⟩
def attrOr (key : String) (default : Value) : AttrParam := ⟨name,kind,key,none,default⟩

/-- An attribute whose key is its name with underscores. -/
def sameOr (default : Value) : AttrParam := attrOr name kind (Layers.Casing.toSnake name) default
def x : Int → InputParam := tensor "x"
def operands : List (Int → InputParam) := [tensor "a",tensor "b"]
def ints : Int → InputParam := data name "number[]"
def same : AttrParam := sameOr name kind .absent
def num : AttrParam := same name .number
def flag : AttrParam := same name .bool
def numberOr (default : Float) : AttrParam := sameOr name .number default
def typed : AttrParam := attr "dtype" .dtype "T"
def pad : AttrParam := attr "pad" .string "padding"
def format : AttrParam := same "dataFormat" .string
def nhwc : AttrParam := sameOr "dataFormat" .string "NHWC"
def strides : AttrParam := same "strides" .numbers
def dtype : AttrParam := same "dtype" .dtype
def filter : Int → InputParam := tensor "filter"
def arrayId : Int → InputParam := number "tensorArrayId"

/-- Operations of each family, those with the same parameters together; inputs are in their order. -/
def knownOps : List OpDef :=
  [ ("arithmetic",[(["Add","AddV2","BiasAdd","Sub","RealDiv","Div","FloorDiv","Mul","Pow","SquaredDifference","Mod",
    "FloorMod"],operands,[typed]),(["AddN"],[tensors "tensors" (some 0)],[]),(["Maximum","Minimum"],operands,[])]),
    ("basic_math",[(["Abs","Acos","Asin","Atan","Ceil","ComplexAbs","Cos","Cosh","Elu","Exp","Floor","Log","Neg",
    "Relu","Selu","Sigmoid","Sin","Sinh","Sqrt","Rsqrt","Square","Tan","Tanh","Sign","Round","Expm1","Log1p",
    "Reciprocal","Softplus","Asinh","Acosh","Atanh","Erf"],[x],[typed]),(["Atan2"],[x,tensor "y"],[typed]),
    (["ClipByValue"],[x],[num "clipValueMin",num "clipValueMax"]),
    (["Complex"],[tensor "real",tensor "imag"],[typed]),
    (["Imag","Real"],[x],[typed,attr "outputType" .dtype "Tout"]),(["Prelu"],[x,tensor "alpha"],[typed]),
    (["Relu6"],[x],[typed,attrOr "clipValueMin" .number "clipValueMin" 0,
    attrOr "clipValueMax" .number "clipValueMax" 6]),(["LeakyRelu"],[x],[numberOr "alpha" 0.2,typed])]),
    ("reduction",[(["Prod","Max","Mean","Min","Sum","All","Any"],[x,ints "axis"],[flag "keepDims"]),
    (["ArgMax","ArgMin"],[x,number "axis"],[])]),
    ("control",[(["LoopCond"],[tensor "pred"],[]),(["Switch"],[tensor "data",tensor "pred"],[]),
    (["Merge"],[tensors "tensors" (some 0)],[]),
    (["Enter"],[tensor "tensor"],[typed,same "frameName" .string,flag "isConstant"]),
    (["Exit","NextIteration"],[tensor "tensor"],[typed]),
    (["TensorArrayV3"],[number "size"],[dtype,same "elementShape" .shape,flag "dynamicSize",flag "clearAfterRead",
    flag "identicalElementShapes",attr "name" .string "tensor_array_name"]),
    (["TensorArrayWriteV3"],[arrayId,number "index",tensor "tensor",number "flowIn"],[typed]),
    (["TensorArrayReadV3"],[arrayId,number "index",number "flowIn"],[dtype]),
    (["TensorArrayGatherV3"],[arrayId,ints "indices",number "flowIn"],[dtype,same "elementShape" .shape]),
    (["TensorArrayScatterV3"],[arrayId,ints "indices",tensor "tensor",number "flowIn"],[typed]),
    (["TensorArrayConcatV3"],[arrayId,number "flowIn"],[dtype,same "elementShapeExcept0" .shape]),
    (["TensorArraySplitV3"],[arrayId,tensor "tensor",ints "lengths",number "flowIn"],[typed]),
    (["TensorArraySizeV3"],[arrayId,number "flowIn"],[]),(["TensorArrayCloseV3"],[arrayId],[])]),
    ("convolution",[(["AvgPool","MaxPool","AvgPool3D","MaxPool3D"],[x],[strides,pad,format,
    attr "kernelSize" .numbers "ksize",typed]),
    (["Conv1D"],[x,filter],[num "stride",pad,sameOr "dataFormat" .string "NWC",typed,numberOr "dilation" 1]),
    (["Conv2D"],[x,filter],[typed,strides,pad,attr "useCudnnOnGpu" .bool "useCudnnOnGpu",nhwc,
    same "dilations" .numbers]),
    (["_FusedConv2D"],[x,filter,tensors "args" (some 0)],[num "numArgs",typed,strides,pad,
    sameOr "explicitPaddings" .numbers (.list []),sameOr "useCudnnOnGpu" .bool true,nhwc,
    sameOr "dilations" .numbers (.list [1,1,1,1]),sameOr "fusedOps" .strings (.list []),
    numberOr "epsilon" 0.0001]),
    (["Conv2DBackpropInput"],[fun _ => tensor "x" 2,filter,fun _ => ints "outputShape" 0],[strides,pad,format]),
    (["DepthwiseConv2d","DepthwiseConv2dNative"],[tensor "input",filter],[strides,pad,nhwc,
    same "dilations" .numbers]),(["Conv3D"],[x,filter],[strides,pad,nhwc,same "dilations" .numbers])]),
    ("creation",[(["Fill"],[ints "shape",number "value"],[typed]),
    (["LinSpace"],[number "start",number "stop",number "num"],[typed]),
    (["OneHot"],[tensor "indices",number "depth",number "onValue",number "offValue"],[num "axis",typed]),
    (["Ones","Zeros"],[ints "shape"],[typed]),(["OnesLike"],[x],[dtype]),
    (["RandomUniform"],[ints "shape"],[numberOr "minval" 0,numberOr "maxval" 1,dtype,numberOr "seed" 0,
    numberOr "seed2" 0,attr "T" .number "T"]),
    (["Range"],[number "start",number "stop",number "step"],[attr "dtype" .dtype "Tidx"]),
    (["TruncatedNormal"],[ints "shape"],[attrOr "mean" .number "means" 0.0,attrOr "stdDev" .number "stddev" 1.0,
    num "seed",numberOr "seed2" 0,dtype,attr "T" .number "T"]),(["ZerosLike"],[x],[typed]),
    (["Multinomial"],[tensor "logits",number "numSamples"],[num "seed",num "seed2",typed,
    same "output_dtype" .dtype])]),
    ("dynamic",[(["NonMaxSuppressionV2"],[tensor "boxes",tensor "scores",number "maxOutputSize",
    number "iouThreshold"],[]),
    (["NonMaxSuppressionV3"],[tensor "boxes",tensor "scores",number "maxOutputSize",number "iouThreshold",
    number "scoreThreshold"],[]),(["Where"],[tensor "condition"],[typed]),(["ListDiff"],[x,tensor "y"],[typed])]),
    ("evaluation",[(["TopKV2"],[x,number "k"],[flag "sorted"])]),
    ("logical",[(["Equal","NotEqual","Greater","GreaterEqual","Less","LessEqual","LogicalAnd","LogicalOr"],operands,
    [typed]),(["LogicalNot"],[tensor "a"],[typed]),
    (["Select"],[tensor "condition",tensor "a",tensor "b"],[typed])]),
    ("image",[(["ResizeBilinear","ResizeNearestNeighbor"],[tensor "images",ints "size"],[flag "alignCorners",typed]),
    (["CropAndResize"],[tensor "image",tensor "boxes",tensor "boxInd",ints "cropSize"],[same "method" .string,
    num "extrapolationValue"])]),
    ("graph",[(["PlaceholderWithDefault"],[tensor "default"],[same "shape" .shape,dtype]),
    (["Placeholder"],[],[same "shape" .shape,dtype]),(["Const","NoOp"],[],[]),
    (["Identity","Snapshot","Rank","Size","Shape","StopGradient"],[x],[]),
    (["IdentityN","ShapeN"],[tensors "x" (some 0)],[]),
    (["Print"],[x,tensors "data" none],[same "message" .string,num "firstN",numberOr "summarize" 3]),
    (["FakeQuantWithMinMaxVars"],[x],[num "min",num "max"])]),
    ("matrices",[(["MatMul"],operands,[sameOr "transposeA" .bool false,sameOr "transposeB" .bool false,typed]),
    (["BatchMatMul","BatchMatMulV2"],operands,[attrOr "transposeA" .bool "adj_x" false,
    attrOr "transposeB" .bool "adj_y" false,typed]),(["Transpose"],[x,ints "perm"],[typed])]),
    ("normalization",[(["FusedBatchNorm","FusedBatchNormV2","FusedBatchNormV3"],[x,tensor "scale",tensor "offset",
    tensor "mean",tensor "variance"],[numberOr "epsilon" 0.001,format]),
    (["LRN"],[x],[attrOr "radius" .number "depth_radius" 5,numberOr "bias" 1.0,numberOr "alpha" 1.0,
    numberOr "beta" 0.5]),(["Softmax","LogSoftmax"],[x],[])]),
    ("slice_join",[(["SparseToDense"],[tensor "sparseIndices",ints "outputShape",tensor "sparseValues",
    tensor "defaultValue"],[sameOr "validateIndices" .bool false]),
    (["ConcatV2"],[tensors "tensors" (some (-1)),fun _ => number "axis" (-1)],[]),
    (["Concat"],[fun _ => tensors "tensors" (some 0) 1,fun _ => number "axis" 0],[]),
    (["GatherV2"],[x,tensor "indices",number "axis"],[]),
    (["Gather"],[x,tensor "indices"],[numberOr "axis" 0,flag "validateIndices"]),
    (["Reverse"],[x,data "dims" "bool"],[]),(["ReverseV2"],[x,ints "axis"],[]),
    (["Slice"],[x,ints "begin",ints "size"],[]),
    (["StridedSlice"],[x,ints "begin",ints "end",ints "strides"],[numberOr "beginMask" 0,numberOr "endMask" 0,
    numberOr "newAxisMask" 0,numberOr "ellipsisMask" 0,numberOr "shrinkAxisMask" 0]),
    (["Pack"],[tensors "tensors" (some 0)],[numberOr "axis" 0]),
    (["Unpack"],[tensor "tensor"],[numberOr "axis" 0,numberOr "num" 0]),(["Tile"],[x,ints "reps"],[]),
    (["Split"],[number "axis",tensor "x"],[attrOr "numOrSizeSplits" .number "num_split" 1]),
    (["SplitV"],[x,ints "numOrSizeSplits",number "axis"],[]),
    (["ScatterNd"],[tensor "indices",tensor "values",ints "shape"],[]),(["GatherNd"],[x,tensor "indices"],[])]),
    ("spectral",[(["FFT","IFFT"],[x],[]),(["RFFT","IRFFT"],[x,number "fft_length"],[])]),
    ("transformation",[(["Cast"],[x],[attr "sdtype" .dtype "SrcT",attr "dtype" .dtype "DstT"]),
    (["ExpandDims"],[x,number "axis"],[]),(["Pad"],[x,ints "padding"],[numberOr "constantValue" 0]),
    (["PadV2"],[x,ints "padding",number "constantValue"],[]),(["Reshape"],[x,ints "shape"],[]),
    (["Squeeze"],[x],[⟨"axis",.numbers,"axis",some "squeeze_dims",.absent⟩]),
    (["SpaceToBatchND"],[x,ints "blockShape",ints "paddings"],[]),
    (["BatchToSpaceND"],[x,ints "blockShape",ints "crops"],[]),(["DepthToSpace"],[x],[num "blockSize",format])]) ].flatMap
      fun (category,groups) => groups.flatMap fun (names,inputs,attrs) => names.map (⟨·,category,inputs.mapIdx fun i p => p i,attrs⟩)
end TensorKit.Script.OpTable
