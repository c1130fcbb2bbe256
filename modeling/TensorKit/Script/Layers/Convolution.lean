import TensorKit.Script.Layers.Core

/-! # Convolutional layers -/
namespace TensorKit.Script
open Layers List

/-! ## Convolutions on tensors -/

def lastFrom (x : Value) : Reply := core "transpose" [x,.ofNats (0 :: (range (rankOf x - 2)).map (· + 2) ++ [1])]
def firstFrom (x : Value) : Reply :=
  core "transpose" [x,.ofNats (0 :: (rankOf x - 1) :: (range (rankOf x - 2)).map (· + 1))]
def channelsToLast (x format : Value) : Reply := tidied do
  requireDataFormat format
  if format.text == "channelsFirst" then lastFrom x else return x
def channelsToFirst (x format : Value) : Reply := if format.text == "channelsFirst" then firstFrom x else return x

variable (v : Value) (rank : Nat) (id : Nat) (args : Value)
def formatOr : Value := v.orElse "channelsLast"
def checkedFormat : Reply := do
  let format := formatOr v
  requireDataFormat format
  return format
def padWord (padding : Value) : Value := if padding.text == "same" then "same" else "valid"
variable (x kernel bias strides padding format dilation : Value) (fn : String) (dims : Dims) (form : Form)
def requireCausalFree (padding : Value) : Act := do
  if padding.text == "causal" then unsupported s!"The support for CAUSAL padding mode in {fn} is not implemented yet."

def convolve1 : Reply := tidied do
  let format ← checkedFormat format
  if rankOf x != 3 then badValue s!"The input of a conv1dWithBias operation should be 3, but is {rankOf x} instead."
  if rankOf kernel != 3 then
    badValue s!"The kernel for a conv1dWithBias operation should be 3, but is {rankOf kernel} instead"
  if bias.isPresent && rankOf bias != 1 then
    badValue s!"The bias for a conv1dWithBias operation should be 1, but is {rankOf kernel} instead"
  let x ← if format.text == "channelsFirst" then core "transpose" [x,.ofNats [0,2,1]] else pure x
  requireCausalFree "conv1dWithBias" padding
  biased (← core "conv1d" [x,kernel,strides,padWord padding,"NWC",dilation]) bias .absent

def requireRanks (low : Nat) (x kernel : Value) : Act := do
  for (what,v) in [("input",x),("kernel",kernel)] do
    if rankOf v != low && rankOf v != low + 1 then
      badValue s!"{fn} expects {what} to be of rank {low} or {low + 1}, but received {rankOf x}."

def convolve2 (bias strides padding format dilation activation : Value) : Reply := tidied do
  let format ← checkedFormat format
  requireRanks "conv2dWithBiasActivation" 3 x kernel
  let y ← channelsToLast x format
  requireCausalFree "conv1dWithBias" padding
  let y ← core "fused.conv2d" [.record [("x",y),("filter",kernel),("strides",strides),
    ("pad",padWord padding),("dilations",dilation),("dataFormat","NHWC"),("bias",bias),
    ("activation",activation)]]
  channelsToFirst y format

def convolve3 : Reply := tidied do
  let format ← checkedFormat format
  requireRanks "conv3dWithBias" 4 x kernel
  let y ← channelsToLast x format
  requireCausalFree "conv3dWithBias" padding
  let y ← core "conv3d" [y,kernel,strides,padWord padding,"NDHWC",dilation]
  channelsToFirst (← biased y bias .absent) format

def convolveDepthwise (strides padding format dilation : Value) : Reply := tidied do
  let format ← checkedFormat format
  let y ← channelsToLast x format
  if rankOf x != 4 then badValue s!"Input for depthwiseConv2d is required to be 4-D, but is instead {rankOf x}-D"
  if rankOf kernel != 4 then badValue s!"depthwiseKernel is required to be 4-D, but is instead {rankOf kernel}-D"
  let y ← core "depthwiseConv2d" [y,kernel,strides,padWord padding,"NHWC",dilation]
  channelsToFirst y format

/-! ## Settings -/

def isListOf (type : String) (least most : Float) : Bool := match v with
  | .list xs =>
    let n := .ofNat xs.length
    n >= least && n <= most && xs.all (typeName · == type)
  | _ => false
def lengthOf : Script Nat := do
  match v with
  | .list xs => return xs.length
  | .str s => return Text.units s
  | .typed _ xs => return xs.size
  | v => throw (.unreadable v.text "length")
def isWholeValue : Value → Bool
  | .num x => Number.isWhole x
  | _ => false

def requireWholes (isWhole : Value → Bool) (count n : Nat) (name : String) : Reply := do
  if count != n then
    badValue s!"The {name} argument must be an integer or tuple of {n} integers. Received: {count} elements."
  let some x := v.items.find? (!isWhole ·) | return v
  badValue (s!"The {name} argument must be an integer or tuple of {n} integers. Received: " ++ jsonText v ++
    " including a non-integer number " ++ x.text)

def forEachDim (n : Nat) (name : String) : Reply := do
  let .num x := v | requireWholes v isWholeValue (← lengthOf v) n name
  return .list (replicate n x)
def isNumber (v : Value) : Bool := v matches .num _

def settleWindow : Act := do
  let size := args "kernelSize"
  if !args.fields.any (·.1 == "kernelSize") then throw ⟨.assertion,"required key 'kernelSize' not in config"⟩
  if !isNumber size && !isListOf size "number" 1 3 then
    badValue ("BaseConv expects config.kernelSize to be number or number[] with " ++
      "length 1, 2, or 3, but received " ++ jsonOrUndefined size ++ ".")
  putSetting id "rank" rank
  putSetting id "kernelSize" (← forEachDim size rank "kernelSize")
  putSetting id "strides" (← forEachDim ((args "strides").orElse 1) rank "strides")
  settle id args [("padding",.or "valid")]
  requirePadding (← setting id "padding")
  settle id args [("dataFormat",.or "channelsLast")]
  requireDataFormat (← setting id "dataFormat")
  settle id args [("activation",.activation),("useBias",.or true),("biasInitializer",.initializer "zeros"),
    ("biasConstraint",.constraint),("biasRegularizer",.regularizer),("activityRegularizer",.regularizer)]
  putSetting id "dilationRate" (← forEachDim ((args "dilationRate").orElse 1) rank "dilationRate")

def windowShown : Strings :=
  ["kernelSize","strides","padding","dataFormat","dilationRate","activation","useBias",
    "biasInitializer","biasRegularizer","activityRegularizer","biasConstraint"]
def requireFilters : Act := do
  let filters := args "filters"
  if !isNumber filters || filters.toNumber < 1 then
    badValue ("Convolution layer expected config.filters to be a 'number' > 0 but got " ++ jsonOrUndefined filters)
def settleConv : Act := do
  settleWindow rank id args
  requireFilters args
  settle id args [("filters",.given)]
  requirePositive (args "filters") "filters"
  settle id args [("kernelInitializer",.initializer "glorotNormal"),("kernelConstraint",.constraint),
    ("kernelRegularizer",.regularizer)]
def convShown : Strings := ["filters","kernelInitializer","kernelRegularizer","kernelConstraint"] ++ windowShown

/-! ## Layers with filters -/

def channelAxisOf : Script Nat := do if ← isChannelsFirst id then return 1 else return dims.length - 1

/-- Runs on a value with its channels last. -/
def withChannelsLast (f : Value → Reply) : Reply := do
  if ← isChannelsFirst id then firstFrom (← f (← lastFrom x)) else f x

/-- The lengths that windows leave of those given. -/
def windowed (space : Dims) (sizes : String) (dilations : Values) : Script Dims := do
  let s ← settings id
  return space.zipIdx.map fun (d,i) => windowLength d ((s sizes).items i).toNumber ((s "padding").text == "same")
    ((s "strides").items i).toNumber ((dilations.getD i 1).toNumber)
def finishConv (ndim axis : Nat) (channels : Dim) (biases : Value) : Act := do
  if ← isSet id "useBias" then addWeight id "bias" [biases]
  putSpecs id [{ ndim := some ndim, axes := [(axis,channels)] }]
  markBuilt id

/-- Makes the weights; `ends` orders the channels of the input and the filters. -/
def buildKernel (unknown : String) (ends : Value → Value → Values) : Act := do
  let axis ← channelAxisOf id dims
  let some channels := dims.dim axis | badValue ("The channel dimension of the " ++ unknown)
  let s ← settings id
  addWeight id "kernel" (.list ((s "kernelSize").items ++ ends channels (s "filters")))
  finishConv id (natOr (s "rank") 2 + 2) axis (some channels) (s "filters")

def buildConv : Act := do buildKernel id (← oneShape form) "input should be defined. Found null" fun c f => [c,f]

def callConv : Reply := do
  let kernel ← weight id "kernel"
  let bias ← weight id "bias"
  let s ← settings id
  let fused := fusedName (s "activation")
  let run f : Reply := f x kernel bias (s "strides") (s "padding") (s "dataFormat") (s "dilationRate")
  let run2 activation := run (convolve2 · · · · · · · activation)
  let first (v : Value) := v.items 0
  let y ← match natOr (s "rank") 2 with
    | 2 => if fused.isPresent then run2 fused else run2 .null
    | 1 => run fun x k b strides p f dilation => convolve1 x k b (first strides) p f (first dilation)
    | _ => run convolve3
  applyPart (s "activation") [y]

def activated (y : Value) : Reply := do
  applyPart (← setting id "activation") [← biased y (← weight id "bias") (← setting id "dataFormat")]
def convShape : Script Dims := do
  let first ← isChannelsFirst id
  let space := if first then dims.drop 2 else (dims.drop 1).dropLast
  let out ← windowed id space "kernelSize" (← setting id "dilationRate").items
  let filters := (← setting id "filters").toDim
  return if first then [dims.given 0,filters] ++ out else [dims.given 0] ++ out ++ [filters]
variable (title : String) (op : String)
def convClass (rank : Nat) (check : Value → Act) (shown : Strings) : LayerClass :=
  { plainClass title (fun id args => do
        settleConv rank id args
        check args) shown with
    build := buildConv
    call := callOne callConv
    outputShape := shapeOne convShape }
def requireSize (wanted : String) (fits : Value → Bool) (args : Value) : Act := do
  let size := args "kernelSize"
  if !isNumber size && !fits size then
    badValue s!"{title} expects config.kernelSize to be number or {wanted}, but received {jsonText size}."
def requireSize2 : Value → Act := requireSize "Conv2D" "number[] with length 1 or 2" (isListOf · "number" 1 2)
def conv1dClass : LayerClass :=
  let fits := requireSize "Conv1D" "number[] with length 1" (isListOf · "number" 1 1)
  let c := convClass "Conv1D" 1 fits (convShown.filter (· != "dataFormat"))
  { c with create := fun args => do
      let id ← c.create args
      putRank id 3
      return id }
def conv3dClass : LayerClass :=
  let fits v := v.isList && (v.items.length == 1 || v.items.length == 3)
  convClass "Conv3D" 3 (requireSize "Conv3D" "[number, number, number]" fits) convShown

/-! ## Transposed convolution -/

def unwindowed (d : Dim) (stride size : Float) (padding : String) : Script Dim := do
  let some n := d | return none
  match padding with
  | "valid" => return some (n * stride + (← largestOf [size - stride,0]))
  | "same" => return some (n * stride)
  | p => badValue s!"Unsupport padding mode: {p}."

def deconvShape : Script Dims := do
  let (c,h,w) := if ← isChannelsFirst id then (1,2,3) else (3,1,2)
  let s ← settings id
  let length axis i :=
    unwindowed (dims.dim axis) ((s "strides").numsD.getD i 1) ((s "kernelSize").numsD.getD i 1) (s "padding").text
  let rows ← length h 0
  return ((dims.set c (s "filters").toDim).set h rows).set w (← length w 1)

def conv2dTransposeClass : LayerClass :=
  let c := convClass "Conv2DTranspose" 2 requireSize2 (convShown.filter (· != "dilationRate"))
  { c with
    create := fun args => do
      let id ← c.create args
      putRank id 4
      let padding := (← setting id "padding").text
      if padding != "same" && padding != "valid" then
        badValue ("Conv2DTranspose currently supports only padding modes 'same' " ++
          s!"and 'valid', but received padding mode {padding}")
      return id
    build := fun id form => do
      let dims ← oneShape form
      if dims.length != 4 then
        badValue ("Input should have rank 4; Received input shape: " ++ jsonText (dimsValue dims))
      buildKernel id dims "inputs should be defined. Found `None`." fun c f => [f,c]
    call := callOne fun id x => do
      if rankOf x != 4 then
        badValue s!"Conv2DTranspose.call() expects input tensor to be rank-4, but received a tensor of rank-{rankOf x}"
      let out ← deconvShape id (.ofShape (shapeOf x))
      let out := if ← isChannelsFirst id then [out.dim 0,out.dim 2,out.dim 3,out.dim 1] else out
      activated id (← withChannelsLast id x fun x => do
        core "conv2dTranspose" [x,← weight id "kernel",dimsValue out,← setting id "strides",← setting id "padding"])
    outputShape := shapeOne deconvShape }

/-! ## Separable and depthwise convolution -/

/-- Adds a kernel for each channel and gives the number of channels that come out. -/
def addDepthwise (channels : Dim) : Reply := do
  let s ← settings id
  let multiplier := s "depthMultiplier"
  let n := Dims.number channels
  addNamedWeight id "depthwiseKernel" "depthwise_kernel" "depthwise"
    (.list ((s "kernelSize").items ++ [.num n,multiplier]))
  return .num (n * multiplier.toNumber)

def separableConv2dClass : LayerClass :=
  let c := convClass "SeparableConv2D" 2 (fun _ => pure ()) []
  { c with
    create := fun args => do
      let id ← c.create args
      let has k := (args k).isPresent
      if has "kernelInitializer" || has "kernelRegularizer" || has "kernelConstraint" then
        badValue ("Fields kernelInitializer, kernelRegularizer and kernelConstraint are invalid for " ++
          "SeparableConv2D. Use depthwiseInitializer, depthwiseRegularizer, depthwiseConstraint, " ++
          "pointwiseInitializer, pointwiseRegularizer and pointwiseConstraint instead.")
      let padding := args "padding"
      if padding.isPresent && padding.text != "same" && padding.text != "valid" then
        badValue ("SeparableConv2D supports only padding modes: " ++
          "'same' and 'valid', but received " ++ jsonText padding)
      settle id args [("depthMultiplier",.or 1)]
      -- One setting gives the initial values of both kernels.
      let start ← initializerOr (args "depthwiseInitializer") "glorotUniform"
      putSetting id "depthwiseInitializer" start
      settle id args [("depthwiseRegularizer",.regularizer),("depthwiseConstraint",.constraint)]
      putSetting id "pointwiseInitializer" start
      settle id args [("pointwiseRegularizer",.regularizer),("pointwiseConstraint",.constraint)]
      return id
    build := fun id form => do
      let dims ← oneShape form
      if dims.length < 4 then
        badValue ("Inputs to SeparableConv2D should have rank 4, but received input shape: " ++
          jsonText (dimsValue dims))
      let axis ← channelAxisOf id dims
      let channels := dims.dim axis
      if isUnknownDim channels then
        badValue ("The channel dimension of the inputs should be defined, but found " ++ jsonText (dimValue channels))
      let n ← addDepthwise id channels
      let filters ← setting id "filters"
      addNamedWeight id "pointwiseKernel" "pointwise_kernel" "pointwise" (.list [1,1,n,filters])
      finishConv id 4 axis channels filters
    call := callOne fun id x => withChannelsLast id x fun x => do
      let s ← settings id
      activated id (← core "separableConv2d" [x,← weight id "depthwiseKernel",← weight id "pointwiseKernel",
        s "strides",s "padding",s "dilationRate","NHWC"])
    config := fun id => do
      let base ← shownConfig (convShown.filter fun k =>
        !(["kernelInitializer","kernelRegularizer","kernelConstraint"].contains k)) id
      let s ← settings id
      let own k := (k,settingConfig k (s k))
      return base ++ ["Initializer","Regularizer","Constraint"].flatMap fun w =>
        [own ("depthwise" ++ w),own ("pointwise" ++ w)] }

def depthwiseConv2dClass : LayerClass :=
  { plainClass "DepthwiseConv2D" (fun id args => do
        settleWindow 2 id args
        settle id args [("depthMultiplier",.or 1),("depthwiseInitializer",.initializer "glorotNormal"),
          ("depthwiseConstraint",.constraint),("depthwiseRegularizer",.regularizer)])
      [] with
    build := fun id form => do
      let dims ← oneShape form
      if dims.length < 4 then
        badValue ("Inputs to DepthwiseConv2D should have rank 4. " ++
          "Received input shape: " ++ jsonText (dimsValue dims) ++ ".")
      let channels := dims.dim (if ← isChannelsFirst id then 1 else 3)
      if isUnknownDim channels then
        badValue ("The channel dimension of the inputs to DepthwiseConv2D should " ++
          "be defined, but is not (" ++ (dimValue channels).text ++ ").")
      let n ← addDepthwise id channels
      if ← isSet id "useBias" then addWeight id "bias" (.list [n])
      markBuilt id
    call := callOne fun id x => do
      let s ← settings id
      activated id (← convolveDepthwise x (← weight id "depthwiseKernel") (s "strides") (s "padding")
        (s "dataFormat") .null)
    outputShape := shapeOne fun id dims => do
      let first ← isChannelsFirst id
      let (h,c) := if first then (2,1) else (1,3)
      let space ← windowed id [dims.given h,dims.given (h + 1)] "kernelSize" []
      let out := some (Dims.number (dims.dim c) * (← setting id "depthMultiplier").toNumber)
      return dims.given 0 :: if first then out :: space else space ++ [out]
    config := fun id => do
      let base ← shownConfig windowShown id
      let s ← settings id
      let regularizer := partConfig (s "depthwiseRegularizer")
      return base ++ [("depthMultiplier",s "depthMultiplier"),
        ("depthwiseInitializer",partConfig (s "depthwiseInitializer")),
        ("depthwiseRegularizer",regularizer),("depthwiseConstraint",regularizer)] }

/-! ## Cropping and upsampling -/

def absentOr (default : Value) : Value := if v.isAbsent then default else v
def crops : Script (Nat → Nat → Float) := do
  let cropping := (← setting id "cropping").items
  return fun i j => ((cropping i).items j).toNumber

def croppingClass : LayerClass :=
  { plainClass "Cropping2D" (fun id args => do
        let twice (x : Value) := .list [x,x]
        let cropping := args "cropping"
        let cropping ← match cropping with
          | .num x => pure (twice (twice x))
          | .list (.num a :: rest) => pure (.list [twice a,twice (rest 0)])
          | .absent | .null => throw (.unreadable cropping.text "0")
          | v => pure v
        putSettings id [("cropping",cropping),("dataFormat",absentOr (args "dataFormat") "channelsLast")]
        putRank id 4)
      ["cropping","dataFormat"] with
    call := callOne fun id x => do
      let crop ← crops id
      let len (axis i) := .ofNat ((shapeOf x).getD axis 0) - crop i 0 - crop i 1
      let last := (← setting id "dataFormat").text == "channelsLast"
      let (h,w) := if last then (1,2) else (2,3)
      let y ← sliceAxis x (crop 0 0) (len h 0) (.ofNat (h + 1))
      sliceAxis y (crop 1 0) (len w 1) (.ofNat (w + 1))
    outputShape := shapeOfFirst fun id dims => do
      let crop ← crops id
      alongSpace id dims fun i axis => some (Dims.number (dims.dim axis) - crop i 0 - crop i 1) }

def upSamplingClass : LayerClass :=
  { plainClass "UpSampling2D" (fun id args => do
        putRank id 4
        putSettings id [("size",(args "size").orElse (.list [2,2])),("dataFormat",formatOr (args "dataFormat"))])
      ["size","dataFormat"] with
    call := callOne fun id x => do
      let size := (← setting id "size").items
      withChannelsLast id x fun x => do
        let scaled i := .num ((size i).toNumber * .ofNat ((shapeOf x).getD (i + 1) 0))
        core "image.resizeNearestNeighbor" [x,.list [scaled 0,scaled 1]]
    outputShape := shapeOfFirst fun id dims => do
      let size := (← setting id "size").items
      alongSpace id dims fun i axis => (dims.given axis).map ((size i).toNumber * ·) }

def convolutionClasses : List LayerClass :=
  [ conv1dClass,convClass "Conv2D" 2 requireSize2 convShown,conv3dClass,conv2dTransposeClass,
    separableConv2dClass,depthwiseConv2dClass,croppingClass,upSamplingClass ]

def convolutionTable : Handlers :=
  let run (a : Values) (strides : Value) f : Reply := f (absentOr (a 2) strides) (absentOr (a 3) "valid") (a 4) (a 5)
  let ones n := .ofNats (replicate n 1)
  [ ("backend.conv1d",fun a => run a 1 fun s p f d => convolve1 (a 0) (a 1) .null s p f (absentOr d 1)),
    ("backend.conv2d",fun a => run a (ones 2) (convolve2 (a 0) (a 1) .null · · · · .absent)),
    ("backend.conv3d",fun a => run a (ones 3) (convolve3 (a 0) (a 1) .null)),
    ("backend.depthwiseConv2d",fun a => run a (ones 2) (convolveDepthwise (a 0) (a 1))),
    ("backend.temporalPadding",on2 padTime) ]

/-! # Pooling layers -/

def pool (x size strides padding format mode : Value) : Reply := tidied do
  requireDataFormat format
  requirePoolMode mode
  requirePadding padding
  let format := formatOr format
  let x ← channelsToLast x format
  let strides := strides.orElse (.ofNats (replicate rank 1))
  let op := if (mode.orElse "max").text == "max" then "maxPool" else "avgPool"
  let y ← core (if rank == 2 then op else op ++ "3d") [x,size,strides,padWord padding]
  if format.text == "channelsFirst" then core "transpose" [y,.ofNats (0 :: (rank + 1) :: (range rank).map (· + 1))]
  else return y

/-! ## Windows -/

def oneNumber (name : String) : Reply := do
  match v with
  | .num x => return .list [x]
  | .list [.num x] => return .list [x]
  | v =>
    badValue (s!"{name} for 1D convolutional layer must be a number or an " ++
      "Array of a single number, but received " ++ jsonOrUndefined v)

def pooling1Class (mode : String) : LayerClass :=
  { plainClass title (fun id args => do
        let size ← oneNumber ((args "poolSize").orElse 2) "poolSize"
        requirePositive size "poolSize"
        let strides := args "strides"
        let strides ← if strides.isPresent then oneNumber strides "strides" else pure size
        requirePositive strides "strides"
        let padding := (args "padding").orElse "valid"
        requirePadding padding
        putSettings id [("poolSize",size),("strides",strides),("padding",padding)]
        putRank id 3)
      ["poolSize","padding","strides"] with
    call := fun id inputs _ => tidied do
      let x ← widen (← oneTensor inputs) 2
      let s ← settings id
      let one k := [(s k).items 0,1]
      let y ← pool 2 x (one "poolSize") (one "strides") (s "padding") "channelsLast" mode
      core "squeeze" [y,.ofNats [2]]
    outputShape := shapeOne fun id dims =>
      return dims.given 0 :: (← windowed id [dims.given 1] "poolSize" []) ++ [dims.given 2] }

def settlePooling (args : Value) : Act := do
  let all v := .list (replicate rank v)
  let size := match (args "poolSize").orElse (all (.num 2)) with
    | .list xs => .list xs
    | v => all v
  let strides ← match args "strides" with
    | .absent | .null => pure size
    | .list xs =>
      if xs.length != rank then
        badValue (s!"If the strides property of a {rank}D pooling layer is an Array, it is expected to have a " ++
          s!"length of {rank}, but received length {xs.length}.")
      pure (.list xs)
    | v => pure (all v)
  requirePositive size "poolSize"
  requirePositive strides "strides"
  let padding := (args "padding").orElse "valid"
  let format := formatOr (args "dataFormat")
  requireDataFormat format
  requirePadding padding
  putSettings id [("poolSize",size),("strides",strides),("padding",padding),("dataFormat",format)]
  putRank id (rank + 2)

def poolingClass (title mode : String) : LayerClass :=
  { plainClass title (settlePooling rank) ["poolSize","padding","strides","dataFormat"] with
    call := fun id inputs _ => onOne inputs fun x => do
      let s ← settings id
      pool rank x (s "poolSize") (s "strides") (s "padding") (s "dataFormat") mode
    outputShape := shapeOne fun id dims => do
      let first ← isChannelsFirst id
      let space ← windowed id ((range rank).map fun i => dims.given (if first then i + 2 else i + 1)) "poolSize" []
      return if first then [dims.given 0,dims.given 1] ++ space
        else [dims.given 0] ++ space ++ [dims.given (rank + 1)] }

/-! ## The whole extent -/

def wholePooling1Class : LayerClass :=
  { (plainClass title (fun id _ => putRank id 3) []).argsOptional with
    call := fun _ inputs _ => onOne inputs fun x => core op [x,1]
    outputShape := shapeOne fun _ dims => return [dims.given 0,dims.given 2] }

def wholePooling2Class : LayerClass :=
  { plainClass title (fun id args => do
        let format := formatOr (args "dataFormat")
        putSetting id "dataFormat" format
        requireDataFormat format
        putRank id 4)
      ["dataFormat"] with
    call := fun id inputs _ => onOne inputs fun x => do
      core op [x,.ofNats (if ← isChannelsFirst id then [2,3] else [1,2])]
    outputShape := shapeOne fun id dims => return [dims.given 0,dims.given (if ← isChannelsFirst id then 1 else 3)] }

def LayerClass.readingFirst (c : LayerClass) (name : String) : LayerClass :=
  { c with create := fun args => do
      let _ ← memberOf args name
      c.create args }
def poolingClasses : List LayerClass :=
  ([("Max","max"),("Average","avg")].flatMap fun (t,mode) => pooling1Class (t ++ "Pooling1D") mode ::
    [2,3].map fun n => poolingClass n s!"{t}Pooling{n}D" mode).map (·.readingFirst "poolSize") ++
  [("Max","max"),("Average","mean")].flatMap fun (t,op) =>
    [wholePooling1Class s!"Global{t}Pooling1D" op,wholePooling2Class s!"Global{t}Pooling2D" op]
def poolingTable : Handlers :=
  [2,3].map fun n => (s!"backend.pool{n}d",fun a => pool n (a 0) (a 1) (a 2) (a 3) (a 4) (a 5))
end TensorKit.Script
