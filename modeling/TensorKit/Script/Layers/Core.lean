import TensorKit.Script.Layers.Layer

/-! # Basic layers -/
namespace TensorKit.Script
open Layers
variable (id : Nat) (v : Value) (args : Value) (x : Value)
def supportMasks : Act := modifyLayer id fun l => { l with supportsMasking := true }
def putSpecs (specs : List InputSpec) : Act := modifyLayer id fun l => { l with inputSpec := some specs }
def putRank (rank : Nat) : Act := putSpecs id [{ ndim := some rank }]
def putBatchShape : Act := modifyLayer id fun l => { l with batchInputShape := v }
def initializerOr (default : String) : Reply := getInitializer (if v.truthy then v else default)
def onOne (inputs : Value) (f : Value → Reply) : Reply := tidied do f (← oneTensor inputs)
def callOne (f : Nat → Value → Reply) (id : Nat) (inputs : Value) (_ : Nat) : Reply := onOne inputs (f id)

inductive Setting where
  | given | or (default : Value) | initializer (default : String) | activation | regularizer | constraint

variable (settings : Named Setting) (form : Form)
def settle : Act := settings.forM fun (name,s) => do
  let v := args name
  putSetting id name (← match s with
    | .given => pure v
    | .or default => pure (v.orElse default)
    | .initializer default => initializerOr v default
    | .activation => getActivation v
    | .regularizer => getRegularizer v
    | .constraint => getConstraint v)

def settleMasked (id : Nat) (args : Value) : Act := do
  supportMasks id
  settle id args settings
def whenTraining (args : Nat) (x other : Reply) : Reply := do if ← isTrainingCall args then x else other
def noiseLike (middle spread : Float) : Reply := drawnTensor (.ofShape (shapeOf x)) "float32" middle spread

/-! ## Dense layers -/

def fusedName (activation : Value) : Value := match activationName activation with
  | .str "relu" => "relu"
  | .str "linear" => "linear"
  | _ => .null

def settleDense : Act := do
  if (args "batchInputShape").isNil && (args "inputShape").isNil && (args "inputDim").isPresent then
    putBatchShape id ([(args "batchSize").orElse .null,args "inputDim"])
  settle id args [("units",.given)]
  requirePositive (args "units") "units"
  settle id args [("activation",.activation),("useBias",.or true),
    ("kernelInitializer",.initializer "glorotNormal"),("biasInitializer",.initializer "zeros"),
    ("kernelConstraint",.constraint),("biasConstraint",.constraint),("kernelRegularizer",.regularizer),
    ("biasRegularizer",.regularizer),("activityRegularizer",.regularizer)]
  supportMasks id
  putSpecs id [{ minNDim := some 2 }]

def buildDense : Act := do
  let last := (← oneShape form).dimAt (-1)
  let units ← setting id "units"
  if ((← layerAt id).slots.lookup "kernel").isNone then
    addWeight id "kernel" ([dimValue last,units])
    if ← isSet id "useBias" then addWeight id "bias" ([units])
  putSpecs id [{ minNDim := some 2, axes := [(-1,last)] }]
  markBuilt id

def biased (y bias format : Value) : Reply := if bias.isPresent then addBias y bias format else return y

def callDense : Reply := do
  let activation ← setting id "activation"
  let fused := fusedName activation
  let kernel ← weight id "kernel"
  if fused.isPresent then dotProduct x kernel fused (← weight id "bias")
  else
    let y ← dotProduct x kernel .absent .absent
    applyPart activation [← biased y (← weight id "bias") .absent]

def denseClass : LayerClass :=
  { plainClass "Dense" settleDense
      ["units","activation","useBias","kernelInitializer","biasInitializer","kernelRegularizer",
        "biasRegularizer","activityRegularizer","kernelConstraint","biasConstraint"] with
    build := buildDense
    call := callOne callDense
    outputShape := shapeOne fun id dims => return dims.dropLast ++ [(← setting id "units").toDim] }

/-! ## Dropping and noise -/

def clampRate : Value :=
  let r := v.toNumber
  let r := if v.isAbsent then Number.nan else r
  (if r.isNaN then r else if r > 1 then 1 else if r < 0 then 0 else r)
def isInside (rate : Value) : Bool := let r := rate.toNumber; 0 < r && r < 1

def dropoutClass : LayerClass :=
  { plainClass "Dropout" (fun id args => do
        putSetting id "rate" (clampRate (args "rate"))
        settle id args [("noiseShape",.given),("seed",.given)]
        supportMasks id)
      ["rate","noiseShape","seed"] with
    call := fun id inputs args => tidied do
      let x ← oneTensor inputs
      let rate ← setting id "rate"
      if isInside rate then
        let noise ← setting id "noiseShape"
        let noise := match noise with
          | .list ds => .list (ds.zipIdx.map fun (d,i) => if d.isNil then ((shapeOf x).getD i 0) else d)
          | v => v
        whenTraining args (do core "dropout" [x,rate,noise,← setting id "seed"]) (pure x)
      else return inputs }

def gaussianNoiseClass : LayerClass :=
  { plainClass "GaussianNoise" (settleMasked [("stddev",.given)]) ["stddev"] with
    call := fun id inputs args => onOne inputs fun x => whenTraining args (do
      plus (← noiseLike x 0 (← setting id "stddev").toNumber) x) (pure x) }

def gaussianDropoutClass : LayerClass :=
  { plainClass "GaussianDropout" (settleMasked [("rate",.given)]) ["rate"] with
    call := fun id inputs args => onOne inputs fun x => do
      let rate ← setting id "rate"
      if isInside rate then
        let r := rate.toNumber
        whenTraining args (do times x (← noiseLike x 1 (.sqrt (r / (1 - r))))) (pure x)
      else return x }

def alphaPrime : Float := -1.6732632423543772848170429916717 * 1.0507009873554804934193349852946

def alphaDropped (rate : Float) (noiseShape : Value) : Reply := do
  let draws ← drawnTensor noiseShape "float32" 0.5 0.5
  let kept ← core "cast" [← core "greaterEqual" [draws,rate],"float32"]
  let a := 1 / .sqrt ((1 - rate) * (1 + rate * alphaPrime * alphaPrime))
  let b := -a * alphaPrime * rate
  let held ← times x kept
  let y ← plus held (← times (← plus kept (.num (-1))) (.num alphaPrime))
  plus (← times y a) b

def alphaDropoutClass : LayerClass :=
  { plainClass "AlphaDropout" (settleMasked [("rate",.given),("noiseShape",.given)]) ["rate"] with
    call := fun id inputs args => tidied do
      let rate ← setting id "rate"
      if isInside rate then
        let x ← oneTensor inputs
        let given ← setting id "noiseShape"
        let noiseShape := if given.truthy then given else .ofShape (shapeOf x)
        whenTraining args (alphaDropped x rate.toNumber noiseShape) (pure x)
      else return inputs }

/-! ## Shapes -/

def flattenClass : LayerClass :=
  { (plainClass "Flatten" (fun id _ => putSpecs id [{ minNDim := some 3 }]) []).argsOptional with
    call := fun _ inputs _ => onOne inputs flattenBatch
    outputShape := shapeOne fun _ dims => do
      if dims.tail.any (·.isNone) then
        badValue ("The shape of the input to \"Flatten\" is not fully defined " ++
          s!"(got {Dims.text dims.tail}). Make sure to pass a complete " ++
          "\"input_shape\" or \"batch_input_shape\" argument to the first layer in your model.")
      return [dims.given 0,some (dims.tail.foldl (fun p d => p * Dims.number d) 1)] }

def activationLayerClass : LayerClass :=
  { plainClass "Activation" (settleMasked [("activation",.activation)]) ["activation"] with
    call := callOne fun id x => do applyPart (← setting id "activation") [x] }

def repeatVectorClass : LayerClass :=
  { plainClass "RepeatVector" (fun id args => do
        settle id args [("n",.given)]
        putRank id 2)
      ["n"] with
    call := callOne fun id x => do repeatRows x (← setting id "n")
    outputShape := shapeOfFirst fun id dims => return [dims.given 0,(← setting id "n").toDim,dims.given 1] }

def isUnknownDim (d : Dim) : Bool := d.elim true (· < 0)

def fixUnknown (input target : Dims) : Script Dims := do
  let message := "Total size of new array must be unchanged."
  let unknown := target.zipIdx.filter (isUnknownDim ·.1)
  if unknown.length > 1 then badValue "Can only specifiy one unknown dimension."
  let known := (target.filter (!isUnknownDim ·)).foldl (fun p d => p * Dims.number d) 1
  let size := input.foldl (fun p d => p * Dims.number d) 1
  match unknown with
  | [] =>
    if !(size == known) then badValue message
    return target
  | (_,i) :: _ =>
    if known == 0 || Number.remainder size known != 0 then badValue message
    return target.set i (some (size / known))

def reshapeClass : LayerClass :=
  { plainClass "Reshape" (fun id args => do
        let target := args "targetShape"
        if target.isNil then throw (.unreadable target.text "length")
        putSetting id "targetShape" (.list (target.items.map fun d =>
          if isUnknownDim (if d.isNil then none else d.toDim) then .null else d)))
      ["targetShape"] with
    call := callOne fun id x => do
      let shape := Dims.ofShape (shapeOf x)
      let target := (← setting id "targetShape").toDims
      core "reshape" [x,dimsValue (shape.take 1 ++ (← fixUnknown shape.tail target))]
    outputShape := shapeOfFirst fun id dims => do
      let target := (← setting id "targetShape").toDims
      return dims.take 1 ++ (← if dims.any isUnknownDim then pure target else fixUnknown dims.tail target) }

def permuteClass : LayerClass :=
  { plainClass "Permute" (fun id args => do
        match args "dims" with
        | .list ds =>
          let sorted := ds.mergeSort fun a b => !Text.less b.text a.text
          let wanted := (List.range ds.length).map fun i => .ofNat (i + 1)
          if !((sorted.zip wanted).all fun (a,b) => a.same b) then
            fail ("Invalid permutation `dims`: " ++ jsonText ds ++
              " `dims` must contain consecutive integers starting from 1.")
          putSetting id "dims" ds
          putRank id (ds.length + 1)
        | v =>
          if v.isNil then fail "Required configuration field `dims` is missing during Permute constructor call."
          fail ("Permute constructor requires `dims` to be an Array, but received " ++ v.text ++ " instead."))
      ["dims"] with
    call := fun id inputs _ => do
      let dims := (← setting id "dims").items
      core "transpose" [← oneTensor inputs,.num 0 :: dims]
    outputShape := shapeOne fun id dims => do
      let order := (← setting id "dims").nats
      return dims.take 1 ++ order.map dims.dim ++ dims.drop (order.length + 1) }

/-- Which steps hold anything but the value that marks them as left out. -/
def isSpoken (keepDims : Bool) : Reply := do
  core "any" [← core "notEqual" [x,← setting id "maskValue"],.num (-1),.bool keepDims]
def maskingClass : LayerClass :=
  { (plainClass "Masking" (settleMasked [("maskValue",.or 0)]) ["maskValue"]).argsOptional with
    call := callOne fun id x => do
      let mask ← isSpoken id x true
      let dtype := (x.tensor?.map (·.dtype.name)).getD "float32"
      times x (← core "cast" [mask,dtype])
    mask := fun id inputs _ => do isSpoken id (← oneTensor inputs) false }

/-! ## Activations as layers -/

def reluClass : LayerClass :=
  { (plainClass "ReLU" (settleMasked [("maxValue",.given)]) ["maxValue"]).argsOptional with
    call := fun id inputs _ => do
      let y ← core "relu" [← oneTensor inputs]
      let limit ← setting id "maxValue"
      if limit.isPresent then core "clipByValue" [y,0,limit] else return y }
def numberClass (title name : String) (default : Float) (f : Value → Value → Reply) : LayerClass :=
  { (plainClass title (fun id args => settle id args [(name,.or default)])
      [name]).argsOptional with
    call := fun id inputs _ => do f (← oneTensor inputs) (← setting id name) }
def leakyReluClass : LayerClass := numberClass "LeakyReLU" "alpha" 0.3 fun x alpha => core "leakyRelu" [x,alpha]

def eluClass : LayerClass :=
  { numberClass "ELU" "alpha" 1 fun x _ => core "elu" [x] with
    create := fun args => do
      let args := args.orElse (.record [])
      let id ← newLayer "ELU" "ELU" args
      let alpha := args "alpha"
      if alpha.isPresent && alpha.num? != some 1 then
        unsupported ("Non-default alpha value (" ++ alpha.text ++ ") is not supported by the ELU layer yet.")
      putSetting id "alpha" (alpha.orElse 1)
      return id }

def thresholdedReluClass : LayerClass := numberClass "ThresholdedReLU" "theta" 1 fun x theta => do
  let above ← core "greater" [x,theta]
  times x (← core "cast" [above,"float32"])
def softmaxClass : LayerClass := numberClass "Softmax" "axis" 1 fun x axis => core "softmax" [x,axis]

def preluClass : LayerClass :=
  { (plainClass "PReLU" (fun id args => do
        settleMasked [("alphaInitializer",.initializer "zeros"),("alphaRegularizer",.regularizer),
          ("alphaConstraint",.constraint)] id args
        putSetting id "sharedAxes" (← match args "sharedAxes" with
          | .absent | .null => pure .null
          | .list axes => pure (.list axes)
          | .num x => pure (.list [.num x])
          | v => badValue s!"Expected sharedAxes to be a number or an array of numbers, but got {v.text}"))
      ["alphaInitializer","alphaRegularizer","alphaConstraint","sharedAxes"]).argsOptional with
    build := fun id form => do
      let dims ← oneShape form
      let shared ← setting id "sharedAxes"
      -- An axis beyond the last leaves places without a dimension before it.
      let param := shared.ints.foldl (fun (ds : Dims) axis =>
        let i := (axis - 1).toNat
        if axis < 1 then ds
        else if i < ds.length then ds.set i (some 1)
        else ds ++ List.replicate (i - ds.length) (some Number.nan) ++ [some 1]) dims.tail
      addWeight id "alpha" (dimsValue param)
      let axes := if shared.isPresent then (dims.zipIdx.drop 1).map fun (d,i) => (i,d) else []
      putSpecs id [{ ndim := some dims.length, axes }]
      markBuilt id
    call := fun id inputs _ => do core "prelu" [← oneTensor inputs,← weight id "alpha"] }

/-! ## Padding -/

def padTime (x padding : Value) : Reply := tidied do
  if rankOf x != 3 then badValue s!"temporalPadding expects input tensor to be 3-D, but received a {rankOf x}-D tensor."
  let padding := padding.orElse (.list [1,1])
  if padding.items.length != 2 then
    badValue ("temporalPadding expects input padding pattern to be a length-2 " ++
      s!"array, but received a length-{padding.items.length} array.")
  let none := .list [0,0]
  core "pad" [x,.list [none,padding,none]]

def padSpace (x padding format : Value) : Reply := tidied do
  if rankOf x != 4 then badValue s!"temporalPadding expects input tensor to be 4-D, but received a {rankOf x}-D tensor."
  let none := .list [0,0]
  match format, padding.items with
  | .str "channelsLast", [h,w] => core "pad" [x,.list [none,h,w,none]]
  | .str "channelsFirst", [h,w] => core "pad" [x,.list [none,none,h,w]]
  | _, _ =>
    badValue ("Unknown data format: " ++ format.text ++ ". " ++
      "Supported data formats are 'channelsLast' and 'channelsFirst.")

def notPair {α : Type} (what : String) (v : Value) : Script α :=
  badValue s!"ZeroPadding2D expects {what} to be a length-2 array, but received a length-{v.items.length} array."

def spacePadding : Reply := do
  let twice x := .list [x,x]
  match v with
  | .absent | .null => return twice (twice 1)
  | .num x => return twice (twice x)
  | .list [h,w] =>
    match h with
    | .num _ => return .list [twice h,twice w]
    | _ =>
      if h.items.length != 2 then notPair "height padding" h
      if w.items.length != 2 then notPair "width padding" w
      return .list [h,w]
  | v => notPair "padding" v

def paddedDim (d : Dim) (padding : Value) : Dim :=
  d.bind fun n => if n >= 0 then some (padding.numsD.foldl (· + ·) n) else none
def isChannelsFirst : Script Bool := return (← setting id "dataFormat").text == "channelsFirst"

/-- A shape with other heights and widths; `f` gets their number among the two and their axis. -/
def alongSpace (dims : Dims) (f : Nat → Nat → Dim) : Script Dims := do
  if ← isChannelsFirst id then return [dims.given 0,dims.given 1,f 0 2,f 1 3]
  return [dims.given 0,f 0 1,f 1 2,dims.given 3]

def zeroPaddingClass : LayerClass :=
  { (plainClass "ZeroPadding2D" (fun id args => do
        settle id args [("dataFormat",.or "channelsLast")]
        putSetting id "padding" (← spacePadding (args "padding"))
        putRank id 4)
      ["padding","dataFormat"]).argsOptional with
    call := callOne fun id x => do padSpace x (← setting id "padding") (← setting id "dataFormat")
    outputShape := shapeOne fun id dims => do
      let padding := (← setting id "padding").items
      alongSpace id dims fun i axis => paddedDim (dims.given axis) (padding i) }

/-! ## Embeddings -/

def settleEmbedding : Act := do
  let length := args "inputLength"
  if (args "batchInputShape").isNil && (args "inputShape").isNil then
    let lengths := if length.isNil then [.null] else asList length
    putBatchShape id ((args "batchSize").orElse .null :: lengths)
  for name in ["inputDim","outputDim"] do
    settle id args [(name,.given)]
    requirePositive (args name) name
  settle id args [("embeddingsInitializer",.initializer "randomUniform"),("embeddingsRegularizer",.regularizer),
    ("activityRegularizer",.regularizer),("embeddingsConstraint",.constraint),("maskZero",.given),
    ("inputLength",.given)]
  modifyLayer id fun l => { l with supportsMasking := (args "maskZero").truthy }

def embeddingShape : Script Form := do
  let dims ← oneShape form
  let out := (← setting id "outputDim").toDim
  let length ← setting id "inputLength"
  if length.isNil then return .one (dims ++ [out])
  let refuse := badValue ("\"inputLength\" is " ++ length.text ++ ", but received input shape has shape " ++ dims.text)
  let lengths := (asList length).map fun v => if v.isNil then none else v.toDim
  if lengths.length + 1 != dims.length then refuse
  else if (lengths.zip dims.tail).any fun (a,b) => a.isSome && b.isSome && a != b then refuse
  else
    let known := (lengths.zip dims.tail).map fun (a,b) => a.or b
    -- Lengths that were left open are known from now on.
    if length.isList then putSetting id "inputLength" (dimsValue known)
    return .one (dims.take 1 ++ known ++ [out])

def embeddingClass : LayerClass :=
  { plainClass "Embedding" settleEmbedding
      ["inputDim","outputDim","embeddingsInitializer","embeddingsRegularizer","activityRegularizer",
        "embeddingsConstraint","maskZero","inputLength"] with
    build := fun id _ => do
      addNamedWeight id "embeddings" "embeddings" "embeddings"
        ([← setting id "inputDim",← setting id "outputDim"]) true (← layerAt id).dtype
      markBuilt id
    call := callOne fun id x => do
      let indices ← match x.tensor? with
        | some t => if t.dtype != .int32 then core "cast" [x,"int32"] else pure x
        | none => pure x
      let flat ← core "reshape" [indices,.list [.ofNat (shapeOf x).size]]
      let rows ← gatherOf (← weight id "embeddings") flat .absent
      core "reshape" [rows,formValue (← embeddingShape id (.one (.ofShape (shapeOf x))))]
    outputShape := embeddingShape
    mask := fun id inputs _ => tidied do
      if ← isSet id "maskZero" then
        let x ← oneTensor inputs
        core "notEqual" [x,← core "zerosLike" [x]]
      else return .null }

def coreClasses : List LayerClass :=
  [ denseClass,dropoutClass,flattenClass,activationLayerClass,repeatVectorClass,reshapeClass,
    permuteClass,maskingClass,reluClass,leakyReluClass,preluClass,eluClass,thresholdedReluClass,
    softmaxClass,gaussianNoiseClass,gaussianDropoutClass,alphaDropoutClass,zeroPaddingClass,
    embeddingClass ]

/-! ## Inputs of models -/

def createInput : Script Nat := do
  let given ← memberOf args "name"
  let name ← if given.isPresent then pure given else do pure ((← nextName "input"))
  let id ← newLayer "InputLayer" "InputLayer" (.record [("name",name)])
  modifyLayer id fun l => { l with trainable := false, built := true }
  settle id args [("sparse",.or false)]
  let inputShape := args "inputShape"
  let batchShape := args "batchInputShape"
  let batchSize := (args "batchSize").orElse .null
  if inputShape.isPresent && batchShape.isPresent then
    badValue "Only provide the inputShape OR batchInputShape argument to inputLayer, not both at the same time."
  let shape ← if batchShape.isNil then
      if inputShape.isNil then badValue "An InputLayer should be passed either a `batchInputShape` or an `inputShape`."
      else pure (.list (batchSize :: asList inputShape))
    else if batchSize.isPresent then
      badValue "Cannot specify batchSize if batchInputShape is specified when creating an InputLayer."
    else pure batchShape
  let dtype := if (args "dtype").truthy then args "dtype" else "float32"
  let dims := shape.toDims
  modifyLayer id fun l => { l with batchInputShape := shape, dtype, inputSpec := some [{ dims := some dims }] }
  let noArgs ← newCallArgs []
  let x ← newSymbolic dtype dims (some id) [] (callArgsValue noArgs) (some (← layerAt id).name) none
  modifySymbolic x fun s => { s with nodeIndex := some 0, tensorIndex := some 0 }
  let _ ← newNode { layer := id, inputs := [x], outputs := [x], inputShapes := [dims], outputShapes := [dims],
                    own := true }
  return id

def inputLayerClass : LayerClass :=
  { plainClass "InputLayer" (fun _ _ => pure ()) [] with
    create := createInput
    config := fun id => do
      let l ← layerAt id
      return [("batchInputShape",l.batchInputShape),("dtype",l.dtype),("sparse",← setting id "sparse"),
        ("name",l.name)]
    methods :=
      [ ("apply",fun id _ => do
          badValue
            s!"Cannot pass any input to an InputLayer's apply() method. InputLayer name: {(← layerAt id).name}") ] }

def newInput (config : Value) : Reply := do
  let batchShape ← memberOf config "batchShape"
  let shape := config "shape"
  if batchShape.isNil && shape.isNil then
    fail ("Please provide to Input either a `shape` or a `batchShape` argument. Note that " ++
      "`shape` does not include the batch dimension.")
  if batchShape.isPresent && shape.isPresent then
    badValue "Please provide either a `shape` or `batchShape` argument to Input, but not both."
  let batchShape := if batchShape.isPresent then batchShape else .list (.null :: asList shape)
  let id ← createLayer "InputLayer" (.record [("batchInputShape",batchShape),("name",config "name"),
    ("dtype",(config "dtype").orElse "float32"),("sparse",config "sparse")])
  return symbolicValue ((← nodeAt ((← layerAt id).inbound.headD 0)).outputs.headD 0)
end TensorKit.Script
