import TensorKit.Script.Layers.Models
import TensorKit.Script.Layers.Utilities
import TensorKit.Script.Layers.Wrappers

/-! # Layers with several inputs -/
namespace TensorKit.Script
section
open Layers
def pairDims (a b : Dims) : Script Dims := do
  let (a,b) := if a.length < b.length then (b,a) else (a,b)
  let lead := a.take (a.length - b.length)
  let rest ← ((a.drop lead.length).zip b).mapM fun (i,j) => do
    if isUnknownDim i || isUnknownDim j then return none
    else if i == some 1 then return j
    else if j == some 1 then return i
    else if i == j then return i
    else
      badValue ("Operands could not be broadcast together with shapes " ++
        jsonText (dimsValue a) ++ " " ++ jsonText (dimsValue b))
  return lead ++ rest

variable (shapes : List Dims)
def pairAll : Script Dims := match shapes with
  | [] => return []
  | s :: rest => rest.foldlM (fun out d => pairDims out (d.drop 1)) (s.drop 1)
def batchSizes : List Dim :=
  ((shapes.map (·.dim 0)).filter Option.isSome).eraseDups

def buildMerge (id : Nat) (form : Form) : Act := do
  let shapes := form.shapes
  if shapes.length < 2 then
    badValue s!"A merge layer should be called on an Array of at least 2 inputs. Got {shapes.length} input(s)."
  if (batchSizes shapes).length > 1 then
    badValue ("Can not merge tensors with different batch sizes. " ++
      "Got tensors with shapes: " ++ jsonText (shapes.map dimsValue) ++ ".")
  let _ ← pairAll shapes
  putSetting id "reshapeRequired" ((shapes.map (·.length)).eraseDups.length != 1)

def mergeShape (_ : Nat) (form : Form) : Script Form := do
  let shapes := form.shapes
  let out ← pairAll shapes
  let [d] := batchSizes shapes | return .one (none :: out)
  return .one (d :: out)
def widenTo (x : Value) : Nat → Reply
  | 0 => return x
  | n + 1 => do widenTo (← widen x 1) n
def callMerge (merge : Nat → Handler) (id : Nat) (inputs : Value) (_ : Nat) : Reply := tidied do
  let xs := inputs.items
  if ← isSet id "reshapeRequired" then
    let most := (xs.map rankOf).foldl max 0
    merge id (← xs.mapM fun x => widenTo x (most - rankOf x))
  else merge id xs

def withMasks (inputs mask : Value) (kind : String) (mismatch : Nat → Nat → String)
    (join : Values → Handler) : Reply := do
  match mask, inputs with
  | .absent, _ | .null, _ => return .null
  | .list ms, .list xs =>
    if ms.length != xs.length then badValue (mismatch xs.length ms.length)
    join xs ms
  | .list _, _ => badValue s!"`inputs` should be an {kind}"
  | _, _ => badValue s!"`mask` should be an {kind}"

def mergeMask (_ : Nat) (inputs mask : Value) : Reply := tidied do
  withMasks inputs mask "Array" (fun n k => "The Array 'inputs' and 'mask' are expected to have the same length, " ++
      s!"but have different lengths ({n} vs {k})") fun _ ms => do
    let masks := ms.map fun m => if m.isNil then none else some m
    let joined ← joinMasks (fun m => core "expandDims" [m,0])
      (fun a b => core "logicalAnd" [a.getD .null,b.getD .null]) masks
    return joined.getD .null
def mergeClass (title : String) (merge : Nat → Handler) : LayerClass :=
  { (plainClass title (fun id _ => supportMasks id) []).argsOptional with
    build := buildMerge
    call := callMerge merge
    outputShape := mergeShape
    mask := mergeMask }

def foldInputs (op : String) (copies : Bool) (xs : Values) : Reply := tidied do
  match xs with
  | [] =>
    -- A lone tensor has no first of its inputs.
    if copies then throw (.noMember "clone")
    return .absent
  | x :: rest =>
    let start ← if copies then core "clone" [x] else pure x
    rest.foldlM (fun out y => core op [out,y]) start

def averageInputs (xs : Values) : Reply := tidied do times (.num (1 / .ofNat xs.length)) (← foldInputs "add" true xs)

/-! ## Joining -/

def withoutPlace {α : Type} (xs : List α) (place : Int) : List α :=
  let i := if place < 0 then (xs.length + place).toNat else place.toNat
  xs.eraseIdx i

def concatenateClass : LayerClass :=
  { (plainClass "Concatenate" (settleMasked [("axis",.or (.num (-1)))]) ["axis"]).argsOptional with
    build := fun id form => do
      let few := "A `Concatenate` layer should be called on a list of at least 2 inputs"
      match form with
      | .one _ | .many [] | .many [_] => badValue few
      | .many shapes =>
        let axis := intOr (← setting id "axis") (-1)
        if (shapes.map (withoutPlace · axis)).eraseDups.length > 1 then
          badValue ("A `Concatenate` layer requires inputs with matching shapes " ++
            "except for the concat axis. Got input shapes: " ++ jsonText (shapes.map dimsValue))
    call := callMerge fun id xs => tidied do joinTensors xs (← setting id "axis").toNumber
    outputShape := fun id form => do
      match form with
      | .one _ | .many [] => badValue "A `Concatenate` layer should be called on a list of inputs."
      | .many (first :: rest) =>
        let axis := intOr (← setting id "axis") (-1)
        let axis := if axis < 0 then axis + first.length else axis
        if axis < 0 then return .one first
        let i := axis.toNat
        if i ≥ first.length then return .one (first ++ (if rest.isEmpty || i != first.length then [] else [none]))
        let total := rest.foldl (fun sum d =>
          match sum,d.dim i with
          | some a,some b => some (a + b)
          | _,_ => none) (first.dim i)
        return .one (first.set i total)
    mask := fun id inputs mask => withMasks inputs mask "array for Concatenate"
      (fun n k => s!"Mismatch in the length of mask ({k}) and the legnth of inputs ({n})") fun xs ms => tidied do
        if ms.all Value.isNil then return .null
        let out ← (xs.zip ms).mapM fun (x,m) => do
          if m.isNil then core "cast" [← core "onesLike" [x],"bool"]
          else if rankOf m < rankOf x then core "expandDims" [m,.num (-1)]
          else pure m
        core "all" [← core "concat" [out,← setting id "axis"],.num (-1),.bool false] }

/-! ## Products -/

def fromStart (axis : Value) (rank : Nat) : Value := match axis with
  | .num x => if x < 0 && rank > 0 then
      let r := .ofNat rank
      .num (x + r * (-x / r).ceil)
    else .num x
  | v => v

def batchDot (x y : Value) (axes : Value × Value) : Reply := do
  let (m,n) := (rankOf x,rankOf y)
  if m > 3 || n > 3 then unsupported "batchDot is not implemented for tensors of 4D or higher rank yet"
  if m < 2 then fail s!"batchDot requires the rank of x to be >= 2, but got {m}"
  let isComplex v : Bool := (v.tensor?.map (·.dtype == .complex64)).getD false
  if isComplex x || isComplex y then unsupported "batchDot is not implemented for complex64-type Tensors yet."
  tidied do
    let pad v k : Reply :=
      if k == 0 then pure v else core "reshape" [v,.ofShape (shapeOf v ++ List.replicate k 1)]
    let y ← pad y (m - n)
    let x ← pad x (n - m)
    let rank := max m n
    let same := axes.1.same axes.2
    let out ← if rankOf x == 2 && rankOf y == 2 then do
        if same then core "sum" [← core "mulStrict" [x,y],axes.1]
        else
          let x ← core "transpose" [x,.ofNats [1,0]]
          core "sum" [← core "mulStrict" [x,y],axes.2]
      else
        let last := .ofNat (rank - 1)
        core "matMul" [x,y,axes.1.num? != some last,axes.2.num? == some last]
    let diff := (m - n) + (n - m)
    let out ← if diff > 0 then
        let start := if m > n then m + n - 3 else m - 1
        core "squeeze" [out,.ofNats ((List.range diff).map (· + start))]
      else pure out
    if rankOf out == 1 then core "expandDims" [out,1] else return out

def dotAxes (id : Nat) (a b : Dims) : Script (Value × Value) := do
  match ← setting id "axes" with
  | .list xs => return (xs 0,xs 1)
  | v => return (fromStart v a.length,fromStart v b.length)
def twoShapes (form : Form) : Script (Dims × Dims) := do
  let .many [a,b] := form | fail "A `Dot` layer should be called on a list of exactly 2 inputs."
  if a.length > 3 || b.length > 3 then unsupported "Dot layer does not support tensors of 4D or higher rank yet."
  return (a,b)

def dimOr (d : Dims) (place : Value) : Value := match place.num? with
  | some x => if x >= 0 && x == x.floor then d[x.toUInt64.toNat]?.elim .absent dimValue
    else .absent
  | none => .absent

def dotClass : LayerClass :=
  { plainClass "Dot" (settleMasked [("axes",.given),("normalize",.or false)]) ["axes","normalize"] with
    build := fun id form => do
      let (a,b) ← twoShapes form
      let (i,j) ← dotAxes id a b
      let (u,v) := (dimOr a i,dimOr b j)
      if !u.same v then badValue ("Dimension incompatibility: " ++ u.text ++ " !== " ++ v.text)
    call := callMerge fun id xs => do
      match xs with
      | [a,b] =>
        let axes ← match ← setting id "axes" with
          | .list as => pure (fromStart (as 0) (rankOf a),fromStart (as 1) (rankOf b))
          | v => pure (fromStart v (rankOf a),fromStart v (rankOf b))
        if ← isSet id "normalize" then batchDot (← normalized a axes.1) (← normalized b axes.2) axes
        else batchDot a b axes
      | xs => badValue s!"A `Dot` layer must be called on exactly 2 inputs, but received {xs.length} input(s)."
    outputShape := fun id form => do
      let (a,b) ← twoShapes form
      let (i,j) ← dotAxes id a b
      let out := withoutPlace a (intOr i 0) ++ (withoutPlace b (intOr j 0)).drop 1
      return .one (if out.length == 1 then out ++ [some 1] else out)
    mask := fun _ _ _ => return .null }

def mergeClasses : List LayerClass :=
  [("Add","add",true),("Multiply","mul",true),("Maximum","maximum",false),("Minimum","minimum",false)].map
    (fun (title,op,copies) => mergeClass title fun _ => foldInputs op copies) ++
  [mergeClass "Average" fun _ => averageInputs,concatenateClass,dotClass]
end

/-! # Normalization of batches -/
section
open Layers
def normalizeBatch (x mean variance beta gamma epsilon : Value) : Reply := do
  let rank := rankOf x
  if rank < 2 || rank > 4 then unsupported s!"batchNormalization is not implemented for array of rank {rank} yet"
  core s!"batchNorm{rank}d" [x,mean,variance,beta,gamma,absentOr epsilon 1e-3]
def isAllButLast (axes : Nats) (rank : Nat) : Bool := axes.mergeSort == .range (rank - 1)
def fittedTo (v : Value) (shape : Shape) : Reply := do
  if v.isNil then return .null else core "reshape" [v,.ofShape shape]

def normalizeTraining (x gamma beta : Value) (axes : Nats) (epsilon : Value) : Reply := tidied do
  let moments ← core "moments" [x,.ofNats axes]
  let mean := moments "mean"
  let variance := moments "variance"
  if isAllButLast axes (rankOf x) then return [← normalizeBatch x mean variance beta gamma epsilon,mean,variance]
  else
    let target := (shapeOf x).zipIdx.map fun (d,i) => if axes.contains i then 1 else d
    let fit v := fittedTo v target
    let y ← normalizeBatch x (← fit mean) (← fit variance) (← fit beta) (← fit gamma) epsilon
    return [y,mean,variance]

variable (id : Nat)
def moveTowards (value : Value) (momentum : Float) : Act := do
  let _ ← tidied <| silent do
    let held := (← readVariable id)
    let step ← times (← minus held value) (.num (1 - momentum))
    writeVariable id (← opTensor "sub" [held,step])
def normalizedAxis (rank : Nat) : Script Int := do
  let axis := intOr (← setting id "axis") (-1)
  return if axis ≥ 0 then axis else axis + rank

def buildNormalization (form : Form) : Act := do
  let dims ← oneShape form
  let axis ← normalizedAxis id dims.length
  let place := if 0 ≤ axis && axis < dims.length then dims.dim axis.toNat else none
  match place with
  | none =>
    badValue (s!"Axis {axis} of input tensor should have a defined dimension but " ++
      "the layer received an input with shape " ++ jsonText (dimsValue dims) ++ ".")
  | some n =>
    putSpecs id [{ ndim := some dims.length, axes := [(axis,some n)] }]
    let shape := .list [n]
    if ← isSet id "scale" then addWeight id "gamma" shape
    if ← isSet id "center" then addWeight id "beta" shape
    addNamedWeight id "movingMean" "moving_mean" "movingMean" shape false
    addNamedWeight id "movingVariance" "moving_variance" "movingVariance" shape false
    markBuilt id

def neededWeight (slot : String) : Reply := do
  let v ← weight id slot
  if v.isNil then throw (.noMember "read")
  return v

def callNormalization (inputs : Value) (args : Nat) : Reply := tidied do
  let training ← isTrainingCall args
  let x ← oneTensor inputs
  let shape := shapeOf x
  let rank := shape.length
  let axis := (← normalizedAxis id rank).toNat
  let axes := (List.range rank).eraseIdx axis
  let epsilon ← setting id "epsilon"
  if training then
    let gamma ← neededWeight id "gamma"
    let beta ← neededWeight id "beta"
    let parts := (← normalizeTraining x gamma beta axes epsilon).items
    let momentum := (← setting id "momentum").toNumber
    for (slot,i) in [("movingMean",1),("movingVariance",2)] do
      let some v := (← layerAt id).slots.lookup slot | pure ()
      moveTowards v (parts i) momentum
    return parts 0
  else
    let wide : Shape := (List.replicate rank 1).set axis (shape.getD axis 1)
    let fit v : Reply := if isAllButLast axes rank then pure v else fittedTo v wide
    let mean ← fit (← weight id "movingMean")
    let variance ← fit (← weight id "movingVariance")
    let beta ← fit (← weight id "beta")
    normalizeBatch x mean variance beta (← fit (← weight id "gamma")) epsilon

def batchNormalizationClass : LayerClass :=
  { (plainClass "BatchNormalization" (settleMasked [("axis",.or (.num (-1))),("momentum",.or 0.99),("epsilon",.or 1e-3),
        ("center",.or true),("scale",.or true),("betaInitializer",.initializer "zeros"),
        ("gammaInitializer",.initializer "ones"),("movingMeanInitializer",.initializer "zeros"),
        ("movingVarianceInitializer",.initializer "ones"),("betaConstraint",.constraint),("gammaConstraint",.constraint),
        ("betaRegularizer",.regularizer),("gammaRegularizer",.regularizer)])
      ["axis","momentum","epsilon","center","scale","betaInitializer","gammaInitializer",
        "movingMeanInitializer","movingVarianceInitializer","betaRegularizer","gammaRegularizer",
        "betaConstraint","gammaConstraint"]).argsOptional with
    build := buildNormalization
    call := callNormalization }
def normalizationTable : Handlers :=
  [ ("backend.batchNormalization",fun a => normalizeBatch (a 0) (a 1) (a 2) (a 3) (a 4) (a 5)),
    ("backend.normalizeBatchInTraining",fun a => normalizeTraining (a 0) (a 1) (a 2) (a 3).nats (absentOr (a 4) 1e-3)) ]
end

/-! # All classes of layers -/
open Layers Value
def madeClasses : List LayerClass :=
  coreClasses ++ convolutionClasses ++ poolingClasses ++ [batchNormalizationClass] ++ mergeClasses ++
    recurrentClasses ++ [timeDistributedClass,bidirectionalClass,inputLayerClass]
def layerClasses : List LayerClass := madeClasses ++ [graphModelClass,stackClass]
def classTitled (title : String) : LayerClass := (layerClasses.find? (·.title == title)).getD inputLayerClass

/-! ## Methods -/

variable (id : Nat) (l : Layer) (name : String)
def nodeAtIndex (index what : Value) : Script Nat := do
  let l ← layerAt id
  if l.inbound.isEmpty then
    throw (.runtime ("The layer has never been called and thus has no defined " ++ what.text ++ "."))
  if .ofNat l.inbound.length <= index.toNumber then
    badValue ("Asked to get " ++ what.text ++ " at node " ++ index.text ++ ", " ++
      s!"but the layer has only {l.inbound.length} inbound nodes.")
  return l.inbound.getD (natOr index 0) 0

def setLayerTrainable (value : Bool) : Act := do
  (← layerAt id).trainableWeights.forM (setTrainable · value)
  modifyLayer id fun l => { l with trainable := value }

def commonMethod (c : LayerClass) (id : Nat) (name : String) (args : Values) : Reply := do
  match name with
  | "apply" => applyLayer id (args 0) (args 1)
  | "build" => silent <| c.build id (args 0).toForm
  | "call" => c.call id (args 0) (← callArgsOf (args 1))
  | "computeOutputShape" => return formValue (← c.outputShape id (args 0).toForm)
  | "computeMask" => c.mask id (args 0) (args 1)
  | "getConfig" => return .record (← c.config id)
  | "getClassName" => return c.className
  | "weights" => return variablesValue (← weightsOf id)
  | "trainableWeights" => return variablesValue (← ownTrainables id)
  | "nonTrainableWeights" => return variablesValue (← ownOthers id)
  | "getWeights" =>
    let ws ← if (args 0).truthy then trainablesOf id else weightsOf id
    return .list (← ws.mapM fun v => return .tensor (← readVariable v))
  | "setWeights" => silent do setWeightsOf id (← weightsOf id) (args 0)
  | "trainable" => return (← layerAt id).trainable
  | "setTrainable" => silent <| setLayerTrainable id (args 0).truthy
  | "stateful" => return (← layerAt id).stateful
  | "resetStates" => silent do
    if !(← isStateful id) then fail "Cannot call the resetStates() method of a non-stateful Layer object."
  | "setZeroInit" => silent <| modifyLayer id fun l => { l with zeroInit := (args 0).truthy }
  | "calculateLosses" => ownLosses id
  | "countParams" => countParams id
  | "dispose" => disposeLayer id
  | "getInputAt" => return symbolicsValue (← nodeAt (← nodeAtIndex id (args 0) "input")).inputs
  | "getOutputAt" => return symbolicsValue (← nodeAt (← nodeAtIndex id (args 0) "output")).outputs
  | "getNodeAtIndex" => return .object .node (← nodeAtIndex id (args 0) (args 1))
  | _ => notAFunction name

def layerMethod (args : Values) : Reply := do
  let c := classTitled (← layerAt id).className
  let some m := c.methods.lookup name | commonMethod c id name args
  m id args

/-! ## Properties -/

def nodesValue (ids : Nats) : Value := .list (ids.map (.object .node ·))
def specValue (s : InputSpec) : Value :=
  .item "InputSpec" [("dtype",ofOption .str s.dtype),("shape",ofOption dimsValue s.dims),
    ("ndim",ofOption .ofNat (s.ndim.orElse fun _ => s.dims.map List.length)),
    ("minNDim",ofOption .ofNat s.minNDim)]

def modelProperty (n : Network) (name : String) (other : Reply) : Reply := do
  let inner := (l.stack.bind (·.model)).getD id
  let training := (← layerAt (if l.stack.isSome then inner else id)).training
  let trained f := return training.elim .absent f
  match name with
  | "layers" => return l.parts.map layerValue
  | "inputs" => return n.inputs.map symbolicValue
  | "outputs" => return n.outputs.map symbolicValue
  | "inputNames" => return .ofStrings n.inputNames
  | "outputNames" => return .ofStrings n.outputNames
  | "feedInputShapes" => return n.feedShapes.map dimsValue
  | "optimizer" => trained (.object .optimizer ·.optimizer)
  | "loss" => trained (·.loss)
  | "lossFunctions" => return l.training.elim .absent (list ·.measures.losses)
  | "metrics" => trained (·.metrics)
  | "metricsNames" => trained (.ofStrings ·.measures.names)
  | "history" => return l.history
  | "model" => (l.stack.bind (·.model)).elim other (return layerValue ·)
  | "stopTraining" =>
    let m ← stoppableOf id "get"
    return (← layerAt m).stopTraining.elim .absent bool
  | "isTraining" => return l.isTraining
  | _ => other

def commonProperty (other : Reply) : Reply := do
  match name with
  | "name" => return l.name
  | "trainable" | "trainableWeights" | "nonTrainableWeights" | "stateful" => layerMethod id name []
  | "weights" => return variablesValue (← weightsOf id)
  | "input" => layerInput id
  | "output" => layerOutput id
  | "outputShape" => layerOutputShape id
  | "built" => return l.built
  | "dtype" => return l.dtype
  | "batchInputShape" => return l.batchInputShape
  | "supportsMasking" => return l.supportsMasking
  | "initialWeights" => return l.initialWeights
  | "inboundNodes" => return nodesValue l.inbound
  | "outboundNodes" => return nodesValue l.outbound
  | "inputSpec" => return ofOption (fun ss => .list (ss.map specValue)) l.inputSpec
  | "losses" => return .list (l.losses.map fun _ => .native "" [])
  | "states" => l.states.elim other (return list ·)
  | "stateSize" => if (← setting id "cells").isList then stateSizeOf id else other
  | _ => other

def ownProperty : Option Value := (l.settings.lookup name).or ((l.slots.lookup name).map variableValue)
def settingProperty : Reply := do
  match ownProperty l name, l.settings.lookup "cell" with
  | some v, _ => return v
  | none, some (.object .layer cell) =>
    let c ← layerAt cell
    return if cell == id then .absent else (ownProperty c name).getD .absent
  | none, _ => return .absent

def layerField : Reply := do
  let l ← layerAt id
  let other := commonProperty id l name (settingProperty id l name)
  l.network.elim other (modelProperty id l · name other)

def putLayerField (v : Value) : Act := do
  match name, v with
  | "trainable", v => let _ ← layerMethod id "setTrainable" [v]
  | "name", v => modifyLayer id fun l => { l with name := v.text }
  | "stopTraining", v => setStop id v.truthy
  | "built", v => modifyLayer id fun l => { l with built := v.truthy }
  | "optimizer", .object .optimizer o =>
    let l ← layerAt id
    let target := (l.stack.bind (·.model)).getD id
    modifyLayer target fun l => { l with training := l.training.map fun t =>
      if t.optimizer == o then t else { t with optimizer := o, ownsOptimizer := false } }
  | _, v => putSetting id name v

def symbolicField : Reply := do
  let s ← symbolicAt id
  let args ← match s.callArgs with
    | .object .callArgs a => do pure (.record ((← get).callArgs.getD a []))
    | v => pure v
  return Value.record [("shape",dimsValue s.dims),("dtype",s.dtype),("name",s.name.elim .absent str),
    ("originalName",s.originalName.elim .absent str),("id",s.uid),("rank",s.dims.length),
    ("sourceLayer",ofOption layerValue s.layer),("inputs",s.inputs.map symbolicValue),
    ("nodeIndex",s.nodeIndex.elim .absent ofNat),("tensorIndex",s.tensorIndex.elim .absent ofNat),("callArgs",args),
    ("outputTensorIndex",s.outputIndex.elim .absent ofNat)] name

def masksOf (n : LayerNode) (ends : Nats) : Value := if n.own then .list (ends.map fun _ => .null) else .null

def nodeField : Reply := do
  let n ← nodeAt id
  let stacked := (← layerAt n.layer).className == "Sequential"
  return Value.record [("outboundLayer",layerValue n.layer),("inboundLayers",n.origins.map (ofOption layerValue ·.layer)),
    ("nodeIndices",n.origins.map (ofOption .ofNat ·.nodeIndex)),
    ("tensorIndices",n.origins.map (ofOption .ofNat ·.tensorIndex)),("inputTensors",n.inputs.map symbolicValue),
    ("outputTensors",n.outputs.map symbolicValue),("inputMasks",masksOf n n.inputs),("outputMasks",masksOf n n.outputs),
    ("inputShapes",formValue (if n.own then .many n.inputShapes else .ofList n.inputShapes)),
    ("outputShapes",formValue (if n.own && !stacked then .many n.outputShapes else .ofList n.outputShapes)),
    ("callArgs",ofOption callArgsValue n.callArgs),("id",id)] name

def nodeConfig : Reply := do
  let n ← nodeAt id
  let sources ← n.origins.mapM fun o => do
    let some layer := o.layer | return .null
    return str (← layerAt layer).name
  return .record [("outboundLayer",(← layerAt n.layer).name),("inboundLayers",.list sources),
    ("nodeIndices",← nodeField id "nodeIndices"),("tensorIndices",← nodeField id "tensorIndices")]

/-! ## Objects from configurations -/

def optimizerTitles : Named String := optimizerNames.map fun c => (c,c ++ "Optimizer")
def knownClasses : Named String :=
  layerClasses.map (fun c => (c.className,c.title)) ++ partClasses.map (fun c => (c.className,c.title)) ++
    optimizerTitles
def withClasses (config : Value) : Reply := do
  match config with
  | .record fs => return .record (fs.put "customObjects" (.record (← classesInForce.get)))
  | v => return v

def buildObject (customs : Value) (zeroInit : Bool) (title : String) (settings : Value) : Reply := do
  match layerClasses.find? (·.title == title) with
  | some c =>
    let config ← withClasses settings
    match c.fromConfig with
    | some f => return layerValue (← f config customs zeroInit)
    | none => return layerValue (← c.create config)
  | none =>
    match partClassOf title with
    | some c => return .item c.title (← c.settle settings)
    | none =>
      match optimizerTitles.find? (·.2 == title) with
      | some (className,_) => optimizerOfConfig className settings
      | none => notAFunction title

def deserializeObject (family : String) (args : Values) : Reply :=
  deserializeWith family knownClasses (buildObject (args 1) (args 2).truthy) (args 0) (args 1)
def createOfClass (className : String) (args : Value) : Reply := do
  let some c := layerClasses.find? (·.className == className) | notAFunction className
  return layerValue (← c.create args)

/-! ## Programs -/

def makerOf (title : String) : String :=
  ([("Cropping2D","cropping2D"),("ELU","elu"),("GRU","gru"),("GRUCell","gruCell"),("LSTM","lstm"),
    ("LSTMCell","lstmCell"),("PReLU","prelu"),("RNN","rnn")].lookup title).getD
    (((title.replace "1D" "1d").replace "2D" "2d").replace "3D" "3d").decapitalize
def layerMakers : Named String :=
  madeClasses.map (fun c => (makerOf c.title,c.title)) ++ ["1d","2d","3d"].flatMap fun d =>
    ["avgPooling" ++ d,"avgPool" ++ d].map (·,"AveragePooling" ++ d.toUpper)
def layersTable : Handlers :=
  layerMakers.map (fun (name,title) => ("layers." ++ name,on1 (createOfClass title ·))) ++
  [ ("layers.deserialize",(deserializeObject "layer" ·)) ] ++
  partTable ++ variableTable ++ lossHandlers ++ convolutionTable ++ poolingTable ++ normalizationTable ++
  recurrentTable ++ runningTable ++ callbackTable ++ dataTools ++ modelTable ++ layerUtilities
def layerConstructors : Handlers :=
  layerClasses.map (fun c => (c.title,on1 fun x => return layerValue (← c.create x))) ++
    variableConstructors ++ runningConstructors ++ callbackConstructors
end TensorKit.Script
