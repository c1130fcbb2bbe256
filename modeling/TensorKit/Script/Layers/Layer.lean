import TensorKit.Script.Layers.Parts

/-! # Variables of layers -/
namespace TensorKit.Script
open Engine Layers
variable (id : Nat) (name : String) (v : Value)
def variableAt : Script LayerVariable := return (← get).layerVariables.getD id default
def modifyVariable (f : LayerVariable → LayerVariable) : Act :=
  modify fun w => { w with layerVariables := w.layerVariables.modify id f }

def newLayerVariable (value dtype name : Value) (trainable : Bool) (constraint : Value) : Script Nat := do
  let dtype := (dtype.orElse "float32").text
  let originalName ← scopedName (name.orElse "Variable").text
  let name ← uniqueName originalName
  match value with
  | .tensor x =>
    let tensor ← newVariableOf x trainable name dtype
    modifyGet fun w => (w.layerVariables.size,
      { w with layerVariables := w.layerVariables.push { name, originalName, dtype, trainable, tensor, constraint } })
  | v => throw (.unreadable v.text "shape")

def readVariable : Script Tensor := do
  let v ← variableAt id
  if ← isDisposed v.tensor then fail s!"LayersVariable {v.name} is already disposed."
  return v.tensor

def writeVariable (x : Tensor) : Act := do
  let v ← variableAt id
  let held ← readVariable id
  if held.shape != x.shape then
    fail ("Shape mismatch: " ++ jsonText (.ofShape held.shape) ++ " vs. " ++ jsonText (.ofShape x.shape))
  if held.id != x.id then
    assign held x
    if v.constraint.isPresent then
      if let .tensor y ← applyPart v.constraint [held] then assign held y

def disposeVariable : Act := do
  let t ← readVariable id
  dispose t
def setTrainable (trainable : Bool) : Act := do
  modifyVariable id fun v => { v with trainable }
  let v ← variableAt id
  modifyCell v.tensor fun c => { c with variableInfo := c.variableInfo.map fun i => { i with trainable } }
def countValues (ids : Nats) : Script Nat := do
  let vs ← ids.mapM variableAt
  return vs.foldl (fun n v => n + v.tensor.size) 0
def variableValue : Value := .object .layerVariable id
def asVariable : Script Nat := do
  let .object .layerVariable id := v | throw (.badType "x.read is not a function")
  return id
def asTensor (what : String) : Script Tensor := do
  let .tensor t := v | throw (.unreadable v.text what)
  return t

def variableMethod (args : Values) : Reply := do
  match name with
  | "read" => readVariable id
  | "write" =>
    writeVariable id (← asTensor (args 0) "shape")
    return variableValue id
  | "dispose" => silent <| disposeVariable id
  | _ => notAFunction name

def variableField : Reply := do
  let v ← variableAt id
  return Value.record [("name",v.name),("originalName",v.originalName),("dtype",v.dtype),
    ("shape",.ofShape v.tensor.shape),("trainable",v.trainable),("constraint",v.constraint),("val",v.tensor),
    ("id",id)] name

def variableTable : Handlers :=
  (["zeros","ones","eye"].map fun f => ("variables." ++ f,on3 fun x dtype name => do
    return variableValue (← newLayerVariable (← core f [x]) dtype name true .null))) ++
  ([("add","add"),("subtract","sub")].map fun (name,op) => ("variables." ++ name,on2 fun x z => do
    let id ← asVariable x
    writeVariable id (← opTensor op [← readVariable id,z])
    return x)) ++
  [ ("variables.create",on4 fun x y z w => do return variableValue (← newLayerVariable x y z true (w.orElse .null))),
    ("variables.update",on2 fun x y => do
      writeVariable (← asVariable x) (← asTensor y "shape")
      return x),
    ("variables.values",on1 fun x => do
      return .list (← x.items.mapM fun v => return .tensor (← readVariable (← asVariable v)))),
    ("variables.count",on1 fun x => do
      let ids ← x.items.mapM asVariable
      return (← countValues ids)) ]

def variableConstructors : Handlers :=
  [ ("LayerVariable",fun a => do
      return variableValue (← newLayerVariable (a 0) (a 1) (a 2) (boolOr (a 3) true) ((a 4).orElse .null))) ]

/-! # Layers

What a class adds is reached by calling the layer's own methods.
-/

/-- The operations that tell one class of layers from another. -/
structure LayerClass where
  title : String
  className : String := title
  create : Value → Script Nat
  build : Nat → Form → Act
  call : Nat → Value → Nat → Reply
  outputShape : Nat → Form → Script Form
  mask : Nat → Value → Value → Reply
  config : Nat → Script Fields
  methods : Named (Nat → Handler) := []
  /-- Makes a layer from its configuration and classes handed in, perhaps without random weights; by
  default like any other. -/
  fromConfig : Option (Value → Value → Bool → Script Nat) := none

variable (id : Nat) (inputs : Value) (args : Nat) (name : String)
def layerAt : Script Layer := return (← get).layers.getD id default
def modifyLayer (f : Layer → Layer) : Act := modify fun w => { w with layers := w.layers.modify id f }
def layerValue : Value := .object .layer id
def layerCall (method : String) (args : Values) : Reply := call (.native "layer.method" [layerValue id,method]) args
def settings : Reply := return .record (← layerAt id).settings
def setting : Reply := return (← settings id) name
def isSet : Script Bool := return (← setting id name).truthy

variable (v : Value) (fields : Fields) (vs : Values) (ids : Nats) (slot : String)
def putSetting : Act := modifyLayer id fun l => { l with settings := l.settings.put name v }
def putSettings : Act := fields.forM fun (k,v) => putSetting id k v

/-! ## Arguments of calls -/

def newCallArgs : Script Nat := modifyGet fun w => (w.callArgs.size,{ w with callArgs := w.callArgs.push fields })
def callArgsOf : Script Nat := do
  let .object .callArgs id := v | newCallArgs v.fields
  return id
def callArgsValue : Value := .object .callArgs id
def callArg : Reply := return (((← get).callArgs.getD args []).lookup name).getD .absent
def putCallArg : Act := modify fun w => { w with callArgs := w.callArgs.modify args fun fs => fs.put name v }
def isTrainingCall : Script Bool := return (← callArg args "training").truthy

/-! ## Symbolic tensors -/

def symbolicAt : Script Symbolic := return (← get).symbolics.getD id default
def modifySymbolic (f : Symbolic → Symbolic) : Act := modify fun w => { w with symbolics := w.symbolics.modify id f }
def symbolicValue : Value := .object .symbolic id
def isSymbolic (v : Value) : Bool := v matches .object .symbolic _
def symbolicIds : Nats := vs.filterMap (·.objectId? .symbolic)

def newSymbolic (dtype : Value) (dims : Dims) (layer : Option Nat) (inputs : Nats) (callArgs : Value)
    (name : Option String) (outputIndex : Option Nat) : Script Nat := do
  let originalName ← name.mapM scopedName
  let name ← originalName.mapM uniqueName
  modifyGet fun w =>
    let uid := w.symbolics.size + w.layerVariables.size
    let s := { uid, name, originalName, dtype, dims, layer, inputs, callArgs, outputIndex }
    (w.symbolics.size,{ w with symbolics := w.symbolics.push s })

def dimsOf : Script Dims := do
  match v with
  | .tensor t => return .ofShape t.shape
  | .object .symbolic id => return (← symbolicAt id).dims
  | v => memberOf v "shape" >>= fun s => return s.toDims
def formOf : Script Form := return .ofList (← (asList inputs).mapM dimsOf)
def nodeAt : Script LayerNode := return (← get).layerNodes.getD id default
def newNode (node : LayerNode) : Script Nat := do
  let id := (← get).layerNodes.size
  modify fun w => { w with layerNodes := w.layerNodes.push node }
  for o in node.origins do o.layer.forM fun l => modifyLayer l fun l => { l with outbound := l.outbound ++ [id] }
  modifyLayer node.layer fun l => { l with inbound := l.inbound ++ [id] }
  return id

/-! ## Making layers -/

def newLayer (title className : String) (args : Value) : Script Nat := do
  let given ← memberOf args "name"
  let name ← if given.truthy then pure given.text
    else do pure (Casing.toSnake className ++ "_" ++ (← nextName className))
  let trainable := (args "trainable").isNil || (args "trainable").truthy
  let inputShape := args "inputShape"
  let batchShape := args "batchInputShape"
  let hasShape := inputShape.isPresent || batchShape.isPresent
  let batchInputShape := if batchShape.isPresent then batchShape
    else if inputShape.isPresent then .list ((args "batchSize").orElse .null :: asList inputShape)
    else .absent
  let dtype := if hasShape then ((args "dtype").orElse (args "inputDType")).orElse "float32"
    else .absent
  let layer :=
    { className := title, name, trainable, batchInputShape, dtype, initialWeights := (args "weights").orElse .null }
  modifyGet fun w => (w.layers.size,{ w with layers := w.layers.push layer })

def markBuilt : Act := modifyLayer id fun l => { l with built := true }
def buildNothing (_ : Form) : Act := markBuilt id
def sameShape (_ : Nat) (f : Form) : Script Form := return f

def passMask (_ mask : Value) : Reply := do
  let l ← layerAt id
  if l.supportsMasking then return mask
  let refuse : Reply := throw (.badType s!"Layer {l.name} does not support masking, but was passed an inputMask.")
  match mask with
  | .absent | .null => return .null
  | .list ms => if ms.any Value.isPresent then refuse else return .null
  | _ => refuse

def showsTrainable : Reply := layerCall id "trainable" []
def createLayer (className : String) (args : Value) : Script Nat := do
  match ← call (.native "layer.create" [className]) [args] with
  | .object .layer id => return id
  | v => fail ("no layer: " ++ v.text)
def deserializeLayer (config customs : Value) (zeroInit : Bool) : Reply :=
  deserializeAny "layer" config customs zeroInit
def baseConfig : Script Fields := do
  let l ← layerAt id
  return [("name",.str l.name),("trainable",← showsTrainable id)] ++
    (if l.batchInputShape.isPresent then [("batchInputShape",l.batchInputShape)] else []) ++
    (if l.dtype.isPresent then [("dtype",l.dtype)] else [])
def settingConfig : Value := match v with
  | .item title _ =>
    if name == "activation" || name == "recurrentActivation" then activationName v
    else if (partClassOf title).isSome then partConfig v else v
  | v => v
def shownConfig (names : Strings) (id : Nat) : Script Fields := do
  let l ← layerAt id
  let own := names.map fun k => (k,settingConfig k ((l.settings.lookup k).getD .absent))
  return (← baseConfig id).foldl (fun fs (k,v) => fs.put k v) own

def plainClass (title : String) (settle : Nat → Value → Act) (shown : Strings) : LayerClass where
  title := title
  create := fun args => do
    let id ← newLayer title title args
    settle id args
    return id
  build := buildNothing
  call := fun _ x _ => return x
  outputShape := sameShape
  mask := passMask
  config := shownConfig shown

def LayerClass.argsOptional (c : LayerClass) : LayerClass :=
  { c with create := fun args => c.create (args.orElse (.record [])) }

/-! ## Weights -/

def isTrainable : Script Bool := return (← variableAt id).trainable
def ownTrainables : Script Nats := do
  let l ← layerAt id
  if l.trainable then l.trainableWeights.filterM isTrainable else return []
def ownOthers : Script Nats := do
  let l ← layerAt id
  if l.trainable then
    let frozen ← l.trainableWeights.filterM fun v => return !(← isTrainable v)
    return frozen ++ l.otherWeights
  else return l.trainableWeights ++ l.otherWeights
def variableIds : Nats := v.items.filterMap (·.objectId? .layerVariable)
def trainablesOf : Script Nats := return variableIds (← layerCall id "trainableWeights" [])
def othersOf : Script Nats := return variableIds (← layerCall id "nonTrainableWeights" [])
def weightsOf : Script Nats := return (← trainablesOf id) ++ (← othersOf id)

def addWeightFrom (start : Reply) (shape dtype regularizer : Value)
    (trainable : Bool) (constraint : Value) : Script Nat := do
  let l ← layerAt id
  if l.weightNames.contains name then badValue s!"Duplicate weight name {name} for layer {l.name}"
  modifyLayer id fun l => { l with weightNames := l.weightNames ++ [name] }
  let dtype := dtype.orElse "float32"
  let start ← if l.zeroInit then do applyPart (← getInitializer "zeros") [shape,dtype] else start
  let v ← newLayerVariable start dtype name trainable constraint
  disposeAll start
  if regularizer.isPresent then modifyLayer id fun l => { l with losses := l.losses ++ [(regularizer,v)] }
  modifyLayer id fun l =>
    if trainable then { l with trainableWeights := l.trainableWeights ++ [v] }
    else { l with otherWeights := l.otherWeights ++ [v] }
  return v

def putSlot (v : Nat) : Act := modifyLayer id fun l => { l with slots := l.slots.filter (·.1 != slot) ++ [(slot,v)] }
def addNamedWeight (slot name stem : String) (shape : Value) (trainable : Bool := true)
    (dtype : Value := .null) : Act := do
  let s ← settings id
  let v ← addWeightFrom id name (applyPart (s (stem ++ "Initializer")) [shape,dtype.orElse "float32"]) shape dtype
    (s (stem ++ "Regularizer")) trainable (s (stem ++ "Constraint"))
  putSlot id slot v
def addWeight : Value → Act := (addNamedWeight id name name name ·)
def weight : Reply := do
  let some v := (← layerAt id).slots.lookup slot | return .null
  readVariable v
def shapesMatch (a : Shape) (v : Value) : Bool := match v with
  | .tensor t => a == t.shape
  | _ => false

def setWeightsOf (params : Nats) (weights : Value) : Act := do
  let l ← layerAt id
  let ws := weights.items
  let _ ← tidied <| silent do
    if params.length != ws.length then
      badValue (s!"You called setWeights(weights) on layer \"{l.name}\" with a weight list of length {ws.length}, " ++
        s!"but the layer was expecting {params.length} weights. Provided " ++
        "weights: " ++ (← displayText weights) ++ "...")
    let held ← params.mapM readVariable
    for (h,w) in held.zip ws do
      if !shapesMatch h.shape w then
        badValue s!"Layer weight shape {h.shape.text} not compatible with provided weight shape {(shapeOf w).text}"
    for (p,w) in params.zip ws do writeVariable p (← asTensor w "shape")

/-! ## Calls -/

def requireSpec (layer : String) (i : Nat) (x : Value) (spec : InputSpec) : Act := do
  let dims ← dimsOf x
  let ndim := dims.length
  let start := s!"Input {i} is incompatible with layer {layer}"
  if let some n := spec.ndim then if ndim != n then badValue s!"{start}: expected ndim={n}, found ndim={ndim}"
  if let some n := spec.minNDim then if ndim < n then badValue s!"{start}: expected min_ndim={n}, found ndim={ndim}."
  if let some t := spec.dtype then
    let given := match x with
      | .tensor t => t.dtype.name
      | _ => "float32"
    if given != t then badValue s!"{start} : expected dtype={t}, found dtype={given}."
  for (axis,want) in spec.axes do
    if let some w := want then
      let have' := dims.dimAt axis
      if !(have'.isNone || have' == some w) then
        badValue (start ++ s!": expected axis {axis} of input shape to " ++
          "have value " ++ Decimal.text w ++ " but got shape " ++ dims.text ++ ".")
  if let some want := spec.dims then
    for (w,j) in want.zipIdx do
      match w, dims[j]? with
      | some a, some (some b) =>
        if !(a == b) then badValue (start ++ ": expected shape=" ++ want.text ++ ", found shape=" ++ dims.text ++ ".")
      | _, _ => pure ()

def inputsText : Script String := return ",".intercalate (← vs.mapM displayText)

def requireInputs : Act := do
  let l ← layerAt id
  match l.inputSpec with
  | none | some [] => return
  | some specs =>
    let xs := asList inputs
    if xs.length != specs.length then
      badValue (s!"Layer {l.name} expects {specs.length} inputs, but it received {xs.length} input tensors. Input " ++
        "received: " ++ (← inputsText xs))
    for ((x,spec),i) in (xs.zip specs).zipIdx do requireSpec l.name i x spec

def isNetwork (l : Layer) : Bool := l.network.isSome
def layerClassName : Script String := return (← layerCall id "getClassName" []).text
def layerConfig : Reply := do
  let className ← layerCall id "getClassName" []
  return .record [("className",className),("config",← layerCall id "getConfig" [])]
def requireUsable : Act := do
  let l ← layerAt id
  if l.refCount == some 0 then
    let kind := if isNetwork l then "Container" else "Layer"
    fail s!"{kind} '{l.name}' is already disposed."
def requirePassive : Act := do
  if (← setting id "activityRegularizer").isPresent then
    unsupported "Layer invocation in the presence of activity regularizer(s) is not supported yet."

def ensureBuilt (isConcrete : Bool) : Act := do
  let l ← layerAt id
  if !l.built then
    requireInputs id inputs
    let _ ← layerCall id "build" [formValue (← formOf inputs)]
    markBuilt id
    let l ← layerAt id
    if l.initialWeights.truthy then let _ ← layerCall id "setWeights" [l.initialWeights]
    if l.refCount.isNone && isConcrete then modifyLayer id fun l => { l with refCount := some 1 }

def copyShared (inputs : Values) (x : Value) : Reply := do
  if inputs.any (·.same x) then
    match x with
    | .tensor _ => core "clone" [x]
    | v => return v
  else return x

def applySymbolic : Reply := do
  let l ← layerAt id
  let ids := symbolicIds (asList inputs)
  let inForm ← formOf inputs
  let outForm := (← layerCall id "computeOutputShape" [formValue inForm]).toForm
  let make d index := newSymbolic "float32" d (some id) ids (callArgsValue args) (some l.name) index
  let outs ← match outForm with
    | .one d => do pure [← make d none]
    | .many ds => ds.zipIdx.mapM fun (d,i) => make d (some i)
  let origins ← ids.mapM fun s => do
    let s ← symbolicAt s
    return ⟨s.layer,s.nodeIndex,s.tensorIndex⟩
  let _ ← newNode { layer := id, origins, inputs := ids, outputs := outs, inputShapes := inForm.list,
                    outputShapes := outForm.list, callArgs := some args }
  let count := (← layerAt id).inbound.length
  for (s,i) in outs.zipIdx do
    modifySymbolic s fun s => { s with layer := some id, nodeIndex := some (count - 1), tensorIndex := some i }
  modifyLayer id fun l => { l with refCount := some (l.refCount.getD 0 + 1) }
  requirePassive id
  match outForm, outs with
  | .one _, [s] => return symbolicValue s
  | _, ss => return ss.map symbolicValue

def applyLayer (inputs kwargs : Value) : Reply := do
  let args ← callArgsOf kwargs
  requireUsable id
  let list := asList inputs
  let allSymbolic := list.all isSymbolic
  let noneSymbolic := !list.any isSymbolic
  if allSymbolic == noneSymbolic then badValue "Arguments to apply() must be all SymbolicTensors or all Tensors"
  inNameScope (← layerAt id).name do
    ensureBuilt id inputs noneSymbolic
    requireInputs id inputs
    if noneSymbolic then
      let outs ← (asList (← layerCall id "call" [inputs,callArgsValue args])).mapM (copyShared list)
      requirePassive id
      return oneOrList outs
    else applySymbolic id inputs args

/-! ## What is known of a layer -/

def symbolicsValue : Value := oneOrList (ids.map symbolicValue)

/-- The input or output of a layer that is called once. -/
def layerSide (what title unconnected : String) (side : LayerNode → Nats) : Reply := do
  let l ← layerAt id
  match l.inbound with
  | [n] => return symbolicsValue (side (← nodeAt n))
  | [] => throw (.noAttribute s!"Layer {l.name} {unconnected}")
  | _ =>
    throw (.noAttribute (s!"Layer {l.name} has multiple inbound nodes, hence the notion of \"layer {what}\" is " ++
      s!"ill-defined. Use `get{title}At(nodeIndex)` instead."))

def layerInput : Reply := layerSide id "input" "Input" "is not connected, no input to return." (·.inputs)
def layerOutput : Reply := layerSide id "output" "Output" "has no inbound nodes." (·.outputs)

def layerOutputShape : Reply := do
  let l ← layerAt id
  let shapes ← l.inbound.mapM fun n => return (← nodeAt n).outputShapes
  match shapes with
  | [] => throw (.noAttribute s!"The layer {l.name} has never been called and thus has no defined output shape.")
  | first :: rest =>
    let text ds := jsonText (ds.map dimsValue)
    if rest.any (text · != text first) then
      throw (.noAttribute (s!"The layer {l.name} has multiple inbound nodes with different output shapes. Hence " ++
        "the notion of \"outut shape\" is ill-defined for the layer."))
    return formValue (.ofList first)

def countParams : Reply := do
  let l ← layerAt id
  if !l.built then
    throw (.runtime (s!"You tried to call countParams() on {l.name}, but the layer is not built yet. Build it " ++
      "first by calling build(batchInputShape)."))
  countValues (← weightsOf id)
def ownLosses : Script Values := do (← layerAt id).losses.mapM fun (r,v) => do applyPart r [(← readVariable v)]
def variablesValue : Value := .list (ids.map variableValue)
end TensorKit.Script
