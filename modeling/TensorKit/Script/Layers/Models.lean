import TensorKit.Script.Layers.Training
import TensorKit.Script.Graph.Model

/-! # Saving and loading models -/
namespace TensorKit.Script
section
open Layers

/-! ## Data that programs attach to a model -/

def isPlainData : Value → Bool
  | .null | .str _ | .num _ | .bool _ => true
  | .list xs => (xs.map isPlainData).and
  | .record fs => (fs.map (isPlainData ·.2)).and
  | _ => false
decreasing_by all_goals grind [→ List.sizeOf_lt_of_mem]
variable (id : Nat) (v : Value) (config : Value)
def requireMetadata : Act := do
  if !(v matches .record _) || !isPlainData v then fail "User-defined metadata is expected to be a JSON object, but is not."
def setMetadata : Act := do
  requireMetadata v
  modifyLayer id fun l => { l with metadata := v }

/-! ## The configuration of training -/

def snakeName : Value := Casing.toSnake v.text

def optimizerOf : Script (Option Nat) := do
  let l ← layerAt id
  let some s := l.stack | return l.training.map (·.optimizer)
  let some m := s.model | return none
  return (← layerAt m).training.map (·.optimizer)

def lossConfig (loss : Value) : Reply := do
  let refuse : Reply := fail "Serialization of non-string loss is not supported."
  match loss with
  | .str _ => return snakeName loss
  | .list ls => if ls.all (·.str?.isSome) then return .list (ls.map snakeName) else refuse
  | v =>
    if v.fields.all (·.2.str?.isSome) then return .record (v.fields.map fun (k,l) => (k,snakeName l))
    else refuse

def metricsConfig (metrics : Value) : Reply := do
  let name v : Reply := return snakeName (← measureName v)
  match metrics with
  | .str _ => return [← name metrics]
  | .list ms => ms.mapM name
  | v =>
    if v.isFunction then return [← name v]
    return .record (← v.fields.mapM fun (k,m) => return (k,← name m))

def trainingConfig : Reply := do
  let t := (← layerAt id).training.getD { optimizer := 0 }
  let o := (← optimizerOf id).getD t.optimizer
  return .record [("loss",← lossConfig t.loss),("metrics",← metricsConfig t.metrics),
    ("optimizer_config",.record [("class_name",← optimizerMethod o "getClassName" []),
      ("config",← optimizerMethod o "getConfig" [])])]
def camelName : Value := Casing.toCamel v.text
def camelNames : Value := match v with
  | .list xs => .list (xs.map camelName)
  | v => if v.isNil then .absent else .record (v.fields.map fun (k,x) => (k,camelName x))

def loadTrainingConfig : Act := do
  for (k,what) in [("weighted_metrics","weight_metrics"),("loss_weights","loss_weights"),
      ("sample_weight_mode","sample_weight_mode")] do
    if (config k).isPresent then fail s!"Loading {what} is not supported yet."
  let optimizer ← deserializeLayer (← camelConfig (config "optimizer_config") "") .absent false
  let given := config "loss"
  let loss := if given.str?.isSome then camelName given else camelNames given
  let metrics := camelNames (config "metrics")
  let _ ← layerCall id "compile" [.record [("loss",loss),("metrics",metrics),("optimizer",optimizer)]]

/-! ## Saving -/

def savedWeights : Script (Named Tensor) := do
  let only := (config "trainableOnly").truthy
  let ws ← if only then do (← trainablesOf id).filterM isTrainable else weightsOf id
  ws.mapM fun v => return ((← variableAt v).originalName,← readVariable v)

def modelArtifacts : Reply := do
  let encoded ← (encodeWeights (← savedWeights id config) .absent)
  let topology ← layerCall id "toJSON" [.null,false]
  let start := [("modelTopology",topology),("format","layers-model"),
    ("generatedBy","TensorFlow.js tfjs-layers v1.2.9"),("convertedBy",.null)]
  let optimizer ← optimizerOf id
  let (training,encoded) ← match optimizer, (config "includeOptimizer").truthy with
    | some o, true => do
      let saved ← trainingConfig id
      let weights := namedTensors (← optimizerMethod o "getWeights" [])
      let more ← encodeWeights weights "optimizer"
      let data := bytesArg (encoded "data") ++ bytesArg (more "data")
      let specs := (encoded "specs").items ++ (more "specs").items
      pure ([("trainingConfig",saved)],.record [("data",.bytes (ofBytes data)),("specs",.list specs)])
    | _, _ => pure ([],encoded)
  let metadata := (← layerAt id).metadata
  let metadata ← if metadata.isPresent then do
      requireMetadata metadata
      pure [("userDefinedMetadata",metadata)]
    else pure []
  return .record (start ++ training ++ metadata ++ [("weightData",encoded "data"),("weightSpecs",encoded "specs")])

def isWebAddress (s : String) : Bool := s.startsWith "http://" || s.startsWith "https://"

def saveModel (handler config : Value) : Reply := do
  match handler with
  | .str url =>
    if isWebAddress url then throw (unreachable url)
    badValue ("Cannot find any save handlers for URL '" ++ url ++ "'")
  | h =>
    let save ← memberOf h "save"
    if save.isNil then
      badValue ("LayersModel.save() cannot proceed because the IOHandler " ++
        "provided does not have the `save` attribute defined.")
    call save [← modelArtifacts id config]

/-! ## Loading -/

def topologyIn : Reply := do
  let inner ← memberOf v "model_config"
  return if inner.isPresent then inner else v

def fetchManifest (manifest : Value) (start : String) (names : Strings) : Act := do
  let groups := manifest.items
  let entries := groups.map fun g => (g "weights").items.map fun w => (w "name").text
  let known := entries.flatten
  let missing := names.filter fun n => !known.contains n
  if !missing.isEmpty then
    fail ("Could not find weights in manifest with names: " ++ ", ".intercalate missing ++ ". \n" ++
      "Manifest JSON has weights with names: " ++ ", ".intercalate known ++ ".")
  let needed := (groups.zip entries).filter fun (_,ns) => ns.any names.contains
  let start := if start.endsWith "/" then start else start ++ "/"
  let urls := needed.flatMap fun (g,_) => (g "paths").items.map fun p => start ++ p.text
  urls.head?.forM fun url => throw (unreachable url)

def asModel : Script Nat := do
  let .object .layer id := v | notAFunction "model.loadWeights"
  return id

def modelOfTopology (config customs : Value) : Reply := do
  let whole := if config.fields.any (·.1 == "modelTopology") then config
    else .record [("modelTopology",config)]
  let model ← deserializeLayer (← camelConfig (← topologyIn (whole "modelTopology")) "") customs false
  let manifest := whole "weightsManifest"
  if manifest.isPresent then
    let id ← asModel model
    let names ← (← weightsOf id).mapM fun v => return (← variableAt v).originalName
    fetchManifest manifest (strOr (whole "pathPrefix") "") names
  return .promise model

def loadStoredWeights (artifacts : Value) (strict : Bool) : Act := do
  let specs := artifacts "weightSpecs"
  if specs.isNil then
    badValue
      "LayersModel artifacts contains weight data, but not weight specs. Therefore loading of weights cannot proceed."
  let decoded ← (decodeWeights (bytesArg (artifacts "weightData")) (specs.items.map specOf) : Eng _)
  let isOptimizers name := specs.items.any fun s => (s "name").text == name && (s "group").str? == some "optimizer"
  let (ofOptimizer,ofModel) := decoded.partition fun (n,_) => isOptimizers n
  let named := ofModel.map fun (n,t) => (n,t)
  let _ ← layerCall id "loadWeights" [.record named,strict]
  if !ofOptimizer.isEmpty then
    (← optimizerOf id).forM fun o => do
      let _ ← optimizerMethod o "setWeights" [(ofOptimizer.map fun (n,t) => namedTensorValue n t)]
  disposeAll (.list (decoded.map fun (_,t) => t))

def loadLayersModel (source options : Value) : Reply := do
  if !(source matches .str _ | .item "PassthroughLoader" _) && (← memberOf source "load").isNil then
    badValue ("Cannot proceed with model loading because the IOHandler provided " ++
      "does not have the `load` method implemented.")
  let artifacts ← artifactsOf source
  let topology ← topologyIn (artifacts "modelTopology")
  let strict := (options "strict").isNil || (options "strict").truthy
  let hasWeights := (artifacts "weightData").isPresent
  let fast := hasWeights && (artifacts "weightSpecs").isPresent && strict
  let model ← deserializeLayer (← camelConfig topology "") .absent fast
  let id ← asModel model
  if (artifacts "trainingConfig").isPresent then loadTrainingConfig id (artifacts "trainingConfig")
  if (artifacts "userDefinedMetadata").isPresent then setMetadata id (artifacts "userDefinedMetadata")
  if hasWeights then loadStoredWeights id artifacts strict
  return .promise model
end

/-! # Summaries of models

A model whose layers form one chain has three columns; others show also where inputs come from.
-/
open Layers
def rowText (fields : Strings) (ends : Floats) : String :=
  let step line entry :=
    let (text,i) := entry
    let line := if i > 0 then (line.dropEnd 1).toString ++ " " else line
    let line := line ++ text
    match ends[i]? with
    | none => line
    | some e =>
      let width := e.toUInt64.toNat
      let line := (line.take width).toString
      line ++ "".pushn ' ' (width - line.length)
  fields.zipIdx.foldl step ""

variable (id : Nat)
def isChain : Script Bool := do
  let n ← networkAt id
  let ranks := n.nodesByDepth.map (·.2)
  for calls in ranks do
    match calls with
    | [] => pure ()
    | [c] => if (← nodeAt c).origins.length > 1 then return false
    | _ => return false
  let calls := ranks.flatten
  for l in ← layersOf id do if ((← layerAt l).inbound.filter calls.contains).length > 1 then return false
  return true

variable (layer : Nat) (args : Value) (v : Value)
def connectionTexts (calls : Nats) : Script Strings := do
  let nodes ← ((← layerAt layer).inbound.filter fun c => calls.isEmpty || calls.contains c).mapM nodeAt
  (nodes.flatMap (·.origins)).mapM fun o => do
    let name := (← layerAt (o.layer.getD 0)).name
    return s!"{name}[{o.nodeIndex.getD 0}][{o.tensorIndex.getD 0}]"

def printSummary (lineLength positions : Value) (put : String → Act) : Act := do
  let chain ← isChain id
  let width := if lineLength.truthy then lineLength.toNumber else if chain then 65 else 98
  let ends := if positions.truthy then positions.items.map Value.toNumber
    else if chain then [0.45,0.85,1] else [0.33,0.55,0.67,1]
  let ends := if ends.getLast?.any (· <= 1) then ends.map fun p => (width * p).floor else ends
  let rule c := "".pushn c width.toUInt64.toNat
  let calls := (← networkAt id).nodesByDepth.flatMap (·.2)
  put (rule '_')
  put (rowText (["Layer (type)","Output shape","Param #"] ++ if chain then [] else ["Receives inputs"]) ends)
  put (rule '=')
  let layers ← layersOf id
  for (l,i) in layers.zipIdx do
    let shape ← match ← attempt (layerOutputShape l) with
      | .ok v => pure (jsonText v)
      | .error _ => pure "multiple"
    let title := s!"{(← layerAt l).name} ({← layerClassName l})"
    let count := (← layerCall l "countParams" []).text
    if chain then put (rowText [title,shape,count] ends)
    else
      let from' ← connectionTexts l calls
      put (rowText [title,shape,count,from'.headD ""] ends)
      for c in from'.drop 1 do put (rowText ["","","",c] ends)
    put (rule (if i + 1 == layers.length then '=' else '_'))
  let collected := (← layerAt id).training.bind (·.collected)
  let trainable ← countValues (← collected.getDM (trainablesOf id))
  let others ← countValues (← othersOf id)
  put s!"Total params: {trainable + others}"
  put s!"Trainable params: {trainable}"
  put s!"Non-trainable params: {others}"
  put (rule '_')

def modelSummary (args : Values) : Reply := silent do
  if !(← layerAt id).built then
    badValue ("This model has never been called, thus its weights have not been created yet. So no summary can be " ++
      "displayed. Build the model first (e.g., by calling it on some test data).")
  let printFn := args 2
  printSummary id (args 0) (args 1) fun line => do
    if !printFn.isAbsent then let _ ← call printFn [line]

/-! # Models -/

abbrev Method := Nat → Handler
def noResult (f : Nat → Values → Act) : Method := fun id a => silent <| f id a
def emptyRecord : Value := if v.isAbsent then .record [] else v

def graphMethods : Named Method :=
  networkMethods ++
  [ ("summary",modelSummary),
    ("compile",noResult fun id a => compileModel id (a 0)),
    ("predict",fun id a => predictModel id (a 0) (emptyRecord (a 1))),
    ("predictOnBatch",fun id a => predictOnBatch id (a 0)),
    ("evaluate",fun id a => evaluateModel id (a 0) (a 1) (emptyRecord (a 2))),
    ("evaluateDataset",fun id a => evaluateDataset id (a 0) ((a 1).orElse (.record []))),
    ("fit",fun id a => fitModel id (a 0) (a 1) (emptyRecord (a 2))),
    ("fitDataset",fun id a => fitDataset id (a 0) (a 1)),
    ("trainOnBatch",fun id a => trainOnBatch id (a 0) (a 1)),
    ("execute",fun id a => executeModelAt id (a 0) (a 1)),
    ("save",fun id a => saveModel id (a 0) (a 1)),
    ("loadTrainingConfig",noResult fun id a => loadTrainingConfig id (a 0)),
    ("setUserDefinedMetadata",noResult fun id a => setMetadata id (a 0)),
    ("getUserDefinedMetadata",fun id _ => return (← layerAt id).metadata) ]

def graphModelClass : LayerClass :=
  { plainClass "LayersModel" (fun _ _ => pure ()) [] with
    className := "Model"
    create := newNetwork "LayersModel" "Model"
    outputShape := networkShape
    call := callNetwork
    mask := maskNetwork
    config := networkConfig
    fromConfig := some (networkFromConfig "Model")
    methods := graphMethods }

/-! ## Stacks -/

def stackAt : Script (Stack Nat Nat Nat) := return (← layerAt id).stack.getD {}
def putStack (s : Stack Nat Nat Nat) : Act := modifyLayer id fun l =>
  { l with stack := some s, network := l.network.map fun n => { n with inputs := s.inputs, outputs := s.output.toList } }

def sourcesOf (w : World) : Nat → Nat → Nats
  | 0, t => [t]
  | bound + 1, t =>
    let s := w.symbolics.getD t default
    match callOfOrigin w ⟨s.layer,s.nodeIndex,none⟩ with
    | none => [t]
    | some c =>
      let node := w.layerNodes.getD c default
      if node.origins.isEmpty then node.inputs
      else (node.inputs.flatMap (sourcesOf w bound)).eraseDups

def requireStackShape : Act := do
  let l ← layerAt layer
  let node ← nodeAt (l.inbound.headD 0)
  let dims := (← symbolicAt (node.outputs.headD 0)).dims
  if dims.any fun d => d.any (· < 0) then
    let input := (← symbolicAt (node.inputs.headD 0)).dims
    badValue (s!"Negative dimension size caused by adding layer {l.name} with input shape [" ++ input.text ++ "]")
def oneOutputOnly : String :=
  "All layers in a Sequential model should have a single output tensor. For multi-output layers, use the " ++
    "functional API."

def startStack : Script (Nats × Nat) := do
  let l ← layerAt layer
  if l.inbound.isEmpty then
    if l.batchInputShape.isNil then
      badValue "The first layer in a Sequential model must get an `inputShape` or `batchInputShape` argument."
    let x ← newInput (.record [("batchShape",l.batchInputShape),("dtype",l.dtype),("name",l.name ++ "_input")])
    let _ ← layerCall layer "apply" [x]
  let l ← layerAt layer
  match l.network with
  | some n => return (n.inputs,n.outputs.headD 0)
  | none =>
    if l.inbound.length != 1 then
      badValue ("A layer added to a Sequential model must not already be connected somewhere else. LayersModel " ++
        s!"received layer {l.name} which has {l.inbound.length} pre-existing inbound connections.")
    let node ← nodeAt (l.inbound.headD 0)
    if node.outputs.length != 1 then badValue oneOutputOnly
    requireStackShape layer
    let out := node.outputs.headD 0
    let w ← get
    return (sourcesOf w w.layerNodes.size out,out)

def applyToStack (last : Nat) : Script Nat := do
  let .object .symbolic out ← layerCall layer "apply" [symbolicValue last] | throw (.badType oneOutputOnly)
  requireStackShape layer
  return out

def renewStackCall (isNew : Bool) : Act := do
  let s ← stackAt id
  let outputs := s.output.toList
  let outputShapes ← outputs.mapM dimsOfId
  if isNew then
    modifyLayer id fun l => { l with inbound := [] }
    let _ ← newNode { layer := id, inputs := s.inputs, outputs, inputShapes := ← s.inputs.mapM dimsOfId, outputShapes,
                      own := true }
  else if outputs.isEmpty then modifyLayer id fun l => { l with inbound := [], outbound := [] }
  else
    let call := (← layerAt id).inbound.headD 0
    modify fun w => { w with layerNodes := w.layerNodes.modify call fun n => { n with outputs, outputShapes } }

def assembleStack (inputs : Nats) (output : Nat) : Script Nat := do
  let model ← newNetwork "LayersModel" "Model" (.record [("inputs",.list (inputs.map symbolicValue)),
    ("outputs",symbolicValue output),("name",(← layerAt id).name ++ "_model")])
  let _ ← layerCall model "setTrainable" [(← layerAt id).trainable]
  let m ← networkAt model
  let masks := (← layerAt model).supportsMasking
  modifyNetwork id fun n =>
    { n with entries := m.entries, exits := m.exits, nodesByDepth := m.nodesByDepth, members := m.members,
             inputNames := m.inputNames, outputNames := m.outputNames }
  modifyLayer id fun l => { l with supportsMasking := masks, built := true }
  return model

def stackHooks : StackHooks Script Nat Nat Nat where
  get := stackAt id
  set := putStack id
  start := startStack
  apply := applyToStack
  outputOf layer := do
    modifyLayer layer fun l => { l with outbound := [] }
    symbolicOf (← layerOutput layer) "shape"
  renew := renewStackCall id
  assemble := assembleStack id

def addLayer : Act := do
  let .object .layer layer := v | notAFunction "layer.apply"
  if let some n := (← layerAt layer).network then
    if n.outputs.length != 1 then badValue oneOutputOnly
    if n.inputs.length != 1 then
      badValue ("All layers in a Sequential model should have a single input tensor. For multi-input layers, use " ++
        "the functional API.")
  (stackHooks id).add layer
  modifyLayer id fun l => { l with built := false }

def popLayer : Act := (stackHooks id).pop
def rebuildStack : Script Nat := (stackHooks id).assembled
def currentModel : Script Nat := (stackHooks id).current
def builtModel : Script Nat := do
  if !(← layerAt id).built then throw (.runtime "The model needs to be compiled before being used.")
  currentModel id
def compileStack : Act := do
  let m ← rebuildStack id
  compileModel m args
  let training := (← layerAt m).training.map fun t => { t with collected := none }
  modifyLayer id fun l => { l with training }
def ensureStackBuilt : Act := do
  if !(← layerAt id).built then let _ ← rebuildStack id

def stackMethods : Named Method :=
  let through model name : String × Method := (name,fun id a => do layerCall (← model id) name a)
  [ ("add",noResult fun id a => addLayer id (a 0)),
    ("pop",noResult fun id _ => popLayer id),
    ("compile",noResult fun id a => compileStack id (a 0)),
    ("summary",fun id a => do
      ensureStackBuilt id
      modelSummary id a),
    ("countParams",fun id _ => do
      ensureStackBuilt id
      countParams id),
    ("trainOnBatch",fun id a => do
      let some m := (← stackAt id).model | throw (.noMember "trainOnBatch")
      layerCall m "trainOnBatch" a),
    ("getConfig",fun id _ => return .list (← (← layersOf id).mapM layerConfig)) ] ++
  ["setWeights","predict","predictOnBatch"].map (through currentModel) ++
  ["evaluate","evaluateDataset","fit","fitDataset"].map (through builtModel) ++ graphMethods

def createStack : Script Nat := do
  let id ← newNetwork "Sequential" "Sequential" (.record [("inputs",.list []),("outputs",.list [])])
  let given := args "name"
  let name ← if given.isPresent then pure given.text else nextName "sequential_"
  modifyLayer id fun l => { l with trainable := true, built := false, name, stack := some {} }
  for l in asList ((args "layers").orElse (.list [])) do addLayer id l
  return id

def stackFromConfig (config _ : Value) (zeroInit : Bool) : Script Nat := do
  let (layers,extra) ← match config with
    | .list (first :: rest) =>
      let className := first "className"
      if className.isNil || className.str? == some "Merge" then
        badValue "Legacy serialization format not supported yet."
      pure (first :: rest,.record [])
    | .list [] => throw (.noMember "className")
    | v =>
      if (v "layers").isNil then
        fail ("When the config data for a Sequential model is not an Array, " ++
          "it must be an Object that contains the 'layers' field.")
      pure ((v "layers").items,.record (v.fields.filter (·.1 != "layers")))
  let id ← createStack extra
  for c in layers do
    let layer ← deserializeLayer c .absent zeroInit
    if zeroInit then
      if let .object .layer l := layer then let _ ← layerCall l "setZeroInit" [true]
    addLayer id layer
  return id

def stackClass : LayerClass :=
  { graphModelClass with
    title := "Sequential"
    className := "Sequential"
    create := fun args => createStack (args.orElse (.record []))
    build := fun id form => do
      let _ ← oneShape form
      let _ ← rebuildStack id
    call := fun id inputs args => do layerCall (← currentModel id) "call" [inputs,callArgsValue args]
    fromConfig := some stackFromConfig
    methods := stackMethods }

def modelTable : Handlers :=
  [ ("model",on1 fun x => return layerValue (← createLayer "Model" x)),
    ("sequential",on1 fun x => return layerValue (← createLayer "Sequential" x)),
    ("modelFromJSON",on2 modelOfTopology),
    ("loadLayersModel",on2 fun x y => loadLayersModel x (y.orElse (.record []))) ]
end TensorKit.Script
