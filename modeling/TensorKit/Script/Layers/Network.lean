import TensorKit.Script.Layers.Core

/-! # Running graphs of layers -/
namespace TensorKit.Script
open Engine Layers List
variable (w : World)
def World.symbolic (t : Nat) : Symbolic := w.symbolics.getD t default
def wiringOf : Wiring where
  name := fun t => (w.symbolic t).label
  inputs := fun t => (w.symbolic t).inputs

variable (v : Value) (id : Nat) (t : Nat) (f : Feeds Tensor)
def fitValue (v : Option Tensor) : Script Tensor := do
  let s ← symbolicAt t
  let some x := v | throw (.noMember "dtype")
  if s.dtype.isNil || s.dtype.text == x.dtype.name then return x
  try
    match ← core "cast" [x,s.dtype] with
    | .tensor y => return y
    | _ => return x
  catch _ =>
    badValue (s!"The dtype of the feed ({x.dtype.name}) can not be cast to the dtype " ++
      "of the key '" ++ s.label ++ s!"' ({s.dtype.text}).")

def enterFeed (feeds : Feeds Tensor) (t : Nat) (v : Value) (mask : Option Tensor) : Script (Feeds Tensor) := do
  let s ← symbolicAt t
  if feeds.contains t then badValue s!"Duplicate key: name={s.label}, id={s.uid}"
  return feeds.insert s.label t (← fitValue t v.tensor?) mask

def siblingsOf : Script Nats := do
  let s ← symbolicAt t
  let some l := s.layer | return [t]
  let nodes ← (← layerAt l).inbound.mapM nodeAt
  match nodes with
  | [n] => return n.outputs
  | _ => return (nodes.reverse.find? (·.outputs.contains t)).elim [t] (·.outputs)

def isStateful : Script Bool := return (← layerCall id "stateful" []).truthy
def firstMask : Value → Option Tensor
  | .list ms => (ms.headD .null).tensor?
  | v => v.tensor?

def runnerOf (stateful : Nats) : Runner (StateT (Option Nat) Script) Tensor where
  wiring := wiringOf w
  isInput := fun t => (w.symbolic t).layer.any fun l => (w.layers.getD l default).className == "InputLayer"
  keepsValues := fun t => (w.symbolic t).layer.any stateful.contains
  masks := fun t => (w.symbolic t).layer.any fun l => (w.layers.getD l default).supportsMasking
  siblings := (siblingsOf ·)
  handMask := fun mask => do
    let id ← match ← get with
      | some id => pure id
      | none => do
        let id ← newCallArgs []
        set (some id)
        pure id
    putCallArg id "mask" (mask.elim .absent .tensor)
  apply := fun t values => do
    let some l := (w.symbolic t).layer | throwThe Fault (.unreadable "null" "apply")
    let args := (← get).elim .absent callArgsValue
    return (asList (← layerCall l "apply" [.list (values.map .tensor),args])).filterMap Value.tensor?
  maskOf := fun t values masks => do
    let some l := (w.symbolic t).layer | return none
    let masks := masks.map fun m => m.elim .absent .tensor
    return firstMask (← layerCall l "computeMask" [.list (values.map .tensor),.list masks])
  fit := fun t v => fitValue t v
  isDisposed := (isDisposed ·)
  dispose := fun vs => vs.forM (dispose ·)

def requireOwn {α} (recipients : Named α) : Tried Unit :=
  if recipients.any (Data.inherited.contains ·.1) then
    .error (.badType "recipientMap[input.name].add is not a function")
  else .ok ()
variable (fetches : Nats) (given : Feeds Tensor)
def orderFor : Script (Nats × Named Int) := do
  let wiring := wiringOf (← get)
  let key := ",".intercalate (fetches.map wiring.name) ++ "|" ++ ",".intercalate given.names
  match (← get).orders.lookup key with
  | some found => return found
  | none =>
    if fetches.isEmpty then fail "Expected at least one fetch, got none"
    let found := wiring.order given.names fetches
    requireOwn found.2
    modify fun w => { w with orders := (key,found) :: w.orders }
    return found

def executeGraph (kwargs : Value) : Script Values := do
  let args ← if kwargs.isNil then pure none else do pure (some (← callArgsOf kwargs))
  let training ← args.elim (pure false) isTrainingCall
  let (sorted,counts) ← orderFor fetches given
  let w ← get
  let layers := (sorted.flatMap fun t => (w.symbolic t).inputs).filterMap fun t => (w.symbolic t).layer
  let stateful ← layers.eraseDups.filterM isStateful
  let (outs,_) ← ((runnerOf w stateful).execute given fetches sorted counts training).run args
  return outs.map (Value.ofOption .tensor)

/-! ## Values given to a graph -/

def feedsAt : Script (Feeds Tensor) := return (← get).feeds.getD id default
def putFeeds : Act := modify fun w => { w with feeds := w.feeds.setIfInBounds id f }
def symbolicOf (what : String) : Script Nat := do
  match v with
  | .object .symbolic id => return id
  | v =>
    if v.isNil then throw (.unreadable v.text what)
    fail "not a symbolic tensor"
def newFeeds : Reply := modifyGet fun w => (.object .feedDict w.feeds.size,{ w with feeds := w.feeds.push f })

def createFeeds : Reply := do
  match v with
  | .object .feedDict id => newFeeds (← feedsAt id).copy
  | .absent | .null => newFeeds {}
  | v =>
    newFeeds (← v.items.foldlM (fun f feed => do
      let key ← memberOf feed "key"
      enterFeed f (← symbolicOf key "id") (feed "value") none) {})

def feedKey (key : Value) : Script Nat := do
  match key with
  | .object .symbolic t =>
    if f.contains t then return t
    badValue s!"Nonexistent key: {(← symbolicAt t).label}"
  | v => (f.ids.lookup v.text).getDM (badValue ("Feed dict has no SymbolicTensor name: " ++ v.text))

def feedsMethod (name : String) (args : Values) : Reply := do
  let f ← feedsAt id
  let optional v := v.elim .absent .tensor
  match name with
  | "add" =>
    let t ← symbolicOf (args 0) "id"
    putFeeds id (← enterFeed f t (args 1) (args 2).tensor?)
    return .object .feedDict id
  | "addFeed" => silent do
    let t ← symbolicOf (← memberOf (args 0) "key") "id"
    putFeeds id (← enterFeed f t ((args 0) "value") none)
  | "hasKey" => return f.contains (← symbolicOf (args 0) "id")
  | "names" => return .list (f.names.map .str)
  | "getValue" => return optional (f.value? (← feedKey f (args 0)))
  | "getMask" => return optional (f.mask? (← feedKey f (args 0)))
  | "disposeMasks" => silent <| f.masks.forM fun (_,m) => dispose m
  | _ => notAFunction name

def feedsOf : Script (Feeds Tensor) := do
  let .object .feedDict id := v | throw (.unreadable v.text "names")
  feedsAt id

def runningTable : Handlers :=
  [ ("input",on1 newInput),
    ("executor.execute",on3 fun x y z => do
      let feeds ← feedsOf y
      match x with
      | .list fs => executeGraph (symbolicIds fs) feeds z
      | v => return (← executeGraph [← symbolicOf v "name"] feeds z) 0),
    ("executor.order",on2 fun x y => do
      let t ← symbolicOf x "name"
      let feeds ← feedsOf y
      let (sorted,recipients) := (wiringOf (← get)).orderOf feeds.names t
      requireOwn recipients
      return .record [("sorted",.list (sorted.map symbolicValue)),
        ("recipientMap",.record (recipients.map fun (n,rs) => (n,.item "Set" (rs.map fun r => (r,.absent)))))]) ]

def runningConstructors : Handlers :=
  [ ("FeedDict",on1 createFeeds),
    ("SymbolicTensor",fun a => do
      let name := (a 5).some?.map (·.text)
      let index := (a 6).num?.map (·.toUInt64.toNat)
      return symbolicValue (← newSymbolic (a 0) (a 1).toDims ((a 2).objectId? .layer) (symbolicIds (a 3).items) (a 4)
        name index)) ]

/-! # Values as data -/

open Value
def Value.toJson : Value → Json
  | .bool b => b
  | .num x => .num x
  | .str s => s
  | .list xs => .arr (xs.map toJson)
  | .record fs | .item _ fs => .obj (fs.map fun f => (f.1,toJson f.2))
  | _ => .null
decreasing_by all_goals grind [→ sizeOf_lt_of_mem]
def Value.ofJson : Json → Value
  | .null => .null
  | .bool b => b
  | .int n => .ofInt n
  | .num x => x
  | .str s => s
  | .arr xs => .list (xs.map ofJson)
  | .obj fs => .record (fs.map fun f => (f.1,ofJson f.2))
decreasing_by all_goals grind [→ sizeOf_lt_of_mem]
variable (id : Nat) (v : Value) (n : Network) (key : String) (ids : Nats)
def snakeConfig : Value := ofJson (Spelling.toSnake key v.toJson)
def camelConfig : Reply := do
  if v.isAbsent then throw (.badType "Cannot convert undefined or null to object")
  return ofJson (Spelling.toCamel key v.toJson)

/-! # Models as graphs of layers -/

def networkAt : Script Network := return (← layerAt id).network.getD default
def modifyNetwork (f : Network → Network) : Act := modifyLayer id fun l => { l with network := l.network.map f }
def Layer.parts (l : Layer) : Nats := l.stack.elim (l.network.elim [] (·.layers)) (·.layers)
def layersOf : Script Nats := return (← layerAt id).parts

/-! ## Making a model -/

def callOfOrigin (o : Origin) : Option Nat := match o.layer, o.nodeIndex with
  | some l, some i => (w.layers.getD l default).inbound[i]?
  | _, _ => none
def callsOf : Calls := fun n =>
  let node := w.layerNodes.getD n default
  { layer := node.layer, sources := node.origins.filterMap (callOfOrigin w), inputs := node.inputs,
    outputs := node.outputs }

def originOf : Script (Option Origin) := do
  match v with
  | .object .symbolic id =>
    let s ← symbolicAt id
    return some ⟨s.layer,s.nodeIndex,s.tensorIndex⟩
  | v =>
    if v.isNil then throw (.unreadable v.text "sourceLayer")
    return none

def requireAll (cond : Bool) (message : String) : Act := if cond then pure () else throw ⟨.assertion,message⟩
def layerNames : Script Strings := ids.mapM fun l => return (← layerAt l).name

def reportProblem {α : Type} (p : Topology.Problem) : Script α := do
  match p with
  | .cycle n =>
    let node ← nodeAt n
    let tensor ← symbolicAt (node.outputs.headD 0)
    throw (.runtime s!"The tensor {tensor.label} at layer \"{(← layerAt node.layer).name}\" is part of a cycle.")
  | .disconnected _ n before =>
    let names ← before.mapM fun b => return (← layerAt (← nodeAt b).layer).name
    throw (.runtime ("Graph disconnected: cannot obtain value for tensor [object Object] at layer " ++
      s!"\"{(← layerAt (← nodeAt n).layer).name}\". The following previous layers were accessed without " ++
      "issue: " ++ ",".intercalate names))

def requireNames (names : Strings) : Act := do
  for n in names do
    let count := (names.filter (· == n)).length
    if count != 1 then
      throw (.runtime (s!"The name \"{n}\" is used {count} times " ++
        "in the model. All layer names should be unique. Layer names: " ++ jsonText (.list (names.map .str))))
def memberOfCall (n : Nat) : Script (Nat × Nat) := do
  let layer := (← nodeAt n).layer
  return (layer,((← layerAt layer).inbound.idxOf? n).getD 0)

def inputLayersOf (given : Value) (inputs : Values) : Script Nats := do
  let layers ← inputs.mapM fun x => do
    let o := (← originOf x).getD ⟨none,none,none⟩
    requireAll (o.nodeIndex == some 0) "input layer has >1 nodes"
    requireAll (o.tensorIndex == some 0) "input layer has >1 tensors"
    return o.layer
  layers.zipIdx.mapM fun (l,i) => do
    let l := l.getD 0
    let className := (← layerAt l).className
    if className != "InputLayer" then
      let text := ",".intercalate ((asList given).map fun _ => "[object Object]")
      throw (.badType (s!"Input layers to a LayersModel must be InputLayer objects. Received inputs: {text}. " ++
        s!"Input {i} (0-based) originates from layer type {(← layerClassName l)}."))
    return l

def outputLayersOf (outputs : Values) : Script (List (Nat × Option Nat)) := do
  (← outputs.mapM originOf).mapM fun o => do
    match o with
    | some ⟨some l,n,_⟩ => return (l,n)
    | some _ => throw (.unreadable "null" "name")
    | none => throw (.noMember "name")
def dimsOfId (t : Nat) : Script Dims := return (← symbolicAt t).dims

def newNetwork (title className : String) (args : Value) : Script Nat := do
  let id ← newLayer title className (.record [])
  let given ← memberOf args "name"
  let name ← if given.isNil then nextName (className.toLower) else pure given.text
  modifyLayer id fun l => { l with name }
  let inputs := asList (args "inputs")
  let outputs := asList (args "outputs")
  let ids := symbolicIds inputs
  if ids.eraseDups.length != ids.length then
    let names ← ids.mapM fun i => return (← symbolicAt i).label
    badValue ("The list of inputs passed to the model is " ++
      "redundant. All inputs should only appear once. Found: " ++ ",".intercalate names)
  for x in outputs do let _ ← originOf x
  let inputLayers ← inputLayersOf (args "inputs") inputs
  let outputLayers ← outputLayersOf outputs
  let inputNames ← layerNames inputLayers
  let outputNames ← layerNames (outputLayers.map (·.1))
  let w ← get
  let roots := outputLayers.filterMap fun (l,n) => callOfOrigin w ⟨some l,n,none⟩
  match Topology.build (callsOf w) w.layerNodes.size ids roots with
  | .error p => reportProblem p
  | .ok g =>
    requireNames (← layerNames g.layers)
    let members ← g.calls.mapM memberOfCall
    let shapes ← inputLayers.mapM fun l => return (← layerAt l).batchInputShape.toDims
    let outs := symbolicIds outputs
    let network :=
      { inputs := ids, outputs := outs, entries := ids, exits := outs, layers := g.layers, nodesByDepth := g.callsByDepth,
        layersByDepth := g.layersByDepth, members, inputNames, outputNames, feedShapes := shapes }
    modifyLayer id fun l => { l with network := some network, inbound := [], outbound := [] }
    let _ ← newNode { layer := id, inputs := ids, outputs := outs, inputShapes := ← ids.mapM dimsOfId,
                      outputShapes := ← outs.mapM dimsOfId, own := true }
    modifyLayer id fun l => { l with built := true, refCount := some 1 }
    return id

/-! ## Layers behind inputs and outputs -/

def sourceLayers : Script (List (Nat × Nat × Nat)) := do
  ids.mapM fun t => do
    let s ← symbolicAt t
    return (s.layer.getD 0,s.nodeIndex.getD 0,s.tensorIndex.getD 0)
def isMember (layer index : Nat) : Bool := n.members.contains (layer,index)

/-! ## Shapes -/

def networkShape (form : Form) : Script Form := do
  let n ← networkAt id
  let shapes := form.list
  let inputs ← sourceLayers n.entries
  if shapes.length != inputs.length then
    badValue s!"Invalid inputShape argument {form.text}: model has {inputs.length} tensor inputs."
  let start := (inputs.zip shapes).map fun ((l,_,_),d) => ((l,0,0),d)
  let found ← if n.nodesByDepth.length > 1 then
      (n.nodesByDepth.flatMap (·.2)).foldlM (fun (found : List ((Nat × Nat × Nat) × Dims)) c => do
        let node ← nodeAt c
        if inputs.any (·.1 == node.layer) then return found
        let ins := node.origins.map fun o =>
          (found.lookup (o.layer.getD 0,o.nodeIndex.getD 0,o.tensorIndex.getD 0)).getD []
        let outs := (← layerCall node.layer "computeOutputShape" [formValue (.ofList ins)]).toForm.list
        let (_,index) ← memberOfCall c
        return (outs.zipIdx.map fun (d,j) => ((node.layer,index,j),d)) ++ found) start
    else pure start
  let outs ← (← sourceLayers n.exits).mapM fun key => do (found.lookup key).getDM (throw ⟨.assertion,""⟩)
  return .ofList outs

/-! ## Masks -/

def networkMasks (inputs masks : Values) : Reply := do
  let n ← networkAt id
  let start := n.inputs.zipIdx.map fun (t,i) => (t,inputs i,masks i)
  let final ← (n.nodesByDepth.flatMap (·.2)).foldlM (fun (table : List (Nat × Value × Value)) c => do
    let node ← nodeAt c
    let data := node.inputs.filterMap (table.lookup ·)
    if data.length != node.inputs.length then return table
    let args ← node.callArgs.getDM (newCallArgs [])
    let xs := data.map (·.1)
    let ms := data.map (·.2)
    let x := oneOrList xs
    let m := oneOrList ms
    if (← callArg args "mask").isNil then putCallArg args "mask" m
    let outs := asList (← layerCall node.layer "call" [x,callArgsValue args])
    let outMasks := asList (← layerCall node.layer "computeMask" [x,m])
    if (← setting node.layer "activityRegularizer").truthy then
      unsupported ("LayersModel invocation with concrete Tensor value(s) in the " ++
        "presence of activity regularizer(s) is not supported yet.")
    return (node.outputs.zipIdx.map fun (t,i) => (t,outs i,outMasks i)) ++ table)
    start
  return .list (← n.outputs.mapM fun t => do
    match final.lookup t with
    | some (_,m) => return m
    | none =>
      let s ← symbolicAt t
      throw ⟨.assertion,s!"Could not compute output {s.label} : {s.uid}"⟩)

/-! ## Configurations -/

def callNumbers : Script (List ((Nat × Nat) × Nat)) := do
  let n ← networkAt id
  (← layersOf id).flatMapM fun l => do
    let layer ← layerAt l
    let first := if layer.network.isSome then 1 else 0
    let kept := (range layer.inbound.length).filter (isMember n l ·)
    return kept.zipIdx.map fun (i,k) => ((l,i),first + k)

def writableArgs (args : Option Nat) : Reply := do
  let some a := args | return .record []
  let fields := (← get).callArgs.getD a []
  let holds v := (asList v).any isSymbolic
  return .record (if fields.any (holds ·.2) then [] else fields)

def inboundConfig (id layer : Nat) (numbers : List ((Nat × Nat) × Nat)) : Reply := do
  let n ← networkAt id
  let l ← layerAt layer
  let calls := l.inbound.zipIdx.filter fun (_,i) => isMember n layer i
  let nodes ← calls.mapM fun (c,_) => nodeAt c
  .list <$> (nodes.filter fun node => !node.origins.isEmpty).mapM fun node => do
    let kwargs ← writableArgs node.callArgs
    .list <$> node.origins.mapM fun o => do
      let source := o.layer.getD 0
      let index := (numbers.lookup (source,o.nodeIndex.getD 0)).getD 0
      return .list [.str (← layerAt source).name,index,o.tensorIndex.getD 0,kwargs]

def endsConfig (ends : Nats) (numbers : List ((Nat × Nat) × Nat)) : Reply := do
  .list <$> ((← sourceLayers ends).filter fun (l,i,_) => isMember n l i).mapM fun (l,i,t) => do
    return .list [.str (← layerAt l).name,(numbers.lookup (l,i)).getD 0,t]

def networkConfig : Script Fields := do
  let n ← networkAt id
  let numbers ← callNumbers id
  let layers ← (← layersOf id).mapM fun l => do
    let dict ← layerConfig l
    return record [("name",(← layerAt l).name),("className",dict "className"),
      ("config",dict "config"),("inboundNodes",← inboundConfig id l numbers)]
  return [("name",(← layerAt id).name),("layers",.list layers),
    ("inputLayers",← endsConfig n n.entries numbers),("outputLayers",← endsConfig n n.exits numbers)]

def inboundOf : Inbound := ⟨(v.items 0).text,natOr (v.items 1) 0,natOr (v.items 2) 0⟩

variable (created : Named Nat)
def symbolicOfInbound (i : Inbound) : Reply := do
  let layer := (created.lookup i.layer).getD 0
  let some n := (← layerAt layer).inbound[i.call]? | throw (.noMember "outputTensors")
  match (← nodeAt n).outputs[i.output]? with
  | some t => return symbolicValue t
  | none => return .absent

def neededList (what : String) : Script Values := do
  if v.isNil then throw (.unreadable v.text what)
  return v.items

def assembleLayers (config : Value) (zeroInit : Bool) : Script (Named Nat) := do
  let entries ← neededList (config "layers") "length"
  let customs := (config "customObjects").orElse (.record [])
  let made ← entries.mapM fun e => do
    let key := (← memberOf e "name").text
    let .object .layer id ← deserializeLayer e customs false | notAFunction "layer.setFastWeightInitDuringBuild"
    let _ ← layerCall id "setZeroInit" [zeroInit]
    let calls ← (← neededList (e "inboundNodes") "forEach").mapM fun c => do
      match c with
      | .list inputs =>
        let last := inputs.getLast?.getD .absent
        return (⟨inputs.map inboundOf,(last.items 3).orElse (.record [])⟩ : PlannedCall Value)
      | v => badValue ("Corrupted configuration, expected array for nodeData: " ++ v.text)
    return (key,id,calls)
  let created := (made.map fun (k,id,_) => (k,id)).reverse
  let names ← created.mapM fun (k,id) => return (k,(← layerAt id).name)
  let pending ← made.foldlM (fun (p : Pending Value) (_,id,calls) => do
    let name := (← layerAt id).name
    return p ++ calls.map (name,·)) []
  let assembler : Assembler Script Value :=
    { isCreated := fun k => (created.lookup k).isSome
      nameOf := fun k => (names.lookup k).getD k
      callCount := fun k => return (← layerAt ((created.lookup k).getD 0)).inbound.length
      apply := fun k inputs kwargs => do
        let xs ← inputs.mapM (symbolicOfInbound created)
        let _ ← layerCall ((created.lookup k).getD 0) "apply" [oneOrList xs,kwargs] }
  match ← assembler.rounds (made.map (·.1)) (.pow 2 62) pending with
  | some () => return created
  | none => throw ⟨.exhausted,"some calls of layers can never be made"⟩

def endsOf (ends : Value) : Script Values := do
  (← neededList ends "length").mapM fun e => do
    let i := inboundOf e
    requireAll (created.lookup i.layer).isSome ""
    symbolicOfInbound created i
def networkFromConfig (className : String) (config _ : Value) (zeroInit : Bool) : Script Nat := do
  let created ← assembleLayers config zeroInit
  let inputs ← endsOf created (config "inputLayers")
  let outputs ← endsOf created (config "outputLayers")
  createLayer className (.record [("inputs",.list inputs),("outputs",.list outputs),("name",config "name")])

/-! ## Weights -/

def networkTrainables : Script Nats := do
  if !(← showsTrainable id).truthy then return []
  (← layersOf id).flatMapM trainablesOf
def networkOthers : Script Nats := do
  let layers ← layersOf id
  let others ← layers.flatMapM othersOf
  if (← showsTrainable id).truthy then return others
  return (← layers.flatMapM trainablesOf) ++ others
def loadNamedWeights (values : Fields) (strict : Bool) : Act := do
  let targets ← (← (← layersOf id).flatMapM weightsOf).mapM fun v => return ((← variableAt v).originalName,v)
  loadInto targets (fun v x => do writeVariable v (← asTensor x "shape")) values strict

/-! ## Disposal -/

def dependentLayers (w : World) : Nat → Nat → Nats
  | 0, id => [id]
  | bound + 1, id => id :: ((w.layers.getD id default).parts.flatMap (dependentLayers w bound))
def lifeOf (needed : Nats) (id : Nat) : Script Life := do
  let l ← layerAt id
  let kind := if l.className == "InputLayer" then .input
    else if l.network.isSome then .model l.parts else .plain
  let weights ← if needed.contains id && l.network.isNone then weightsOf id else pure []
  return { name := l.name, kind, built := l.built, uses := l.refCount, weights }

def disposeOptimizerOf : Script Nat := do
  let some t := (← layerAt id).training | return 0
  if t.ownsOptimizer then
    let before := (← get).engine.numTensors
    let _ ← optimizerMethod t.optimizer "dispose" []
    return (before - (← get).engine.numTensors).toNat
  return 0

def disposeLayer : Reply := do
  let w ← get
  let needed := (dependentLayers w w.layers.size id).eraseDups
  let lives ← (range w.layers.size).mapM (lifeOf needed)
  let finish s : Script Nat := do
    for (l,i) in s.layers.toList.zipIdx do modifyLayer i fun old => { old with refCount := l.uses }
    s.freed.forM disposeVariable
    let gone := needed.filter fun i =>
      ((s.layers.getD i default).uses == some 0) && ((w.layers.getD i default).refCount != some 0)
    return (← gone.mapM disposeOptimizerOf).foldl (· + ·) 0
  match (Lives.dispose (w.layers.size + 1) id).run { layers := lives.toArray } with
  | .ok d s =>
    let more ← finish s
    return .record [("refCountAfterDispose",ofOption .ofInt d.uses),("numDisposedVariables",d.freed + more)]
  | .error f s =>
    let _ ← finish s
    throw f

/-! ## Methods -/

def updatedConfig : Reply := do
  let dict ← layerConfig id
  return .record (dict.fields ++ [("kerasVersion",.str "tfjs-layers 1.2.9"),("backend",.str "TensorFlow.js")])

def getLayerOf (name index : Value) : Reply := do
  let layers ← layersOf id
  if index.isPresent then
    let i := index.toNumber
    if .ofNat layers.length <= i then
      badValue ("Was asked to retrieve layer at index " ++ index.text ++ ", but model only " ++
        s!"has {layers.length} layer(s).")
    return Value.list (layers.map layerValue) index.text
  if name.isNil then badValue "Provide either a layer name or layer index"
  let some l ← layers.findM? fun l => return name.str? == some (← layerAt l).name
    | badValue ("No such layer: " ++ name.text)
  return layerValue l

def networkLosses : Reply := tidied do
  let n ← networkAt id
  return ← (← layersOf id).flatMapM fun l => do
    let calls := (range (← layerAt l).inbound.length).filter (isMember n l ·)
    calls.flatMapM fun _ => return (← layerCall l "calculateLosses" []).items

def networkMethods : Named (Nat → Handler) :=
  [ ("trainableWeights",fun id _ => return variablesValue (← networkTrainables id)),
    ("nonTrainableWeights",fun id _ => return variablesValue (← networkOthers id)),
    ("setTrainable",fun id a => silent do
      let value := (a 0).truthy
      for l in ← layersOf id do (← layerAt l).trainableWeights.forM (setTrainable · value)
      modifyLayer id fun l => { l with trainable := value }),
    ("loadWeights",fun id a => silent do
      let strict := (a 1).isAbsent || (a 1).truthy
      loadNamedWeights id (a 0).fields strict),
    ("toJSON",fun id a => do
      let config := snakeConfig (← updatedConfig id) ""
      if (a 1).isAbsent || (a 1).truthy then return (jsonText config) else return config),
    ("getLayer",fun id a => getLayerOf id (a 0) (a 1)),
    ("calculateLosses",fun id _ => networkLosses id),
    ("stateful",fun id _ => return (← (← layersOf id).anyM isStateful)),
    ("resetStates",fun id _ => tidied <| silent do
      for l in ← layersOf id do
        if ← isStateful l then let _ ← layerCall l "resetStates" []) ]

def feedsFor (inputs : Nats) (values : Values) : Script (Feeds Tensor) :=
  inputs.zipIdx.foldlM (fun f (t,i) => enterFeed f t (values i) none) {}
def runModel (inputs : Values) (kwargs : Value) : Script Values := do
  executeGraph n.outputs (← feedsFor n.inputs inputs) kwargs
def callNetwork (inputs : Value) (args : Nat) : Reply := tidied do
  runModel (← networkAt id) (asList inputs) (callArgsValue args)
def maskNetwork (inputs mask : Value) : Reply := tidied do
  let xs := asList inputs
  let masks := if mask.isNil then xs.map fun _ => .null else asList mask
  networkMasks id xs masks
end TensorKit.Script
