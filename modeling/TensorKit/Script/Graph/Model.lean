import TensorKit.Script.Graph.Operations

/-! # Tensor arrays and contexts that a program holds -/
namespace TensorKit.Script
open Engine TensorKit.Graph List
variable (id : Nat) (a : TensorArray) (name : String) (args : Values)
def addArray : M Nat := modifyGet fun w => (w.tensorArrays.size,{ w with tensorArrays := w.tensorArrays.push a })
def arrayAt : M TensorArray := do (← get).tensorArrays[id]?.getDM (throw (.noMember "size"))
def setArray : M Unit := modify fun w => { w with tensorArrays := w.tensorArrays.setIfInBounds id a }

def newArray : Script Value := do
  let shape := args 3
  let id ← addArray {
    name := (args 0).text
    dtype := (args 1).text
    maxSize := intOr (args 2) 0
    elementShape := if shape.isPresent then some shape.ints else none
    identicalShapes := (args 4).truthy
    dynamicSize := (args 5).truthy
    clearAfterRead := (args 6).truthy }
  return .object .tensorArray id

variable (is : Ints) (dtype : Value) (t : Tensor)
def requireType (use : String) : Tried Unit :=
  if dtype.truthy && dtype.text != a.dtype then
    fail s!"TensorArray dtype is {a.dtype} but {use} requested dtype {dtype.text}"
  else .ok ()
def requireTensorType : Tried Unit :=
  if t.dtype.name != a.dtype then fail s!"TensorArray dtype is {a.dtype} but tensor has dtype {t.dtype.name}"
  else .ok ()
def emptyOf : Reply := core "tensor" [.list [],.ofInts (0 :: a.elementShape.getD [])]
def readArray (i : Int) : Script Tensor := do
  let (t,a) ← (← arrayAt id).readAt i
  setArray id a
  return t
def readArrayMany : Script Tensors := do
  let (a,r) := (← arrayAt id).readMany is
  setArray id a
  r
def writeArray (i : Int) (t : Tensor) : Act := do
  let a ← arrayAt id
  setArray id (← a.writeAt i t)
def writeArrayMany (ts : Tensors) : Act := do
  let (a,fault) := (← arrayAt id).writeMany is ts
  setArray id a
  let some f := fault | return
  throw f

def gatherArray (indices dtype : Value) : Reply := do
  let a ← arrayAt id
  requireType a dtype "gather"
  let is := if indices.truthy then indices.ints else (range a.size).map .ofNat
  if is.isEmpty then emptyOf a
  else
    let ts ← readArrayMany id is
    a.requireShape ((ts.head?.map (·.shape)).getD []) "TensorArray shape mismatch: "
    core "stack" [.list (ts.map .tensor),.num 0]

def concatArray : Reply := do
  let a ← arrayAt id
  requireType a dtype "concat"
  if a.size == 0 then emptyOf a
  else
    let ts ← readArrayMany id ((range a.size).map .ofNat)
    let shape := (ts.head?.map (·.shape)).getD []
    let own := TensorArray.shapeText a.elementShape
    let first := intsText (shape.map .ofNat)
    a.requireShape shape s!"TensorArray shape mismatch: tensor array shape ({own}) vs first tensor shape ({first})"
    core "concat" [.list (ts.map .tensor),.num 0]

def scatterArray : Act := do
  let a ← arrayAt id
  requireTensorType a t
  let rows := t.shape.head?.elim "undefined" toString
  if toString is.length != rows then fail s!"Expected len(indices) == tensor.shape[0], but saw: {is.length} vs. {rows}"
  if let i :: rest := is then
    let most := rest.foldl max i
    if !a.dynamicSize && most ≥ a.maxSize then fail s!"Max index must be < array size ({most}  vs. {a.maxSize})"
  writeArrayMany id is (← core "unstack" [t,0]).tensors

def splitArray (lengths : Ints) (t : Tensor) : Act := do
  let a ← arrayAt id
  requireTensorType a t
  let total := lengths.foldl (· + ·) 0
  if t.shape.head?.map .ofNat != some total then
    fail ("Expected sum of lengths to be equal to\n          tensor.shape[0], but sum of lengths is\n  " ++
      s!"      {total}, and tensor's shape is: {intsText (t.shape.map Int.ofNat)}")
  if !a.dynamicSize && (.ofNat lengths.length) != a.maxSize then
    fail (s!"TensorArray's size is not equal to the size of lengths ({a.maxSize} vs. " ++
      s!"{lengths.length}), and the TensorArray is not marked as dynamically resizeable")
  let perRow := if total == 0 then 0 else .ofNat t.size / total
  let pieces ← scopedWith Value.tensors unnamed do
    let flat ← reshapeTo t [1,.ofInt total,.ofInt perRow]
    let (pieces,_) ← lengths.foldlM (fun (acc,start) n => do
      let cut ← core "slice" [flat,.ofInts [0,start,0],.ofInts [1,n,perRow]]
      match cut with
      | .tensor c => return (acc ++ [← reshapeTo c ((a.elementShape.getD []).map .ofInt)],start + n)
      | v => return (acc ++ [v],start + n)) ([],0)
    return .list pieces
  writeArrayMany id ((range lengths.length).map .ofNat) pieces.tensors

def closeArray : Act := do
  let a ← arrayAt id
  for slot in a.slots do
    let some s := slot | pure ()
    dispose s.tensor
  setArray id { a with slots := [], closed := true }

def tensorOr (v : Value) (reading : String) : Script Tensor := v.tensor?.getDM (throw (.noMember reading))
def arrayMethod : Reply := do
  match name with
  | "size" => return (← arrayAt id).size
  | "read" => readArray id (intOr (args 0) 0)
  | "readMany" => return .list ((← readArrayMany id (args 0).ints).map .tensor)
  | "write" => silent do writeArray id (intOr (args 0) 0) (← tensorOr (args 1) "dtype")
  | "writeMany" => silent <| writeArrayMany id (args 0).ints (args 1).tensors
  | "gather" => gatherArray id (args 0) (args 1)
  | "concat" => concatArray id (args 0)
  | "scatter" => silent do scatterArray id (args 0).ints (← tensorOr (args 1) "dtype")
  | "split" => silent do splitArray id (args 0).ints (← tensorOr (args 1) "dtype")
  | "clearAndClose" => silent <| closeArray id
  | _ => notAFunction name

def arrayField : Reply := do
  let a ← arrayAt id
  return Value.record [("id",id),("name",a.name),("dtype",a.dtype),("maxSize",.ofInt a.maxSize),
    ("elementShape",a.elementShape.elim .absent .ofInts),("identicalElementShapes",a.identicalShapes),
    ("dynamicSize",a.dynamicSize),("clearAfterRead",a.clearAfterRead),("closed",a.closed)] name

def newContext : M Value :=
  modifyGet fun w => (.object .graphContext w.contexts.size,
    { w with contexts := w.contexts.push ⟨.start,args 0,args 1⟩ })
def contextAt : M HeldContext := do (← get).contexts[id]?.getDM (throw (.noMember "currentContext"))
def setContext (c : HeldContext) : M Unit := modify fun w => { w with contexts := w.contexts.setIfInBounds id c }
def frameRecord (f : FrameInfo) : Value :=
  .record [("id",f.id),("frameName",f.frameName),("iterationId",f.iterationId)]
variable (v : Value)
def frameOf : FrameInfo := ⟨natOr (v "id") 0,(v "frameName").text,natOr (v "iterationId") 0⟩

def contextMethod : Reply := do
  let held ← contextAt id
  match name with
  | "enterFrame" => silent <| setContext id { held with context := held.context.enterFrame (args 0).text }
  | "exitFrame" => silent do setContext id { held with context := ← held.context.exitFrame }
  | "nextIteration" => silent do setContext id { held with context := ← held.context.nextIteration }
  | "getWeight" => return held.weights (args 0).text
  | "addTensorArray" => do
    let .object .tensorArray a := args 0 | throw (.noMember "id")
    silent <| setContext id { held with arrays := .record (held.arrays.fields.put (toString a) (args 0)) }
  | "getTensorArray" => return held.arrays (args 0).text
  | _ => notAFunction name

def contextField : Reply := do
  let held ← contextAt id
  return Value.record [("currentContext",held.context.frames.map frameRecord),("currentContextId",held.context.current),
    ("currentContextIds",.ofStrings held.context.ids),("weightMap",held.weights),("tensorArrayMap",held.arrays)] name

def putContextField : Act := do
  if name == "currentContext" then
    let held ← contextAt id
    setContext id { held with context := held.context.goTo (v.items.map frameOf) }

/-! # Models that run graphs

Runs without control flow leave no other tensors behind than their outputs.
-/

/-! ### Nodes from their description -/

def attrOf (p : OpTable.AttrParam) (attrs : Value) : Value :=
  let default := if p.kind == .number && !p.default.truthy then .num 0 else p.default
  let v := p.kind.read attrs p.key default
  match v, p.oldKey with
  | .absent, some key => p.kind.read attrs key p.default
  | v, _ => v

def nodeOf (isCustom : String → Bool) (v : Value) : GraphNode :=
  let op := (v "op").text
  let attrs := if (v "attr").isPresent then v "attr" else .record []
  let inputNames := ((v "input").items.map Value.text).map fun s => if s.startsWith "^" then (s.drop 1).toString else s
  let node := { name := (v "name").text, op, category := none, inputNames, raw := attrs }
  if isCustom op then { node with category := some "custom" }
  else
    match OpTable.knownOps.find? (·.op == op) with
    | none => node
    | some d => { node with
        category := some d.category
        inputParams := d.inputs
        attrParams := d.attrs.map fun p => (p.name,p.kind.name,attrOf p attrs) }

def readGraph : Script (Graph Value) := do
  let custom := (← get).customOps
  let isCustom op := (custom.lookup op).isSome
  let .ok g := Graph.ofNodes ((v "node").items.map (nodeOf isCustom)) | throw (.noMember "children")
  return g

/-! ### Operations that need more than their parameters -/

def cloned : Script (Option Tensor) := return (← cloneOf v).tensor?
def one : Script (Option Tensor) := return (← core "scalar" [.num 1]).tensor?

variable (id : Nat) (g : Graph Value) (n : GraphNode) (r : Results Tensor) (c : Context)
def controlRun (p : Params) : Script (List (Option Tensor) × Context) := do
  let arrayId := return natOr (← p "tensorArrayId") 0
  match n.op with
  | "LoopCond" => return ([← cloned (← p "pred")],c)
  | "Switch" => do
    let pred ← tensorOr (← p "pred") "data"
    let data ← p "data"
    let values ← (do
      requireLive pred
      tensorValues pred : Eng (Array Value))
    let d ← cloned data
    return (if (values.getD 0 .absent).truthy then [none,d] else [d,none],c)
  | "Merge" => do
    let some t := n.inputNames.findSome? fun i => getTensor i r c | return ([none],c)
    return ([← cloned t],c)
  | "Enter" => do
    let frame ← p "frameName"
    return ([← cloned (← p "tensor")],c.enterFrame frame.text)
  | "Exit" | "NextIteration" => do
    let t ← p "tensor"
    let c ← if n.op == "Exit" then c.exitFrame else c.nextIteration
    return ([← cloned t],c)
  | "TensorArrayV3" => do
    let made ← ["name","dtype","size","elementShape","identicalElementShapes","dynamicSize","clearAfterRead"].mapM p
    let .object _ id ← newArray made | return ([],c)
    return ([(← core "scalar" [id]).tensor?,← one],c)
  | "TensorArrayWriteV3" => do
    writeArray (← arrayId) (intOr (← p "index") 0) (← tensorOr (← p "tensor") "dtype")
    return ([← one],c)
  | "TensorArrayReadV3" => return ([some (← readArray (← arrayId) (intOr (← p "index") 0))],c)
  | "TensorArrayGatherV3" => return ([(← gatherArray (← arrayId) (← p "indices") (← p "dtype")).tensor?],c)
  | "TensorArrayScatterV3" => do
    scatterArray (← arrayId) (← p "indices").ints (← tensorOr (← p "tensor") "dtype")
    return ([← one],c)
  | "TensorArrayConcatV3" => return ([(← concatArray (← arrayId) (← p "dtype")).tensor?],c)
  | "TensorArraySplitV3" => do
    let id ← arrayId
    let t ← tensorOr (← p "tensor") "dtype"
    splitArray id (← p "lengths").ints t
    return ([← one],c)
  | "TensorArraySizeV3" => do
    let a ← arrayAt (← arrayId)
    return ([(← core "scalar" [a.size,"int32"]).tensor?],c)
  | "TensorArrayCloseV3" => do
    closeArray (← arrayId)
    return ([],c)
  | op => throw (.badType s!"Node type {op} is not implemented")

def customAttr (attrs : Value) (r : Results Tensor) (c : Context) (key : String) : Value :=
  let v := attrs key
  let single := [("i",Attr.number),("f",Attr.number),("s",(Attr.string · · · false)),("b",Attr.bool),
    ("shape",Attr.shape),("type",Attr.dtype)]
  let many := [("i",Attr.numbers),("f",Attr.numbers),("s",(Attr.strings · · · false)),("shape",Attr.shapes),
    ("b",Attr.bools),("type",Attr.dtypes)]
  if (v "tensor").isPresent then heldAt r c key
  else match (single.find? fun (k,_) => (v k).isPresent).or (many.find? fun (k,_) => (v "list" k).isPresent) with
    | some (_,f) => f attrs key .absent
    | none => .absent

def customView : Value :=
  .item "NodeValueImpl"
    [("inputs",n.inputNames.map (heldAt r c)),
      ("attrs",.record (n.raw.fields.map fun (k,_) => (k,customAttr n.raw r c k)))]
def resultsOf : List (Option Tensor) := match v with
  | .list xs => xs.map Value.tensor?
  | v => [v.tensor?]
def laterRank (op : String) : Nat := match op with
  | "Switch" => 1
  | "Where" => 2
  | "NonMaxSuppressionV2" | "NonMaxSuppressionV3" | "ListDiff" => 3
  | _ => 0

def runNode : Script (Given Tensor × Context) := do
  let p : Params := paramValue r c n
  let unimplemented {α : Type} : Script α := throw (.badType s!"Node type {n.op} is not implemented")
  match n.category with
  | none =>
    throw (.badType (s!"Unknown op '{n.op}'. File an issue at https://github.com/tensorflow/tfjs/issues so we can " ++
      "add it, or register a custom execution with tf.registerOp()"))
  | some "control" => do
    let (ts,c) ← controlRun n r c p
    return (.later (laterRank n.op) ts,c)
  | some "dynamic" => do
    let some run := dynamicRuns.lookup n.op | unimplemented
    return (.later (laterRank n.op) (resultsOf (← run p).awaited),c)
  | some "custom" => do
    let some f := (← get).customOps.lookup n.op | throw (.badType s!"Custom op {n.op} is not registered.")
    match ← call f [customView n r c] with
    | .promise v => return (.later 0 (resultsOf v),c)
    | v => return (.now (resultsOf v),c)
  | some _ => do
    match n.op with
    | "Const" => return (.now ((r.lookup n.name).getD [none]),c)
    | "Placeholder" => return (.now [getTensor n.name r c],c)
    | "PlaceholderWithDefault" => do
      let some t := getTensor n.name r c | return (.now [(← p "default").tensor?],c)
      return (.now [some t],c)
    | op =>
      let some run := plainRuns.lookup op | unimplemented
      return (.now (resultsOf (← run p)),c)

variable (name : String) (inputs outputs : Value) (m : GraphModel)
def machine : Machine Script Value Tensor where
  key t := t.id
  run := runNode
  dispose t := dispose t
  release t := do if !(← isDisposed t) then dispose t
  isConstantEnter n := (attrValue n "isConstant").truthy

/-! ### Models -/

def modelAt : M GraphModel := do (← get).graphModels[id]?.getDM (throw (.noMember "executor"))
def setModel : M Unit := modify fun w => { w with graphModels := w.graphModels.setIfInBounds id m }
def newGraphModel (source options : Value) : Script Nat :=
  modifyGet fun w => (w.graphModels.size,{ w with graphModels := w.graphModels.push { source, options } })
def unreachable (url : String) : Fault :=
  if url.startsWith "http://" || url.startsWith "https://" then .badType "fetch failed"
  else .badType ("Failed to parse URL from " ++ url)

def artifactsOf (source : Value) : Reply := do
  match source with
  | .item "PassthroughLoader" fs => return .record fs
  | v =>
    if (v "load").isFunction then return (← call (v "load") []).awaited
    if v matches .str "" then fail "URL path for browserHTTPRequest must not be null, undefined or empty."
    throw (unreachable v.text)

def loadModel : Act := do
  let m ← modelAt id
  let artifacts ← artifactsOf m.source
  let topology := artifacts "modelTopology"
  let versions := topology "versions"
  if versions.isNil then throw (.noMember "producer")
  let version := (versions "producer").text ++ "." ++ (versions "minConsumer").text
  let weights ← decodeWeights (bytesArg (artifacts "weightData")) ((artifacts "weightSpecs").items.map specOf)
  let graph ← readGraph topology
  setModel id { m with version, weights, graph := some graph, compiled := [] }

def loadedGraph : Script (Graph Value) := m.graph.getDM (throw (.noMember "execute"))

def fedTensors (v : Value) : Script Fields := do
  let byPlace (ts : Values) := do
    if ts.length != g.placeholders.length then
      fail (s!"Input tensor count mismatch,the graph model has {g.placeholders.length} placeholders, while there " ++
        s!"are {ts.length} input tensors.")
    return Value.orderFields (g.placeholders.zip ts)
  match v with
  | .tensor _ => byPlace [v]
  | .list ts => byPlace ts
  | v => return v.fields

def outputNames (v : Value) : Strings := match v with
  | .list xs => xs.map Value.text
  | v => if v.truthy then [v.text] else g.outputs

def checkFed (fed : Fields) : Act := do
  let unknown := fed.filter fun (n,_) => (find? g n).isNone
  if !unknown.isEmpty then
    fail
      s!"The dict provided in model.execute(dict) has keys: [{commas (unknown.map (·.1))}] that are not part of graph"
  for (name,v) in fed do
    let some n := find? g name | pure ()
    let t ← tensorOr v "shape"
    let shape := attrValue n "shape"
    if shape.truthy then
      let dims := shape.ints
      let agrees := dims.length == t.shape.length && (dims.zip t.shape).all fun (d,s) => d == -1 || d == s
      if !agrees then
        fail (s!"The shape of dict['{n.name}'] provided in model.execute(dict) must be [{shape.text}], but was " ++
          s!"[{intsText (t.shape.map Int.ofNat)}]")
    let dtype := attrValue n "dtype"
    if dtype.truthy && dtype.text != t.dtype.name then
      fail (s!"The dtype of dict['{n.name}'] provided in model.execute(dict) must be {dtype.text}, but was " ++
        s!"{t.dtype.name}")

def checkOutputs (outputs : Strings) : Act := do
  for name in outputs do
    if (find? g (Graph.nodeOf name)).isNone then fail s!"The output '{name}' is not found in the graph"
def oneOrAll (vs : List (Option Tensor)) : Value := match vs.map fun t => t.elim .absent .tensor with
  | [v] => v
  | [] => .absent
  | vs => .list vs
def heldResults (ts : Named Tensor) : Results Tensor := ts.map fun (n,t) => (n,[some t])

/-- A model with its graph, what is fed to it and the names of outputs, checked against each other. -/
def prepared : Script (GraphModel × Graph Value × Results Tensor × Strings) := do
  let m ← modelAt id
  let g ← loadedGraph m
  let fed ← fedTensors g inputs
  let outputs := outputNames g outputs
  checkFed g fed
  checkOutputs g outputs
  return (m,g,fed.map fun (n,v) => (n,[v.tensor?]),outputs)

def executeModel : Reply := do
  let (m,g,fed,outputs) ← prepared id inputs outputs
  let (run,compiled) := execute machine g (heldResults m.weights) fed outputs m.compiled
  setModel id { m with compiled }
  let run ← run
  return oneOrAll (← scopedWith (·.flatMap Option.toList) unnamed run)
def flowSteps : Nat := 1000000
def executeModelFlow : Reply := do
  let (m,g,fed,outputs) ← prepared id inputs outputs
  return oneOrAll (← executeFlow machine g flowSteps (heldResults m.weights) fed outputs)
def tensorInfo : Value := match find? g name with
  | some n => .record [("name",name),("shape",attrValue n "shape"),("dtype",attrValue n "dtype")]
  | none => .absent

def modelMethod (args : Values) : Reply := do
  match name with
  | "load" => do
    loadModel id
    return .promise true
  | "predict" => do
    let g ← loadedGraph (← modelAt id)
    executeModel id (args 0) (.ofStrings g.outputs)
  | "execute" => executeModel id (args 0) (args 1)
  | "executeAsync" => return .promise (← executeModelFlow id (args 0) (args 1))
  | "dispose" => silent do
    let m ← modelAt id
    let _ ← loadedGraph m
    for (_,t) in m.weights do dispose t
  | _ => notAFunction name

def modelField : Reply := do
  let m ← modelAt id
  match name with
  | "modelVersion" => return m.version
  | "inputNodes" => return .ofStrings (← loadedGraph m).placeholders
  | "outputNodes" => return .ofStrings (← loadedGraph m).outputs
  | "inputs" | "outputs" => do
    let g ← loadedGraph m
    return (if name == "inputs" then g.placeholders else g.outputs).map (tensorInfo g)
  | "weights" => return .record (m.weights.map fun (n,t) => (n,.list [t]))
  | _ => return .absent

/-! ### Graphs as values -/

def nodeValue (graph : Nat) (name : String) : Value := .item "GraphNode" [("graph",graph),("name",name)]
def graphValue : Value :=
  let nodes (names : Strings) := .list (names.map (nodeValue id))
  .record [("nodes",.record (Value.orderFields (g.nodes.map fun n => (n.name,nodeValue id n.name)))),
    ("inputs",nodes g.inputs),("outputs",nodes g.outputs),("weights",nodes g.weights),
    ("placeholders",nodes g.placeholders)]
def paramRecord (p : InputParam) : Value :=
  .record [("type",p.typeName),("inputIndexStart",.ofInt p.start),("inputIndexEnd",p.stop.elim .absent .ofInt)]

def nodeFields (held : Fields) : Script Fields := do
  let id := natOr (Value.record held "graph") 0
  let some n := (← get).graphs[id]?.bind (find? · (Value.record held "name").text) | return []
  let links (names : Strings) := .list (names.map (nodeValue id))
  return [("name",n.name),("op",n.op),
    ("category",n.category.elim .absent .str),("inputNames",.ofStrings n.inputNames),
    ("inputs",links n.inputs),("children",links n.children),
    ("inputParams",.record (n.inputParams.map fun p => (p.name,paramRecord p))),
    ("attrParams",.record (n.attrParams.map fun (k,t,v) => (k,.record [("value",v),("type",t)]))),
    ("rawAttrs",n.raw)]

def needsRecord : Reply := do
  let inputs := args 0
  let outputs := args 1
  let weights := args 2
  let names := outputs.items.map fun v => (v "name").text
  let id := natOr (outputs.items 0 "graph") 0
  let some g := (← get).graphs[id]? | return .absent
  let isGiven n := (weights n).isPresent || (inputs n).isPresent
  let dynamicNode := dynamicNode? g isGiven names
  return .record [("inputs",inputs),("outputs",outputs),
    ("usedNodes",.item "Set" ((visits g isGiven names).eraseDups.map fun u => (u,.absent))),
    ("missingInputs",.ofStrings (missing g isGiven names)),
    ("dynamicNode",dynamicNode.elim .null (nodeValue id ·.name)),
    ("syncInputs",dynamicNode.elim .null fun d => .ofStrings (syncInputs g d isGiven names))]

def orderedNodes : Reply := do
  let names key := (args 2 key).fields.map (·.1)
  let id := natOr (args 2 "outputs" |>.items 0 "graph") 0
  let some g := (← get).graphs[id]? | return .absent
  let order := topologicalOrder g (names "usedNodes") (names "inputs")
  return .list ((order.filter fun n => !(args 1 n).truthy).map (nodeValue id))

def graphTable : Handlers :=
  [ ("loadGraphModel",on2 fun source options => do
      if source.isNil then
        fail "modelUrl in loadGraphModel() cannot be null. Please provide a url or an IOHandler that loads the model"
      let source := match source with
        | .str s =>
          if (options "fromTFHub").truthy then
            ((if s.endsWith "/" then s else s ++ "/") ++ "model.json?tfjs-format=file")
          else source
        | v => v
      let id ← newGraphModel source options
      loadModel id
      return .promise (.object .graphModel id)),
    ("registerOp",on2 fun x y => do
      let name := x.text
      silent <| modify fun w => { w with customOps := (name,y) :: w.customOps.filter (·.1 != name) }),
    ("deregisterOp",on1 fun x => do
      silent <| modify fun w => { w with customOps := w.customOps.filter (·.1 != x.text) }),
    ("graph.registeredOp",on1 fun x => do
      let name := x.text
      let some f := (← get).customOps.lookup name | return .absent
      return .record [("tfOpName",.str name),("category",.str "custom"),("inputs",.list []),("attrs",.list []),
        ("customExecutor",f)]),
    ("graph.read",on1 fun x => do
      let g ← readGraph x
      let id ← (modifyGet fun w => (w.graphs.size,{ w with graphs := w.graphs.push g }) : M Nat)
      return graphValue id g),
    ("graph.needs",needsRecord),
    ("getNodesInTopologicalOrder",orderedNodes),
    fn1 "graph.parseName" fun x => do
      let (node,i) := parseName x.text
      return .list [node,i],
    ("graph.nameIn",on2 fun x y => do
      let (node,i) := parseName x.text
      let c ← match y with
        | .object .graphContext id => do pure (← contextAt id).context.current
        | v => pure (if (v "currentContextId").truthy then (v "currentContextId").text else "")
      return .list [scopedName node c,i]),
    fn2 "list.pieces" fun x y => return .list ((Weights.pieces (natOr y 0) x.items).map .list) ] ++
  under "attr" [ fn4 "string" fun x y z w => return Attr.string x y.text z w.truthy,
    fn4 "strings" fun x y z w => return Attr.strings x y.text z w.truthy,
    reading "bool" Attr.bool,reading "bools" Attr.bools,
    reading "number" Attr.number,reading "numbers" Attr.numbers,
    reading "dtype" Attr.dtype,reading "dtypes" Attr.dtypes,
    reading "shape" Attr.shape,reading "shapes" Attr.shapes,
    fn1 "typeName" fun x => return Attr.typeName x,
    fn1 "dims" fun x => return Attr.parseShape x ]
where
  reading (key : String) (f : Value → String → Value → Value) : Route :=
    fn3 key fun x y z => return f x y.text z

def graphConstructors : Handlers :=
  [ ("GraphModel",on2 fun x y => return .object .graphModel (← newGraphModel x y)),
    ("TensorArray",newArray),
    ("GraphContext",(newContext ·)) ]
end TensorKit.Script
